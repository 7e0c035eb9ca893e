import DdsBridge.Host.Collect

/-!
# Actions

An action changes the world and ends with a value, with an error, or not at all: host code can
call itself without end, and a wait without a deadline can be in vain. An error leaves behind the
changes made before it.

* **`Action`** — actions, with **`attempt`** to look at an error and go on.
* **`pinning`** — keeps objects alive while host code runs.
* **`framed`** — the frame of one operation: what it made and did not leave anywhere goes with it.
-/

namespace DdsBridge

/-- Why an action has no value. -/
inductive Stop (ε : Type) where
  | raised (error : ε)
  /-- The action does not come to an end. -/
  | endless
  deriving Repr

/-- An action on a world. -/
abbrev Action (B ε α : Type) := ExceptT (Stop ε) (StateM (World B)) α

/-- An action that fails as the host fails. -/
abbrev HostAction (B α : Type) := Action B HostError α

/-- An action that fails as a bridge operation fails. -/
abbrev BridgeAction (B α : Type) := Action B Error α

namespace Action

variable {B ε δ α : Type}

/-- An action given by what it does to a world. -/
def of (f : World B → Except (Stop ε) α × World B) : Action B ε α := ExceptT.mk f

/-- Runs an action. -/
def apply (action : Action B ε α) (w : World B) : Except (Stop ε) α × World B :=
  (ExceptT.run action).run w

/-- The world as it is. -/
def world : Action B ε (World B) := get

/-- Changes the world. -/
def change (f : World B → World B) : Action B ε Unit := modify f

/-- Fails. -/
def raise (error : ε) : Action B ε α := throw (.raised error)

/-- Does not end. -/
def never : Action B ε α := throw .endless

/-- Runs an action and hands over its value or its error. -/
def attempt (action : Action B ε α) : Action B δ (Except ε α) := .of fun w =>
  match action.apply w with
  | (.ok a, w) => (.ok (.ok a), w)
  | (.error (.raised error), w) => (.ok (.error error), w)
  | (.error .endless, w) => (.error .endless, w)

/-- Changes the error of an action. -/
def mapError (f : ε → δ) (action : Action B ε α) : Action B δ α := .of fun w =>
  match action.apply w with
  | (.ok a, w) => (.ok a, w)
  | (.error (.raised error), w) => (.error (.raised (f error)), w)
  | (.error .endless, w) => (.error .endless, w)

/-- The value or the error of a computation without effect. -/
def ofExcept (r : Except ε α) : Action B ε α :=
  match r with
  | .ok a => pure a
  | .error error => raise error

/-- Runs an action and then changes the world, however the action ended. -/
def andThen (action : Action B ε α) (f : World B → World B) : Action B ε α := .of fun w =>
  let (result, w) := action.apply w
  (result, f w)

/-- Creates an object without attributes. -/
def alloc (body : B) : Action B ε Ref := .of fun w =>
  let (r, heap) := w.heap.alloc ⟨.empty, body⟩
  (.ok r, { w with heap })

/-- Keeps objects alive while an action runs. -/
def pinning (refs : List Ref) (action : Action B ε α) : Action B ε α := do
  let before := (← world).pinned
  change fun w => { w with pinned := refs ++ w.pinned }
  action.andThen fun w => { w with pinned := before }

/-- Keeps objects alive while an action runs and lets them go after it if nothing else refers to
them. -/
def holding [ObjectBody B] (refs : List Ref) (action : Action B ε α) : Action B ε α :=
  (pinning refs action).andThen World.collectAll

/-- Keeps an object alive until the running frame ends. -/
def pin (r : Ref) : Action B ε Unit := change fun w => { w with kept := r :: w.kept }

/-- The frame of one operation. Objects that it makes or pins are safe until it ends; then those
that nothing refers to go. -/
def framed [ObjectBody B] (action : Action B ε α) : Action B ε α := do
  let before ← world
  change fun w => { w with mark := w.heap.size }
  action.andThen fun w =>
    { World.collectAll { w with pinned := before.pinned, kept := before.kept } with
      mark := before.mark }

end Action

/-- A host failure inside a bridge operation is a failure of that operation. -/
instance {B : Type} : MonadLift (Action B HostError) (Action B Error) where
  monadLift := Action.mapError Error.host

/-- An action of a step, which ends the step when it fails. -/
abbrev StepAction (B α : Type) := Action B Outcome α

/-- A host failure ends a step. -/
instance {B : Type} : MonadLift (Action B HostError) (StepAction B) where
  monadLift := Action.mapError fun error => .failed (.host error)

/-- A failure of a bridge operation ends a step. -/
instance {B : Type} : MonadLift (Action B Error) (StepAction B) where
  monadLift := Action.mapError Outcome.failed

/-- Keeps the object that an action yields alive until the end of the running frame. -/
def Action.keeping {B ε : Type} (action : Action B ε Ref) : Action B ε Ref := do
  let r ← action
  Action.pin r
  return r

end DdsBridge
