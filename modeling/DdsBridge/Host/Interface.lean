import DdsBridge.Host.Action
import DdsBridge.Number.Shortest

/-!
# The scripting host as the bridge sees it

The bridge reaches host objects only through the operations of a `Host`. What the operations mean
differs from host to host; that a call or an attribute write may run host code, and with it any
bridge operation, holds of every host.

* **`Host`** — the operations.
* **`Host.describe`** — the name of an object's class, for error texts.
* **`unlocked`**, **`onThread`** — the marks that a wait and a callback leave on the host's lock.
-/

namespace DdsBridge

/-- The operations of a scripting host. -/
structure Host (B : Type) where
  /-- The object that stands for nothing. -/
  none : Ref
  /-- The object for a truth value. -/
  ofBool : Bool → Ref
  /-- Whether an object can be referred to weakly. -/
  checkWeak : Ref → HostAction B Unit
  /-- A module by name. -/
  importModule : String → HostAction B Ref
  getAttr : Ref → String → HostAction B Ref
  setAttr : Ref → String → Ref → HostAction B Unit
  delAttr : Ref → String → HostAction B Unit
  call : Ref → List Ref → HostAction B Ref
  /-- The class of an object. -/
  typeOf : World B → Ref → Ref
  /-- Whether an object is an instance of a class. -/
  isInstance : Ref → Ref → HostAction B Bool
  newInt : Int → HostAction B Ref
  newFloat : Number.Binary64 → HostAction B Ref
  /-- A whole number of 64 bits with a sign; an overflow error beyond them. -/
  asSigned : Ref → HostAction B Int
  /-- A whole number of 64 bits without a sign; an overflow error beyond them. -/
  asUnsigned : Ref → HostAction B Int
  asFloat : Ref → HostAction B Number.Binary64
  newStr : String → HostAction B Ref
  /-- The text of an object, as the host writes it. -/
  strOf : Ref → HostAction B String
  newList : List Ref → HostAction B Ref
  listItems : Ref → HostAction B (List Ref)
  newTuple : List Ref → HostAction B Ref
  /-- An object that stands for a proxy's hold on an entity. -/
  newCapsule : Capsule → HostAction B Ref
  /-- The entity that such an object stands for. -/
  capsuleHandle : World B → Ref → Option (EntityKind × Handle)
  newExceptionClass : String → List Ref → HostAction B Ref

namespace Host

variable {B : Type}

/-- The name of the class of an object, or the text of the class if its name is unknown. -/
def describe {ε : Type} (h : Host B) (obj : Ref) : Action B ε String := do
  let w ← Action.world
  let cls := h.typeOf w obj
  let named : HostAction B String := do h.strOf (← h.getAttr cls "__name__")
  match ← named.attempt with
  | .ok name => return name
  | .error _ =>
    match ← (h.strOf cls).attempt with
    | .ok text => return text
    | .error _ => return "<object>"

end Host

/-- Notes that the host's lock was released for an action. -/
def unlocked {B ε α : Type} (action : Action B ε α) : Action B ε α := do
  Action.change fun w => { w with unlockCount := w.unlockCount + 1 }
  action

/-- Notes that an action was run as if on a thread of its own. -/
def onThread {B ε α : Type} (action : Action B ε α) : Action B ε α := do
  Action.change fun w => { w with threadCount := w.threadCount + 1 }
  action

end DdsBridge
