import DdsBridge.Session.BridgeCommand
import DdsBridge.Session.HostCommand
import DdsBridge.Session.ProviderCommand
import DdsBridge.Session.TypeCommand

/-!
# Running a session

A step carries out its command in a frame of its own. Functions of the session are host code, which
can carry out steps in the middle of other steps, and these can call functions again; the host is
therefore built in levels, each of which hands nested calls to the level below.

* **`runStep`** — one step, with its outcome.
* **`invoke`**, **`hostAt`** — what functions do, and the host at a level.
* **`Session.run`** — a whole session, each step with what happened in its course.
-/

namespace DdsBridge.Session

/-- A world with the operations of the host that it is seen through. -/
abbrev SessionHost := Host SessionBody

variable (isFile : String → Bool)

/-- Carries out a command. -/
def runCommand (h : SessionHost) : Command Operand FunctionSpec → SessionAction Yield
  | .host command => command.run h
  | .type command => command.run h
  | .capsule command => command.run h
  | .bridge command => command.run isFile h
  | .provider command => command.run isFile

/-- Keeps the object that a step yields in a register. -/
def keepYield (name : Option String) (object : Option Ref) : SessionAction Unit :=
  match name, object with
  | some name, some r => Action.change fun w => { w with registers := w.registers.insert name r }
  | _, _ => return

/-- Carries out a step and tells its outcome. -/
def runStep (h : SessionHost) (step : SessionStep) : HostAction SessionBody Outcome :=
  Action.framed do
    let body : SessionAction View := do
      let yielded ← runCommand isFile h step.command
      keepYield step.register yielded.object
      return yielded.view
    match ← body.attempt with
    | .ok view => return .ok view
    | .error outcome => return outcome

/-! ## Functions -/

/-- The name of the register for an argument of a script. -/
def argRegister (index : Nat) : String := s!"arg{index}"

/-- The argument of a function at an index. -/
def argument (args : List Ref) (index : Nat) : HostAction SessionBody Ref :=
  match args[index]? with
  | some arg => return arg
  | none => Action.raise (.type s!"missing argument {index}")

/-- Adds to the trace of the running step. -/
def note (event : Event) : HostAction SessionBody Unit :=
  Action.change fun w => { w with events := w.events ++ [event] }

/-- Carries out the steps of a script with its arguments in registers. -/
def runScript (h : SessionHost) (steps : List SessionStep) (args : List Ref) :
    HostAction SessionBody Unit := do
  let names := (List.range args.length).map argRegister
  for (name, arg) in names.zip args do
    Action.change fun w => { w with registers := w.registers.insert name arg }
  for step in steps do
    note (.stepped (← runStep isFile h step))
  for name in names do
    Action.change fun w => World.collect { w with registers := w.registers.erase name }

/-- What a function does; `h` is the host that it sees. -/
def invoke (h : SessionHost) : Code → List Ref → HostAction SessionBody Ref
  | .give value, _ => return value
  | .fail error, _ => Action.raise error
  | .record name, args => do
    let w ← Action.world
    note (.recorded name (args.map (inspectView w)))
    return h.none
  | .guard attr error, args => do
    if (← h.strOf (← argument args 1)) = attr then Action.raise error
    return h.none
  | .argument index, args => argument args index
  | .attribute name, args => do h.getAttr (← argument args 0) name
  | .script steps, args => do
    runScript isFile h steps args
    return h.none

/-- The host whose nested calls go down a number of levels. -/
def hostAt : (level : Nat) → SessionHost
  | 0 => Memory.stuck
  | level + 1 =>
    let inner := hostAt level
    Memory.host inner (invoke isFile inner)

/-- How deep calls of host code nest in a session at most. -/
def callDepth : Nat := 200

/-! ## Sessions -/

/-- What happened in a step: its outcome, the trace of host code, the entities that were given
back, and the state after it if the session is traced. -/
structure StepReport where
  outcome : Outcome
  events : List Event
  releases : List Release
  state : Option View

/-- Carries out a step of a session. -/
def reportStep (h : SessionHost) (traced : Bool) (w : SessionWorld) (step : SessionStep) :
    StepReport × SessionWorld :=
  let (result, w) := (runStep isFile h step).apply { w with events := [], releases := [] }
  let outcome := match result with
    | .ok outcome => outcome
    | .error (.raised error) => .failed (.host error)
    | .error .endless => .invalid "the step does not end"
  let state := if traced then some (traceView w) else none
  ({ outcome, events := w.events, releases := w.releases, state }, w)

/-- Carries out steps one after the other. -/
def reportSteps (h : SessionHost) (traced : Bool) :
    SessionWorld → List SessionStep → List StepReport
  | _, [] => []
  | w, step :: rest =>
    let (report, w) := reportStep isFile h traced w step
    report :: reportSteps h traced w rest

end DdsBridge.Session
