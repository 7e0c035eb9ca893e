import DdsBridge.Extension.Module
import DdsBridge.Program.HostOperation

/-!
# Running a program

A step carries out its command in a frame of its own; an exception that it raises is shown with its
class and its text. Functions of the program are code that the interpreter runs, which can carry
out steps in the middle of other steps, and these can call functions again; the interpreter is
therefore built in levels, each of which hands nested calls to the level below.

* **`Command.run`**, **`runStep`** — one command, and one step with its outcome.
* **`invoke`**, **`hostAt`** — what functions do, and the interpreter at a level.
* **`reportSteps`** — steps one after the other, each with what happened in its course.
-/

namespace DdsBridge.Program

open Interpreter

variable (isFile : String → Bool)

section Commands

variable (h : ProgramHost)

/-! ## Commands -/

/-- Changes the registers, and lets go what only they referred to. -/
def changeRegisters (f : Table String Ref → Table String Ref) : ProgramStep Unit :=
  Action.change fun w => World.collect { w with registers := f w.registers }

/-- An action with the bridge, which must be there. -/
def withBridge {α : Type} (operation : BridgeAction ProgramBody α) : ProgramAction α := do
  Extension.requireBridge
  Extension.raising h operation

/-- The function of the extension module with a name. -/
def functionNamed (name : String) : ProgramStep Ref := do
  match (← Action.world).modules.get? Extension.moduleName with
  | none => Action.raise (.invalid "no extension module")
  | some module => h.getAttr module name

/-- Calls a function of the extension module. -/
def callFunction (name : String) (args : List Operand) (named : List (String × Operand)) :
    ProgramStep Yield := do
  let args ← evalAll h args
  let named ← evalNamed h named
  let callee ← functionNamed h name
  match core? (← Action.world) callee with
  | some (.function (.native f)) =>
    let all := args ++ named.map Prod.snd
    let called := f.call isFile h Extension.moduleName args named
    let result : ProgramAction Ref := Action.pinning all called
    yieldObject h (← result)
  | _ => do yieldObject h (← h.call callee args)

/-- Whether a name is in capitals. -/
def isUpper (name : String) : Bool := name.any Char.isUpper && !name.any Char.isLower

/-- What a module defines: numbers with names in capitals, classes and functions. -/
def contentsView (w : ProgramWorld) (module : Ref) : View :=
  let attrs := ((w.heap.get? module).map fun node => node.attrs.entries).getD []
  .fields <| attrs.filterMap fun (name, obj) =>
    match core? w obj with
    | some (.int n) => if isUpper name then some (name, .number n) else none
    | some (.cls _) => some (name, classView w obj)
    | some (.function _) => some (name, .text "function")
    | _ => none

/-- A structure converted into an instance that exists already, and whether it is that one. -/
def updateInstance (type : StructType) (value : Value) (existing : Operand) :
    ProgramStep Yield := do
  let existing ← existing.eval h
  let obj ← withBridge h (Marshal.structToHost h .bridge type value (some existing))
  let shown ← showObject h obj
  return ⟨.list [.bool (obj == existing), shown], some obj⟩

/-- Carries out a command, except one that catches an exception. -/
def Command.perform : Command → ProgramStep Yield
  | .call function args named => callFunction isFile h function args named
  | .use value => do yieldObject h (← value.eval h)
  | .getAttr obj name => do
    let obj ← obj.eval h
    yieldObject h (← h.getAttr obj name)
  | .setAttr obj name value => do
    let obj ← obj.eval h
    let value ← value.eval h
    h.setAttr obj name value
    yieldDone
  | .delAttr obj name => do
    let obj ← obj.eval h
    h.delAttr obj name
    yieldDone
  | .drop name => do
    let existed := (← Action.world).registers.contains name
    changeRegisters fun registers => registers.erase name
    yieldView (.bool existed)
  | .same a b => do
    let a ← a.eval h
    let b ← b.eval h
    yieldView (.bool (identical (← Action.world) a b))
  | .isInstance obj cls => do
    let obj ← obj.eval h
    let cls ← cls.eval h
    yieldView (.bool (← h.isInstance obj cls))
  | .ancestors cls => do
    let cls ← cls.eval h
    let w ← Action.world
    yieldView (.list ((lineage w cls).map (classView w)))
  | .literal obj => do
    let obj ← obj.eval h
    yieldView (textView (← literalOf h obj))
  | .contents => do
    let w ← Action.world
    match w.modules.get? Extension.moduleName with
    | some module => yieldView (contentsView w module)
    | none => Action.raise (.invalid "no extension module")
  | .load => do
    let module ← Extension.load h Code.native
    changeRegisters fun registers => registers.insert "module" module
    yieldDone
  | .register type => do
    yieldObject h (← withBridge h (Registry.registerTopicType h type))
  | .fromHost type obj => do
    let obj ← obj.eval h
    let value ← withBridge h (Marshal.fromHost h .bridge type obj)
    yieldView (type.view value)
  | .toHost type value => do
    yieldObject h (← withBridge h (Marshal.toHost h .bridge type value))
  | .update type value existing => updateInstance h type value existing
  | .raiseError error => Extension.raiseError h error
  | .raiseHostError error => do Extension.raiseHostError (C := Code) error
  | .raiseCauses texts =>
    raiseNew (C := Code) .runtimeError (": ".intercalate texts.reverse)
  | .isAlive handle => do
    let alive ← withBridge h (return (← Action.world).provider.isAlive handle)
    yieldView (.bool alive)
  | .host operation => operation.run h
  | .attempt _ => Action.raise (.invalid "not a plain command")

/-- The exception that an action of a step raises, or what the action yields without one. -/
def caught (action : ProgramStep Yield) : ProgramStep Yield := do
  match ← action.attempt (δ := Outcome) with
  | .ok yielded => yieldView (.fields [("none", yielded.view)])
  | .error (.failed (.host ⟨_, _, some (.object exception)⟩)) => yieldObject h exception
  | .error outcome => Action.raise outcome

/-- Keeps the object that a step yields in a register. -/
def keepYield (name : Option String) (object : Option Ref) : ProgramStep Unit :=
  match name, object with
  | some name, some r => changeRegisters fun registers => registers.insert name r
  | _, _ => return

mutual

/-- Carries out a command. -/
def Command.run : Command → ProgramStep Yield
  | .attempt step => caught h step.run
  | command => command.perform isFile h

/-- Carries out the command of a step and keeps what it yields. -/
def Step.run : Step → ProgramStep Yield
  | .mk command register => do
    let yielded ← command.run
    keepYield register yielded.object
    return yielded

end

/-! ## Steps -/

/-- The outcome of a step that failed. -/
def failureOutcome : Outcome → ProgramAction Outcome
  | .failed (.host ⟨_, _, some (.object exception)⟩) => do
    let (cls, text, code) ← exceptionParts h exception
    return .raised cls text code
  | outcome => return outcome

/-- Carries out a step and tells its outcome. -/
def runStep (step : Step) : ProgramAction Outcome :=
  Action.framed do
    match ← (step.run isFile h).attempt with
    | .ok yielded => return .ok yielded.view
    | .error outcome => failureOutcome h outcome

/-! ## Functions -/

/-- The name of the register for an argument of a script. -/
def argRegister (index : Nat) : String := s!"arg{index}"

/-- Adds to the trace of the running step. -/
def note (event : Event) : ProgramAction Unit :=
  Action.change fun w => { w with events := w.events ++ [event] }

/-- Carries out the steps of a script with its arguments in registers. -/
def runScript (steps : List Step) (args : List Ref) : ProgramAction Unit := do
  let names := (List.range args.length).map argRegister
  for (name, arg) in names.zip args do
    Action.change fun w => { w with registers := w.registers.insert name arg }
  for step in steps do
    note (.stepped (← runStep isFile h step))
  for name in names do
    Action.change fun w => World.collect { w with registers := w.registers.erase name }

/-- Raises an exception, or a new instance of an exception class. -/
def raiseAny (exception : Ref) : ProgramAction Ref := do
  let w ← Action.world
  if (classInfo? w exception).isSome && derivesFrom w exception .baseException then
    raiseObject h (← h.call exception [])
  else raiseObject h exception

/-- Assigns an attribute past the class's method for that, unless it is the guarded one. -/
def guardAttr (attr : String) (exception : Ref) (args : List Ref) : ProgramAction Ref := do
  match args with
  | [obj, name, value] =>
    let name ← strOf h name
    if name = attr then raiseAny h exception
    else
      storeDirectly obj name value
      return h.none
  | _ => raiseType s!"guard() takes 3 positional arguments but {args.length} were given"

/-- What a function does; `h` is the host that it sees. -/
def invoke : Invocation Code
  | .give value, _, _ => return value
  | .fail exception, _, _ => raiseAny h exception
  | .record name, args, _ => do
    note (.recorded name (← args.mapM (showObject h)))
    return h.none
  | .guard attr exception, args, _ => guardAttr h attr exception args
  | .script steps, args, _ => do
    runScript isFile h steps args
    return h.none
  | .native f, args, named => f.call isFile h Extension.moduleName args named

end Commands

/-- The interpreter whose nested calls go down a number of levels. -/
def hostAt : (level : Nat) → ProgramHost
  | 0 => stuck
  | level + 1 =>
    let inner := hostAt level
    host inner (invoke isFile inner)

/-- How deep calls nest in a program at most. -/
def callDepth : Nat := 200

/-! ## Programs -/

/-- What happened in a step: its outcome and the trace of functions. -/
structure StepReport where
  outcome : Outcome
  events : List Event

/-- Carries out a step of a program. -/
def reportStep (h : ProgramHost) (w : ProgramWorld) (step : Step) : StepReport × ProgramWorld :=
  let (result, w) := (runStep isFile h step).apply { w with events := [] }
  let outcome := match result with
    | .ok outcome => outcome
    | .error (.raised error) => .failed (.host error)
    | .error .endless => .invalid "the step does not end"
  ({ outcome, events := w.events }, w)

/-- Carries out steps one after the other. -/
def reportSteps (h : ProgramHost) : ProgramWorld → List Step → List StepReport
  | _, [] => []
  | w, step :: rest =>
    let (report, w) := reportStep isFile h w step
    report :: reportSteps h w rest

end DdsBridge.Program
