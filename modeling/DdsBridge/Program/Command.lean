import DdsBridge.Extension.Function
import DdsBridge.Idl.Type

/-!
# The commands of a program

A program is a list of steps for the interpreter. A step carries out one command and may keep the
object that the command yields in a register. Most commands do what a line of a program would do;
some reach past the interpreter to what an extension module can do with the bridge, and some ask
for a single operation of the host.

* **`HostOperation`** — one operation of the host; `O` stands for the notation of objects.
* **`Operand`**, **`FunctionSpec`**, **`Command`**, **`Step`** — the notation of a program,
  mutually: functions hold steps, and a command can be a step whose exception is caught.
* **`Code`** — a function as it lives in the heap, its values already objects.
-/

namespace DdsBridge.Program

open Interpreter

/-- One operation of the host. -/
inductive HostOperation (O : Type) where
  /-- The empty object. -/
  | empty
  | isEmpty (obj : O)
  | isTrue (obj : O)
  | isFalse (obj : O)
  /-- Whether an object is the empty object, true, or false. -/
  | flags (obj : O)
  | sameIdentity (a b : O)
  /-- A new object with the value of another. -/
  | renew (obj : O)
  | newList (items : List O)
  | newTuple (items : List O)
  | weaken (obj : O)
  | upgrade (obj : O)
  | importModule (name : String)
  | getAttr (obj : O) (name : String)
  | setAttr (obj : O) (name : String) (value : O)
  | delAttr (obj : O) (name : String)
  | call (callable : O) (args : List O)
  | typeOf (obj : O)
  | isInstance (obj cls : O)
  | asSigned (obj : O)
  | asUnsigned (obj : O)
  | asFloat (obj : O)
  | strOf (obj : O)
  | listItems (obj : O)
  | capsuleHandle (obj : O)
  /-- What diagnostics show of an object that stands for an entity. -/
  | capsuleText (obj : O)
  | newExceptionClass (name : String) (bases : List O)
  | describe (obj : O)

mutual

/-- The notation of an object. -/
inductive Operand where
  | none
  | bool (b : Bool)
  | int (n : Int)
  | float (x : Number.Binary64)
  | text (s : Text.Points)
  | register (name : String)
  | list (items : List Operand)
  | tuple (items : List Operand)
  | dict (entries : List (String × Operand))
  /-- A new instance of a class, with attributes assigned in order. -/
  | instance (cls : Operand) (attrs : List (String × Operand))
  | call (callable : Operand) (args : List Operand)
  | function (spec : FunctionSpec)

/-- The notation of a function. -/
inductive FunctionSpec where
  /-- Returns an object, the same each time. -/
  | give (value : Operand)
  /-- Raises an exception, the same each time. -/
  | fail (exception : Operand)
  /-- Leaves a trace of its arguments. -/
  | record (name : String)
  /-- Assigns an attribute, except one, for which it raises an exception. -/
  | guard (attr : String) (exception : Operand)
  /-- Carries out steps with its arguments in registers. -/
  | script (steps : List Step)

/-- A command. -/
inductive Command where
  /-- Calls a function of the extension module. -/
  | call (function : String) (args : List Operand) (named : List (String × Operand))
  | use (value : Operand)
  | getAttr (obj : Operand) (name : String)
  | setAttr (obj : Operand) (name : String) (value : Operand)
  | delAttr (obj : Operand) (name : String)
  | drop (name : String)
  | same (a b : Operand)
  | isInstance (obj cls : Operand)
  /-- A class with its ancestors, by name. -/
  | ancestors (cls : Operand)
  | literal (obj : Operand)
  /-- Carries out a step and yields the exception that it raises. -/
  | attempt (step : Step)
  /-- What the extension module defines. -/
  | contents
  /-- Imports the extension module. -/
  | load
  | register (type : StructType)
  | fromHost (type : IdlType) (obj : Operand)
  | toHost (type : IdlType) (value : Value)
  /-- Converts a structure into an instance that exists already. -/
  | update (type : StructType) (value : Value) (existing : Operand)
  | raiseError (error : Error)
  | raiseHostError (error : HostError)
  /-- Raises an error with the causes behind it, the first cause first. -/
  | raiseCauses (texts : List String)
  /-- Whether the provider has an entity. -/
  | isAlive (handle : Handle)
  | host (operation : HostOperation Operand)

/-- A command, and the register that keeps the object it yields. -/
inductive Step where
  | mk (command : Command) (register : Option String)

end

instance : Inhabited Operand := ⟨.none⟩

/-- The command of a step. -/
def Step.command : Step → Command
  | .mk command _ => command

/-- The register that keeps the object that a step yields. -/
def Step.register : Step → Option String
  | .mk _ register => register

/-- A function of the heap. -/
inductive Code where
  | give (value : Ref)
  | fail (exception : Ref)
  | record (name : String)
  | guard (attr : String) (exception : Ref)
  | script (steps : List Step)
  /-- A function of the extension module. -/
  | native (function : Extension.Function)

instance : HostCode Code where
  references
    | .give value => [value]
    | .fail exception => [exception]
    | .guard _ exception => [exception]
    | _ => []
  binds
    | .native _ => false
    | _ => true

/-- The body of an object of a program. -/
abbrev ProgramBody := Body Code

/-- The world of a program. -/
abbrev ProgramWorld := World ProgramBody

/-- The host that a program sees. -/
abbrev ProgramHost := Host ProgramBody

/-- An action of a program that raises exceptions. -/
abbrev ProgramAction (α : Type) := ObjectAction Code α

/-- An action of a step of a program. -/
abbrev ProgramStep (α : Type) := StepAction ProgramBody α

end DdsBridge.Program
