import DdsBridge.Host.Interface

/-!
# Exception classes

The bridge has an exception class for every kind of error below a common base, and below the class
of failed operations one for every return code that signals a failure. Where the host offers the
matching built-in exception class, the bridge's class derives from it as well. The classes are made
once, when the bridge is built.

* **`createExceptions`** — the classes.
* **`ExceptionTable.classFor`** — the most specific class of an error.
* **`newException`** — the exception object of an error.
-/

namespace DdsBridge

/-- The name of the common base class. -/
def baseException : String := "PyOpenDDS_Error"

namespace ExceptionTable

/-- The class of a kind of error. -/
def classForKind (t : ExceptionTable) (kind : ErrorKind) : Ref := (t.kinds.get? kind).getD t.base

/-- The class of a return code, if it signals a failure. -/
def classForCode (t : ExceptionTable) (code : ReturnCode) : Option Ref := t.codes.get? code

/-- The most specific class of an error. -/
def classFor (t : ExceptionTable) (error : Error) : Ref :=
  match error with
  | .operation _ code => (t.codes.get? code).getD (t.classForKind .operation)
  | _ => t.classForKind error.kind

/-- Every class with its short name: the base, the kinds, the codes. -/
def classes (t : ExceptionTable) : List (String × Ref) :=
  (baseException, t.base) ::
    (ErrorKind.all.filterMap fun kind =>
      (t.kinds.get? kind).map fun cls => (kind.exceptionName, cls)) ++
    (ReturnCode.failures.filterMap fun code =>
      (t.codes.get? code).map fun cls => (code.exceptionName, cls))

end ExceptionTable

variable {B : Type} (h : Host B)

/-- A class among the built-in ones, if the host has it. -/
def builtinClass (name : String) : HostAction B (List Ref) := do
  match ← (h.importModule "builtins").attempt (δ := HostError) with
  | .error _ => return []
  | .ok module =>
    match ← (h.getAttr module name).attempt (δ := HostError) with
    | .error _ => return []
    | .ok cls => return [cls]

/-- The class of a kind of error. -/
def createKindClass (moduleName : String) (base : Ref) (kind : ErrorKind) : HostAction B Ref := do
  let builtin ← match kind.builtinBase with
    | some name => builtinClass h name
    | none => pure []
  h.newExceptionClass s!"{moduleName}.{kind.exceptionName}" (base :: builtin)

/-- The exception classes of a bridge, qualified with the name of a module. -/
def createExceptions (moduleName : String) : HostAction B ExceptionTable := do
  let base ← h.newExceptionClass s!"{moduleName}.{baseException}" (← builtinClass h "Exception")
  let mut kinds : Table ErrorKind Ref := .empty
  for kind in ErrorKind.all do
    if kind ≠ .host then
      kinds := kinds.insert kind (← createKindClass h moduleName base kind)
  let parent := (kinds.get? .operation).getD base
  let mut codes : Table ReturnCode Ref := .empty
  for code in ReturnCode.failures do
    codes := codes.insert code
      (← h.newExceptionClass s!"{moduleName}.{code.exceptionName}" [parent])
  return { moduleName, base, kinds, codes }

/-- The exception object of an error. One behind which there is a return code carries it as an
attribute. -/
def newException (error : Error) : HostAction B Ref := do
  let cls := (← Action.world).bridge.exceptions.classFor error
  let exception ← h.call cls [← h.newStr error.message]
  match error.returnCode? with
  | none => return exception
  | some code =>
    let number ← h.newInt code.code
    Action.pinning [exception] (h.setAttr exception "return_code" number)
    return exception

end DdsBridge
