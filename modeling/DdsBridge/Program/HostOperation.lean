import DdsBridge.Program.Operand
import DdsBridge.Program.Shown

/-!
# Single operations of the host

What the commands for single operations of the host do. A failure of the operation is not an
exception of the step: it is shown with its kind.

* **`Yield`** — what a command yields.
* **`HostOperation.run`** — one operation.
-/

namespace DdsBridge.Program

open Interpreter

/-- What a command yields: something to show and, if that is an object, the object. -/
structure Yield where
  view : View
  object : Option Ref

/-- Something to show that is not an object. -/
def yieldView {ε : Type} (view : View) : Action ProgramBody ε Yield := return ⟨view, none⟩

/-- Nothing but that the command succeeded. -/
def yieldDone {ε : Type} : Action ProgramBody ε Yield := yieldView (.bool true)

/-- Whether two references name the same object. Small whole numbers, texts of at most one
character of the first 256 and the empty tuple exist once, however often they are made. -/
def identical (w : ProgramWorld) (a b : Ref) : Bool :=
  a = b ||
    match core? w a, core? w b with
    | some (.int m), some (.int n) => m = n && -5 ≤ n && n ≤ 256
    | some (.str s), some (.str t) => s = t && s.codes.length ≤ 1 && s.codes.all (· < 256)
    | some (.tuple []), some (.tuple []) => true
    | _, _ => false

section Nested

variable (h : ProgramHost)

/-- An object. -/
def yieldObject (obj : Ref) : ProgramAction Yield := do
  return ⟨← showObject h obj, some obj⟩

/-- Whether an object is the empty object, true, or false. -/
def flagsOf (obj : Ref) : List View :=
  [.bool (obj == h.none), .bool (obj == h.ofBool true), .bool (obj == h.ofBool false)]

/-- Something shown as a tuple. -/
def tupleView (items : List View) : View := .fields [("tuple", .list items)]

/-- The target of a weak reference, or the empty object if it is gone. -/
def targetOf (weak : Ref) : ProgramAction Ref := do
  match ← (h.call weak []).attempt (δ := HostError) with
  | .ok obj => return obj
  | .error _ => return h.none

/-- The entity that an object stands for. -/
def handleView (w : ProgramWorld) (obj : Ref) : View :=
  match h.capsuleHandle w obj with
  | some (kind, handle) => tupleView [.text kind.name, .text handle.text]
  | none => .none

/-- What diagnostics show of an object that stands for an entity. -/
def capsuleTextView (w : ProgramWorld) (obj : Ref) : View :=
  match core? w obj with
  | some (.capsule capsule) => .text (capsule.inspect Builtin.handle.name)
  | _ => .none

/-- A new object with the value of another. -/
def copyOf (obj : Ref) : ProgramAction Ref := do
  let w ← Action.world
  match core? w obj with
  | some (.int n) => newInt n
  | some (.float x) => h.newFloat x
  | some (.str s) => newText (← encodable s)
  | _ => return obj

/-- An operation with the objects that its operands stand for. -/
def HostOperation.eval : HostOperation Operand → ProgramStep (HostOperation Ref)
  | .empty => return .empty
  | .isEmpty obj => return .isEmpty (← obj.eval h)
  | .isTrue obj => return .isTrue (← obj.eval h)
  | .isFalse obj => return .isFalse (← obj.eval h)
  | .flags obj => return .flags (← obj.eval h)
  | .sameIdentity a b => return .sameIdentity (← a.eval h) (← b.eval h)
  | .renew obj => return .renew (← obj.eval h)
  | .newList items => return .newList (← evalAll h items)
  | .newTuple items => return .newTuple (← evalAll h items)
  | .weaken obj => return .weaken (← obj.eval h)
  | .upgrade obj => return .upgrade (← obj.eval h)
  | .importModule name => return .importModule name
  | .getAttr obj name => return .getAttr (← obj.eval h) name
  | .setAttr obj name value => return .setAttr (← obj.eval h) name (← value.eval h)
  | .delAttr obj name => return .delAttr (← obj.eval h) name
  | .call callable args => return .call (← callable.eval h) (← evalAll h args)
  | .typeOf obj => return .typeOf (← obj.eval h)
  | .isInstance obj cls => return .isInstance (← obj.eval h) (← cls.eval h)
  | .asSigned obj => return .asSigned (← obj.eval h)
  | .asUnsigned obj => return .asUnsigned (← obj.eval h)
  | .asFloat obj => return .asFloat (← obj.eval h)
  | .strOf obj => return .strOf (← obj.eval h)
  | .listItems obj => return .listItems (← obj.eval h)
  | .capsuleHandle obj => return .capsuleHandle (← obj.eval h)
  | .capsuleText obj => return .capsuleText (← obj.eval h)
  | .newExceptionClass name bases => return .newExceptionClass name (← evalAll h bases)
  | .describe obj => return .describe (← obj.eval h)

/-- Carries out an operation. -/
def HostOperation.perform : HostOperation Ref → ProgramAction Yield
  | .empty => yieldObject h h.none
  | .isEmpty obj => yieldView (.bool (obj == h.none))
  | .isTrue obj => yieldView (.bool (obj == h.ofBool true))
  | .isFalse obj => yieldView (.bool (obj == h.ofBool false))
  | .flags obj => yieldView (tupleView (flagsOf h obj))
  | .sameIdentity a b => do yieldView (.bool (identical (← Action.world) a b))
  | .renew obj => do yieldObject h (← copyOf h obj)
  | .newList items => do yieldObject h (← h.newList items)
  | .newTuple items => do yieldObject h (← h.newTuple items)
  | .weaken obj => do
    h.checkWeak obj
    yieldObject h (← Action.alloc ⟨Builtin.weakReference.ref, .weakReference obj⟩)
  | .upgrade obj => do yieldObject h (← targetOf h obj)
  | .importModule name => do yieldObject h (← h.importModule name)
  | .getAttr obj name => do yieldObject h (← h.getAttr obj name)
  | .setAttr obj name value => do
    h.setAttr obj name value
    yieldDone
  | .delAttr obj name => do
    h.delAttr obj name
    yieldDone
  | .call callable args => do yieldObject h (← h.call callable args)
  | .typeOf obj => do yieldObject h (h.typeOf (← Action.world) obj)
  | .isInstance obj cls => do yieldView (.bool (← h.isInstance obj cls))
  | .asSigned obj => do yieldView (intView (← h.asSigned obj))
  | .asUnsigned obj => do yieldView (intView (← h.asUnsigned obj))
  | .asFloat obj => do yieldView (floatView (← h.asFloat obj))
  | .strOf obj => do yieldView (.text (← h.strOf obj))
  | .listItems obj => do yieldObject h (← h.newList (← h.listItems obj))
  | .capsuleHandle obj => do yieldView (handleView h (← Action.world) obj)
  | .capsuleText obj => do yieldView (capsuleTextView (← Action.world) obj)
  | .newExceptionClass name bases => do yieldObject h (← h.newExceptionClass name bases)
  | .describe obj => do yieldView (.text (← h.describe obj))

/-- A failure of the host as fields. -/
def hostErrorView (error : HostError) : View :=
  .fields [("host_error", .text error.kind.name), ("message", .text error.message)]

/-- Carries out an operation; its failure is shown, while that of an operand is not. -/
def HostOperation.run (operation : HostOperation Operand) : ProgramStep Yield := do
  match ← ((← operation.eval h).perform h).attempt with
  | .ok yielded => return yielded
  | .error error => yieldView (hostErrorView error)

end Nested

end DdsBridge.Program
