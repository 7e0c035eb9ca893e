import DdsBridge.Host.Memory.Operations
import DdsBridge.Session.Command

/-!
# Evaluating operands

An operand stands for an object: one in a register, or one that is built for the step. Everything
that an operand stands for lives until the end of the step.

* **`Operand.eval`** — the object that an operand stands for.
* **`FunctionSpec.eval`** — the function that a notation stands for; its value is built now.
-/

namespace DdsBridge.Session

/-- An action of a step of a session. -/
abbrev SessionAction (α : Type) := StepAction SessionBody α

variable (h : Host SessionBody)

/-- The object in a register. -/
def register (name : String) : SessionAction Ref := do
  match (← Action.world).registers.get? name with
  | some r => return r
  | none => Action.raise (.invalid s!"unknown register {name}")

mutual

/-- The object that an operand stands for. -/
def Operand.eval : Operand → SessionAction Ref
  | .none => return h.none
  | .bool b => return h.ofBool b
  | .int n => Action.keeping (h.newInt n)
  | .float x => Action.keeping (h.newFloat x)
  | .text s => Action.keeping (h.newStr s)
  | .register name => Action.keeping (register name)
  | .list items => do
    let items ← evalAll items
    Action.keeping (h.newList items)
  | .tuple items => do
    let items ← evalAll items
    Action.keeping (h.newTuple items)
  | .instance cls attrs => do
    let cls ← cls.eval
    let obj ← Action.keeping (h.call cls [])
    assignAll obj attrs
    return obj
  | .call callable args => do
    let callable ← callable.eval
    let args ← evalAll args
    Action.keeping (h.call callable args)
  | .function spec => do
    let code ← spec.eval
    Action.keeping (Action.alloc (.function code))

/-- The objects that operands stand for. -/
def evalAll : List Operand → SessionAction (List Ref)
  | [] => return []
  | operand :: rest => do
    let r ← operand.eval
    return r :: (← evalAll rest)

/-- Assigns attributes in order, each as soon as its value is there. -/
def assignAll (obj : Ref) : List (String × Operand) → SessionAction Unit
  | [] => return
  | (name, operand) :: rest => do
    let value ← operand.eval
    h.setAttr obj name value
    assignAll obj rest

/-- The function that a notation stands for. -/
def FunctionSpec.eval : FunctionSpec → SessionAction Code
  | .give value => return .give (← value.eval)
  | .fail error => return .fail error
  | .record name => return .record name
  | .guard attr error => return .guard attr error
  | .argument index => return .argument index
  | .attribute name => return .attribute name
  | .script steps => return .script steps

end

/-- The object that an operand stands for, if there is one. -/
def evalOptional : Option Operand → SessionAction (Option Ref)
  | none => return none
  | some operand => return some (← operand.eval h)

end DdsBridge.Session
