import DdsBridge.Program.Command

/-!
# Evaluating operands of programs

An operand stands for an object: one in a register, or one that is built for the step. Everything
that an operand stands for lives until the end of the step.

* **`Operand.eval`** — the object that an operand stands for.
* **`FunctionSpec.eval`** — the function that a notation stands for; its values are built now.
-/

namespace DdsBridge.Program

open Interpreter

variable (h : ProgramHost)

/-- The object in a register. -/
def register (name : String) : ProgramStep Ref := do
  match (← Action.world).registers.get? name with
  | some r => return r
  | none => Action.raise (.invalid s!"unknown register {name}")

/-- A new object with a core. -/
def make (cls : Builtin) (core : Core Code) : ProgramStep Ref :=
  Action.keeping (Action.alloc ⟨cls.ref, core⟩)

mutual

/-- The object that an operand stands for. -/
def Operand.eval : Operand → ProgramStep Ref
  | .none => return h.none
  | .bool b => return h.ofBool b
  | .int n => make .int (.int n)
  | .float x => make .float (.float x)
  | .text s => make .str (.str s)
  | .register name => Action.keeping (Program.register name)
  | .list items => do make .list (.list (← evalAll items))
  | .tuple items => do make .tuple (.tuple (← evalAll items))
  | .dict entries => do make .dict (.dict (← evalEntries entries))
  | .instance cls attrs => do
    let cls ← cls.eval
    let obj ← Action.keeping (h.call cls [])
    assignAll obj attrs
    return obj
  | .call callable args => do
    let callable ← callable.eval
    let args ← evalAll args
    Action.keeping (h.call callable args)
  | .function spec => do make .function (.function (← spec.eval))

/-- The objects that operands stand for. -/
def evalAll : List Operand → ProgramStep (List Ref)
  | [] => return []
  | operand :: rest => do
    let r ← operand.eval
    return r :: (← evalAll rest)

/-- The objects that operands with names stand for. -/
def evalEntries : List (String × Operand) → ProgramStep (List (Ref × Ref))
  | [] => return []
  | (name, operand) :: rest => do
    let key ← make .str (.str (.ofString name))
    let value ← operand.eval
    return (key, value) :: (← evalEntries rest)

/-- Assigns attributes in order, each as soon as its value is there. -/
def assignAll (obj : Ref) : List (String × Operand) → ProgramStep Unit
  | [] => return
  | (name, operand) :: rest => do
    let value ← operand.eval
    h.setAttr obj name value
    assignAll obj rest

/-- The function that a notation stands for. -/
def FunctionSpec.eval : FunctionSpec → ProgramStep Code
  | .give value => return .give (← value.eval)
  | .fail exception => return .fail (← exception.eval)
  | .record name => return .record name
  | .guard attr exception => return .guard attr (← exception.eval)
  | .script steps => return .script steps

end

/-- The objects that operands given by name stand for. -/
def evalNamed : List (String × Operand) → ProgramStep (List (String × Ref))
  | [] => return []
  | (name, operand) :: rest => do
    let value ← operand.eval h
    return (name, value) :: (← evalNamed rest)

end DdsBridge.Program
