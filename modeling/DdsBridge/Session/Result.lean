import DdsBridge.Idl.Shown
import DdsBridge.Session.Operand

/-!
# What a command yields

A command that succeeds yields something to show and, if what it shows is an object, the object
itself, which the step can keep.

* **`Yield`** — what a command yields.
* **`yieldObject`**, **`yieldView`**, **`yieldDone`** — the three common kinds.
-/

namespace DdsBridge.Session

/-- What a command yields. -/
structure Yield where
  view : View
  object : Option Ref

/-- Something to show that is not an object. -/
def yieldView (view : View) : SessionAction Yield := return ⟨view, none⟩

/-- Nothing but that the command succeeded. -/
def yieldDone : SessionAction Yield := yieldView (.bool true)

/-- An object as diagnostics show it. -/
def inspectView (w : SessionWorld) (r : Ref) : View := .text (Memory.inspect w r)

/-- An object. -/
def yieldObject (r : Ref) : SessionAction Yield := do
  return ⟨inspectView (← Action.world) r, some r⟩

/-- A value of a type. -/
def yieldValue (type : IdlType) (v : Value) : SessionAction Yield := yieldView (type.view v)

/-- The kind and the handle of an entity. -/
def entityView (held : EntityKind × Handle) : View :=
  .texts [held.1.name, held.2.text]

end DdsBridge.Session
