import DdsBridge.Host.Memory.Prelude
import DdsBridge.Session.Result

/-!
# Commands on host objects

What the commands on host objects, modules and registers do, in terms of the host's operations.

* **`HostCommand.run`** — one command.
-/

namespace DdsBridge.Session

variable (h : Host SessionBody)

/-- Changes the registers, and lets go what only they referred to. -/
def changeRegisters (f : Table String Ref → Table String Ref) : SessionAction Unit :=
  Action.change fun w => World.collect { w with registers := f w.registers }

/-- An object in full; `depth` bounds how deep lists and tuples are nested. -/
def dumpView (w : SessionWorld) : (depth : Nat) → Ref → View
  | 0, r => inspectView w r
  | depth + 1, r =>
    match Memory.body? w r with
    | some (.list items) => .list (items.map (dumpView w depth))
    | some (.tuple items) => .list (items.map (dumpView w depth))
    | _ => inspectView w r

/-- Whether an object is the one that stands for nothing, for true, or for false. -/
def flagsView (r : Ref) : View :=
  .list [.bool (r == h.none), .bool (r == h.ofBool true), .bool (r == h.ofBool false)]

/-- The objects of a list or tuple. -/
def itemsOf (obj : Operand) : SessionAction (List Ref) := do
  let obj ← obj.eval h
  h.listItems obj

/-- Defines a class; its initializer is evaluated before the class exists. -/
def defineClass (module : Operand) (name : String) (bases : List Operand)
    (init : Option FunctionSpec) : SessionAction Yield := do
  let module ← module.eval h
  let bases ← evalAll h bases
  let init ← match init with
    | some spec => some <$> spec.eval h
    | none => pure none
  let cls ← (Memory.defineClass module name bases init : HostAction SessionBody Ref)
  yieldObject cls

/-- Carries out a command on host objects. -/
def HostCommand.run : HostCommand Operand FunctionSpec → SessionAction Yield
  | .addModule name => do
    yieldObject (← (Memory.addModule name : HostAction SessionBody Ref))
  | .defineClass module name bases init => Session.defineClass h module name bases init
  | .defineException name bases => do
    let bases ← evalAll h bases
    yieldObject (← h.newExceptionClass name bases)
  | .use value => do yieldObject (← value.eval h)
  | .importModule name => do yieldObject (← h.importModule name)
  | .getAttr obj name => do
    let obj ← obj.eval h
    yieldObject (← h.getAttr obj name)
  | .setAttr obj name value => do
    let obj ← obj.eval h
    let value ← value.eval h
    h.setAttr obj name value
    yieldDone
  | .delAttr obj name => do
    let obj ← obj.eval h
    h.delAttr obj name
    yieldDone
  | .call callable args => do
    let callable ← callable.eval h
    let args ← evalAll h args
    yieldObject (← h.call callable args)
  | .typeOf obj => do
    let obj ← obj.eval h
    yieldObject (h.typeOf (← Action.world) obj)
  | .isInstance obj cls => do
    let obj ← obj.eval h
    let cls ← cls.eval h
    yieldView (.bool (← h.isInstance obj cls))
  | .same a b => do
    let a ← a.eval h
    let b ← b.eval h
    yieldView (.list [.bool (a == b), .bool (a.id == b.id)])
  | .flags obj => do yieldView (flagsView h (← obj.eval h))
  | .asSigned obj => do
    let obj ← obj.eval h
    yieldView (.decimal (← h.asSigned obj))
  | .asUnsigned obj => do
    let obj ← obj.eval h
    yieldView (.decimal (← h.asUnsigned obj))
  | .asFloat obj => do
    let obj ← obj.eval h
    yieldView (.float64 (← h.asFloat obj))
  | .strOf obj => do
    let obj ← obj.eval h
    yieldView (.text (← h.strOf obj))
  | .describe obj => do
    let obj ← obj.eval h
    yieldView (.text (← h.describe obj))
  | .inspect obj => do
    let obj ← obj.eval h
    yieldView (inspectView (← Action.world) obj)
  | .dump obj => do
    let obj ← obj.eval h
    let w ← Action.world
    yieldView (dumpView w w.heap.size obj)
  | .items obj => do
    let items ← itemsOf h obj
    let w ← Action.world
    yieldView (.list (items.map (inspectView w)))
  | .item obj index => do
    match (← itemsOf h obj)[index]? with
    | some found => yieldObject found
    | none => Action.raise (.invalid s!"no item {index}")
  | .capsuleHandle obj => do
    let obj ← obj.eval h
    yieldView (.optional entityView (h.capsuleHandle (← Action.world) obj))
  | .weaken obj name => do
    let obj ← obj.eval h
    Action.change fun w => { w with weakNames := w.weakNames.insert name obj }
    yieldDone
  | .upgrade name => do
    let w ← Action.world
    match (w.weakNames.get? name).filter fun r => (w.heap.get? r).isSome with
    | some r => yieldObject r
    | none => yieldView .none
  | .drop name => do
    let existed := (← Action.world).registers.contains name
    changeRegisters fun registers => registers.erase name
    yieldView (.bool existed)
  | .dropAll => do
    let count := (← Action.world).registers.size
    changeRegisters fun _ => .empty
    yieldView (.number count)
  | .counters => do
    let w ← Action.world
    yieldView (.list [.number w.unlockCount, .number w.threadCount])

end DdsBridge.Session
