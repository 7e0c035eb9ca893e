import DdsBridge.Host.Interpreter.Operations

/-!
# A new world of the interpreter

A new world has the built-in objects, each at its place, and the module that names the built-in
classes. Modules, classes and enumeration classes are added by name.

* **`newWorld`** — the world of an interpreter that has not run yet.
* **`addModule`**, **`defineClass`**, **`defineEnum`** — modules and classes.
-/

namespace DdsBridge.Interpreter

variable {C : Type} [HostCode C]

/-- The class of a built-in class. -/
def Builtin.metaclass : Builtin → Builtin
  | .enum | .reprEnum | .intEnum => .enumType
  | _ => .type

/-- What a built-in class is. -/
def Builtin.info (b : Builtin) : ClassInfo where
  name := b.name
  qualified := b.name
  bases := b.bases.map Builtin.ref
  ancestors := b.ancestors.map Builtin.ref
  layout := b.layout.ref

/-- The body of a built-in object. -/
def Builtin.body (b : Builtin) : Body C :=
  match b with
  | .none => ⟨Builtin.noneType.ref, .plain⟩
  | .true => ⟨Builtin.bool.ref, .bool Bool.true⟩
  | .false => ⟨Builtin.bool.ref, .bool Bool.false⟩
  | _ => ⟨b.metaclass.ref, .cls b.info⟩

/-- Whether a built-in class is one that the built-in module names. -/
def Builtin.isExported (b : Builtin) : Bool :=
  b.isClass && b.home = "builtins" &&
    !([Builtin.noneType, .module, .function, .nativeFunction, .method].contains b)

/-- Makes a module known under its name. -/
def addModule (name : String) : ObjectAction C Ref := do
  let module ← Action.alloc ⟨Builtin.module.ref, .module name⟩
  let text ← newText name
  Action.change fun w => { w with modules := w.modules.insert name module }
  Action.change (World.storeAttr · module "__name__" text)
  return module

/-- The name by which a class is defined: of its module, or inside another class. -/
def placeOf (w : World (Body C)) (holder : Ref) (name : String) : String × String :=
  match core? w holder with
  | some (.module home) => (home, name)
  | some (.cls info) => (homeOf w holder, s!"{info.qualified}.{name}")
  | _ => ("builtins", name)

/-- Defines a class on a module or on another class; `above` are its bases with their ancestors. -/
def defineClass (kind : Builtin) (holder : Ref) (name : String) (bases ancestors : List Ref) :
    ObjectAction C Ref := do
  let (home, qualified) := placeOf (← Action.world) holder name
  let cls ← createClass kind home name qualified bases ancestors
  Action.change (World.storeAttr · holder name cls)
  return cls

/-- Defines a class with at most one base of its own. -/
def defineSimple (holder : Ref) (name : String) (base : Option Ref) : ObjectAction C Ref := do
  let base := base.getD Builtin.object.ref
  defineClass .type holder name [base] (lineage (← Action.world) base)

/-- Defines a class whose instances have the given slots and nothing else. -/
def defineSlotted (holder : Ref) (name : String) (slots : List String) : ObjectAction C Ref := do
  let cls ← defineSimple holder name none
  changeInfo cls fun info => { info with slots := some slots, layout := cls }
  return cls

/-- Defines an enumeration class whose members are whole numbers. -/
def defineEnum (holder : Ref) (name : String) (variants : List (String × Nat)) :
    ObjectAction C Ref := do
  let base := Builtin.intEnum.ref
  let cls ← defineClass .enumType holder name [base] (lineage (← Action.world) base)
  for (label, value) in variants do
    let member ← Action.alloc ⟨cls, .enumerator label value⟩
    Action.change (World.storeAttr · cls label member)
  return cls

/-- Creates the built-in objects and their module. -/
def createBuiltins : ObjectAction C Unit := do
  for b in Builtin.all do
    let _ ← Action.alloc b.body
  Action.change fun w => { w with permanent := w.heap.size }
  let module ← addModule "builtins"
  for b in Builtin.all do
    if b.isExported then Action.change (World.storeAttr · module b.name b.ref)

/-- The world of an interpreter that has not run yet. -/
def newWorld : World (Body C) := ((createBuiltins (C := C)).apply .empty).2

end DdsBridge.Interpreter
