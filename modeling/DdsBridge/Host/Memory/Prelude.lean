import DdsBridge.Host.Memory.Operations

/-!
# A new world in memory

A new world has the built-in objects, each at its place, and one module that names the built-in
classes and some exception classes. Modules and classes are added by name.

* **`newWorld`** — the world of a session before its first step.
* **`addModule`**, **`defineClass`** — modules and classes.
-/

namespace DdsBridge.Memory

variable {C : Type} [HostCode C]

/-- The base of a built-in class, if it has one. -/
def Builtin.base? : Builtin → Option Builtin
  | .object => Option.none
  | .bool => some .int
  | _ => some .object

/-- The body of a built-in object. -/
def Builtin.body (b : Builtin) : Body C :=
  match b with
  | .none => .none
  | .true => .bool Bool.true
  | .false => .bool Bool.false
  | .object => .cls ⟨b.className, [], [], Option.none⟩
  | .bool => .cls ⟨b.className, [Builtin.int.ref], [Builtin.int.ref, Builtin.object.ref], Option.none⟩
  | _ => .cls ⟨b.className, [Builtin.object.ref], [Builtin.object.ref], Option.none⟩

/-- Whether a built-in object is a class. -/
def Builtin.isClass : Builtin → Bool
  | .none | .true | .false => Bool.false
  | _ => Bool.true

/-- The classes that the module of built-in objects names. -/
def exportedBuiltins : List Builtin :=
  [.object, .type, .int, .bool, .float, .str, .list, .tuple, .exception]

/-- The exception classes that the module of built-in objects names. -/
def builtinExceptions : List String := ["TypeError", "ValueError", "OverflowError", "TimeoutError"]

/-- The module with a name, made on first use. -/
def addModule (name : String) : MemoryAction C Ref := do
  match (← Action.world).modules.get? name with
  | some module => return module
  | Option.none =>
    let module ← Action.alloc (.module name)
    Action.change fun w => { w with modules := w.modules.insert name module }
    return module

/-- Defines a class and stores it under its name on a module, or on any other object, as a class
of the main module. Without bases it derives from the root class. -/
def defineClass (module : Ref) (name : String) (bases : List Ref) (init : Option C) :
    MemoryAction C Ref := do
  let home := match body? (← Action.world) module with
    | some (.module home) => home
    | _ => "__main__"
  let bases := if bases.isEmpty then [Builtin.object.ref] else bases
  let cls ← newClass s!"{home}.{name}" bases init
  Action.change (World.storeAttr · module name cls)
  return cls

/-- Creates the built-in objects and their module. -/
def createBuiltins : MemoryAction C Unit := do
  for b in Builtin.all do
    let _ ← Action.alloc b.body
  Action.change fun w => { w with permanent := w.heap.size }
  for b in Builtin.all do
    if b.isClass then
      let name ← Action.alloc (.str b.className)
      Action.change (World.storeAttr · b.ref "__name__" name)
  let module ← addModule "builtins"
  for b in exportedBuiltins do
    Action.change (World.storeAttr · module b.className b.ref)
  for name in builtinExceptions do
    let cls ← newClass name [Builtin.exception.ref] Option.none
    Action.change (World.storeAttr · module name cls)

/-- The world of a session before its first step. -/
def newWorld : World (Body C) := ((createBuiltins (C := C)).apply .empty).2

end DdsBridge.Memory
