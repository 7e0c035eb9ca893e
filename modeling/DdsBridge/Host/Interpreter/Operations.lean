import DdsBridge.Host.Interpreter.Classes
import DdsBridge.Host.Interpreter.Construction

/-!
# The interpreter as a host

The operations that the bridge asks of a host, on the objects of an interpreter. Almost every one
of them can run code, since a class can have methods for attributes, texts, numbers and calls. What
code does is a parameter, and so is the host that nested calls are carried out with, so none of the
definitions here refers to itself.

* **`importModule`**, **`isInstance`**, **`checkWeak`**, **`call`** — the operations that are not
  defined elsewhere.
* **`host`** — the host, given the host that nested calls go to and the meaning of code.
-/

namespace DdsBridge.Interpreter

variable {C : Type} [HostCode C]

/-! ## Modules -/

/-- The failure to find a module. -/
def noModule {α : Type} (name text : String) : ObjectAction C α := do
  let arg ← newText text
  let label ← newText name
  let exception ← newExceptionOf .moduleNotFoundError [arg]
  Action.change (World.storeAttr · exception "name" label)
  Action.change (World.storeAttr · exception "msg" arg)
  raiseWith exception text

/-- The name of the module above a module: what stands before the last point, unless that is
nothing. -/
def moduleAbove? (name : String) : Option String :=
  match (name.splitOn ".").reverse with
  | _ :: first :: rest =>
    let above := ".".intercalate (first :: rest).reverse
    if above.isEmpty then none else some above
  | _ => none

/-- A module and those above it, the highest first; no chain is longer than `depth`. -/
def modulePath : (depth : Nat) → String → List String
  | 0, _ => []
  | depth + 1, name =>
    match moduleAbove? name with
    | some above => modulePath depth above ++ [name]
    | none => [name]

/-- A module whose name cannot be found fails at the highest of the modules above it that is
missing. -/
def failToImport {α : Type} (above : Option String) : List String → ObjectAction C α
  | [] => raiseNew .valueError "Empty module name"
  | name :: rest => do
    if (← Action.world).modules.contains name then failToImport (some name) rest
    else
      match above with
      | some above => noModule name s!"No module named '{name}'; '{above}' is not a package"
      | none => noModule name s!"No module named '{name}'"

/-- A module by name. -/
def importModule (name : String) : ObjectAction C Ref := do
  match (← Action.world).modules.get? name with
  | some module => return module
  | none => failToImport none (if name.isEmpty then [] else modulePath (name.length + 1) name)

/-! ## Classes and references -/

/-- Whether an object is an instance of a class or of one in a tuple of classes, which can be
nested as deep as `depth`. -/
def isInstanceWithin : (depth : Nat) → Ref → Ref → ObjectAction C Bool
  | 0, _, _ => Action.never
  | depth + 1, obj, cls => do
    let w ← Action.world
    match core? w cls with
    | some (.cls _) => return isSubclass w (typeOf w obj) cls
    | some (.tuple items) => items.anyM (isInstanceWithin depth obj)
    | _ => raiseType "isinstance() arg 2 must be a type, a tuple of types, or a union"

/-- Whether an object is an instance of a class or of one in a tuple of classes. -/
def isInstance (obj cls : Ref) : ObjectAction C Bool := do
  isInstanceWithin ((← Action.world).heap.size + 1) obj cls

/-- Whether instances of a class can be referred to weakly: a class that is not built in makes them
so unless it has slots or its layout has no fixed size. -/
def allowsWeak (w : World (Body C)) (cls : Ref) : Bool :=
  let fixedSize := !(derivesFrom w cls .int || derivesFrom w cls .tuple)
  fixedSize && (lineage w cls).any fun c =>
    (Builtin.at? c).isNone && (classInfo? w c).any fun info => info.slots.isNone

/-- Whether an object can be referred to weakly. -/
def canBeWeak (w : World (Body C)) (obj : Ref) : Bool :=
  match core? w obj with
  | some (.module _) | some (.cls _) | some (.function _) | some (.method ..) => true
  | _ => allowsWeak w (typeOf w obj)

/-- Fails for an object that cannot be referred to weakly. -/
def checkWeak (obj : Ref) : ObjectAction C Unit := do
  let w ← Action.world
  if !canBeWeak w obj then
    raiseType s!"cannot create weak reference to '{fullTypeName w obj}' object"

/-- The part of a qualified name before the last point, or the built-in module, and the part after
it. -/
def splitQualified (qualified : String) : String × String :=
  match (qualified.splitOn ".").reverse with
  | name :: (first :: rest) => (".".intercalate (first :: rest).reverse, name)
  | _ => ("builtins", qualified)

/-- Creates an exception class; without bases it derives from the most general one. -/
def newExceptionClass (qualified : String) (bases : List Ref) : ObjectAction C Ref :=
  let (home, name) := splitQualified qualified
  deriveClass home name (if bases.isEmpty then [Builtin.exception.ref] else bases)

/-- The objects of a list or tuple. -/
def listItems (obj : Ref) : ObjectAction C (List Ref) := do
  let w ← Action.world
  match items? w obj with
  | some items => return items
  | none => raiseType s!"expected a list, got '{typeName w obj}'"

/-- The entity that an object stands for. -/
def capsuleHandle (w : World (Body C)) (obj : Ref) : Option (EntityKind × Handle) :=
  match core? w obj with
  | some (.capsule capsule) => some (capsule.kind, capsule.handle)
  | _ => none

/-- The place of a truth value. -/
def boolRef (b : Bool) : Ref := if b then Builtin.true.ref else Builtin.false.ref

/-! ## Calls -/

section Nested

/-- What code does with arguments and with arguments given by name. -/
abbrev Invocation (C : Type) := C → List Ref → List (String × Ref) → ObjectAction C Ref

variable (inner : Host (Body C)) (invoke : Invocation C)

/-- Runs code on arguments, which live at least until it ends. -/
def runCode (code : C) (args : List Ref) (named : List (String × Ref)) : ObjectAction C Ref :=
  Action.pinning (args ++ named.map Prod.snd) (invoke code args named)

/-- Calls an object. -/
def call (callable : Ref) (args : List Ref) : ObjectAction C Ref := do
  let w ← Action.world
  match core? w callable with
  | some (.function code) => runCode invoke code args []
  | some (.method receiver callee) => inner.call callee (receiver :: args)
  | some (.cls info) => instantiate inner callable info args
  | some (.weakReference target) =>
    return if (w.heap.get? target).isSome then target else Builtin.none.ref
  | _ =>
    match lookupInClass w (typeOf w callable) "__call__" with
    | some method => callSpecial inner method callable args
    | none => raiseType s!"'{fullTypeName w callable}' object is not callable"

/-- The interpreter as a host. -/
def host : Host (Body C) where
  none := Builtin.none.ref
  ofBool := boolRef
  checkWeak := checkWeak
  importModule := importModule
  getAttr := getAttr inner
  setAttr := setAttr inner
  delAttr := delAttr inner
  call := call inner invoke
  typeOf := typeOf
  isInstance := isInstance
  newInt := newInt
  newFloat x := Action.alloc ⟨Builtin.float.ref, .float x⟩
  asSigned obj := do asSigned64 (← exactInt obj)
  asUnsigned obj := do asUnsigned64 (← exactInt obj)
  asFloat := asFloat inner
  newStr := newText
  strOf := strOf inner
  newList := newList
  listItems := listItems
  newTuple := newTuple
  newCapsule capsule := Action.alloc ⟨Builtin.handle.ref, .capsule capsule⟩
  capsuleHandle := capsuleHandle
  newExceptionClass := newExceptionClass

end Nested

/-- A host whose calls do not end, the bottom of the nesting. -/
def stuck : Host (Body C) where
  none := Builtin.none.ref
  ofBool := boolRef
  checkWeak _ := Action.never
  importModule _ := Action.never
  getAttr _ _ := Action.never
  setAttr _ _ _ := Action.never
  delAttr _ _ := Action.never
  call _ _ := Action.never
  typeOf := typeOf
  isInstance _ _ := Action.never
  newInt _ := Action.never
  newFloat _ := Action.never
  asSigned _ := Action.never
  asUnsigned _ := Action.never
  asFloat _ := Action.never
  newStr _ := Action.never
  strOf _ := Action.never
  newList _ := Action.never
  listItems _ := Action.never
  newTuple _ := Action.never
  newCapsule _ := Action.never
  capsuleHandle := capsuleHandle
  newExceptionClass _ _ := Action.never

end DdsBridge.Interpreter
