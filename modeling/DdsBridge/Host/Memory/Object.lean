import DdsBridge.Host.Interface
import DdsBridge.Text.Quoted

/-!
# Objects of the host in memory

A scripting host without an interpreter: numbers, texts, lists, tuples, modules, classes,
instances, capsules and functions, with the attribute rules of a class-based dynamic language. The
class of an object is found from its body; classes know their ancestors in the order in which
attributes are looked up.

* **`Body`** — the kinds of object.
* **`Builtin`** — the objects that every world has, at fixed places.
* **`typeOf`**, **`isSubclass`**, **`lookupInClass`**, **`lookup`** — what a class says about its
  instances.
* **`inspect`** — an object as diagnostics show it.
-/

namespace DdsBridge.Memory

/-- What the host asks of the code of its functions: the objects that it refers to. -/
class HostCode (C : Type) where
  references : C → List Ref

/-- A class. `ancestors` lists every class above it in the order of look-up: the first base, the
ancestors of the first base, the second base, and so on. `init` runs on new instances. -/
structure ClassInfo (C : Type) where
  qualified : String
  bases : List Ref
  ancestors : List Ref
  init : Option C

/-- The body of an object; `C` is the code of functions. -/
inductive Body (C : Type) where
  | none
  | bool (b : Bool)
  | int (n : Int)
  | float (x : Number.Binary64)
  | str (s : String)
  | list (items : List Ref)
  | tuple (items : List Ref)
  | module (name : String)
  | cls (info : ClassInfo C)
  /-- An instance of a class, with a value if the class is a class of whole numbers. -/
  | instance (cls : Ref) (value : Option Int)
  | capsule (capsule : Capsule)
  | function (code : C)

variable {C : Type}

instance : Inhabited (Body C) := ⟨.none⟩

/-- The objects that a body refers to. The ancestors of a class are held by its bases. -/
def Body.references [HostCode C] : Body C → List Ref
  | .list items => items
  | .tuple items => items
  | .cls info =>
    info.bases ++
      match info.init with
      | some code => HostCode.references code
      | Option.none => []
  | .instance owner _ => [owner]
  | .function code => HostCode.references code
  | _ => []

instance [HostCode C] : ObjectBody (Body C) where
  references := Body.references
  capsule?
    | .capsule capsule => some capsule
    | _ => Option.none

/-! ## Built-in objects -/

/-- The objects that every world has. -/
inductive Builtin where
  | none
  | true
  | false
  | object
  | type
  | noneType
  | int
  | bool
  | float
  | str
  | list
  | tuple
  | module
  | capsule
  | function
  | exception
  deriving DecidableEq, Repr

namespace Builtin

/-- Every built-in object, in the order of their places. -/
def all : List Builtin :=
  [.none, .true, .false, .object, .type, .noneType, .int, .bool, .float, .str, .list, .tuple,
    .module, .capsule, .function, .exception]

/-- The place of a built-in object. -/
def ref (b : Builtin) : Ref := ⟨all.idxOf b⟩

/-- The name of a built-in class. -/
def className : Builtin → String
  | .none => "None"
  | .true => "True"
  | .false => "False"
  | .object => "object"
  | .type => "type"
  | .noneType => "NoneType"
  | .int => "int"
  | .bool => "bool"
  | .float => "float"
  | .str => "str"
  | .list => "list"
  | .tuple => "tuple"
  | .module => "module"
  | .capsule => "PyCapsule"
  | .function => "builtin_function_or_method"
  | .exception => "Exception"

end Builtin

/-! ## Look-ups -/

/-- The part of a qualified name after the last point. -/
def shortName (qualified : String) : String := (qualified.splitOn ".").getLastD qualified

/-- The part of a qualified name before the last point, if there is a point. -/
def moduleName? (qualified : String) : Option String :=
  match (qualified.splitOn ".").dropLast with
  | [] => Option.none
  | parts => some (".".intercalate parts)

/-- The body of an object. -/
def body? (w : World (Body C)) (r : Ref) : Option (Body C) := (w.heap.get? r).map Node.body

/-- An attribute of the object itself. -/
def ownAttr? (w : World (Body C)) (r : Ref) (name : String) : Option Ref :=
  (w.heap.get? r).bind fun node => node.attrs.get? name

/-- The class that an object is, if it is one. -/
def classInfo? (w : World (Body C)) (r : Ref) : Option (ClassInfo C) :=
  match body? w r with
  | some (.cls info) => some info
  | _ => Option.none

/-- A class and its ancestors in the order of look-up. -/
def lineage (w : World (Body C)) (cls : Ref) : List Ref :=
  cls ::
    match classInfo? w cls with
    | some info => info.ancestors
    | Option.none => []

/-- The class of an object. -/
def typeOf (w : World (Body C)) (r : Ref) : Ref :=
  match body? w r with
  | some .none => Builtin.noneType.ref
  | some (.bool _) => Builtin.bool.ref
  | some (.int _) => Builtin.int.ref
  | some (.float _) => Builtin.float.ref
  | some (.str _) => Builtin.str.ref
  | some (.list _) => Builtin.list.ref
  | some (.tuple _) => Builtin.tuple.ref
  | some (.module _) => Builtin.module.ref
  | some (.cls _) => Builtin.type.ref
  | some (.instance cls _) => cls
  | some (.capsule _) => Builtin.capsule.ref
  | some (.function _) => Builtin.function.ref
  | Option.none => Builtin.object.ref

/-- The short name of the class of an object. -/
def typeName (w : World (Body C)) (r : Ref) : String :=
  match classInfo? w (typeOf w r) with
  | some info => shortName info.qualified
  | Option.none => "object"

/-- Whether a class is another class or has it among its ancestors. -/
def isSubclass (w : World (Body C)) (cls target : Ref) : Bool := (lineage w cls).contains target

/-- An attribute that a class gives to its instances. -/
def lookupInClass (w : World (Body C)) (cls : Ref) (name : String) : Option Ref :=
  (lineage w cls).findSome? fun c => ownAttr? w c name

/-- An attribute of an object: its own, then what its class gives it or, for a class, what its
ancestors give it, and last its class itself. -/
def lookup (w : World (Body C)) (r : Ref) (name : String) : Option Ref :=
  ownAttr? w r name
    <|> (match body? w r with
      | some (.cls _) => (lineage w r).tail.findSome? fun c => ownAttr? w c name
      | some (.instance cls _) => lookupInClass w cls name
      | _ => Option.none)
    <|> (if name = "__class__" then some (typeOf w r) else Option.none)

/-- The code that runs on new instances of a class. -/
def initOf (w : World (Body C)) (cls : Ref) : Option C :=
  (lineage w cls).findSome? fun c => (classInfo? w c).bind ClassInfo.init

/-- The whole number that an object stands for. -/
def intValue? (w : World (Body C)) (r : Ref) : Option Int :=
  match body? w r with
  | some (.int n) => some n
  | some (.bool b) => some (if b then 1 else 0)
  | some (.instance _ value) => value
  | _ => Option.none

/-! ## Diagnostics -/

/-- What an object is, in a word or two. -/
def tag (w : World (Body C)) (r : Ref) : String :=
  match body? w r with
  | some .none => "None"
  | some (.bool b) => toString b
  | some (.int n) => toString n
  | some (.float x) => x.text
  | some (.str s) => Text.quoteText s
  | some (.list _) => "list"
  | some (.tuple _) => "tuple"
  | some (.module name) => s!"module {name}"
  | some (.cls info) => s!"class {info.qualified}"
  | some (.instance cls _) =>
    match classInfo? w cls with
    | some info => s!"{info.qualified} instance"
    | Option.none => "instance"
  | some (.capsule _) => "capsule"
  | some (.function _) => "function"
  | Option.none => "gone"

/-- An object as diagnostics show it. -/
def inspect (w : World (Body C)) (r : Ref) : String := s!"Object({tag w r})"

end DdsBridge.Memory
