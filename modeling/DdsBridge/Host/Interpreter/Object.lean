import DdsBridge.Host.Interface
import DdsBridge.Host.Interpreter.Builtin
import DdsBridge.Text.Literal

/-!
# Objects of the interpreter

Every object has a class and a core, which is what it is made of besides its attributes. An
instance of a class that derives from a built-in one has the core of the built-in class, so a whole
number stays a whole number whatever class it belongs to.

* **`Core`**, **`Body`** — the kinds of object.
* **`ClassInfo`** — a class with its ancestors in the order of look-up, the class itself left out.
* **`lineage`**, **`isSubclass`**, **`lookupInClass`** — what a class says about its instances.
* **`intValue?`**, **`boundCode?`** — what can be read off an object without running code.
-/

namespace DdsBridge.Interpreter

/-- What the interpreter asks of the code of its functions. -/
class HostCode (C : Type) where
  /-- The objects that code refers to. -/
  references : C → List Ref
  /-- Whether a function that an object gets from its class takes the object as its first
  argument. -/
  binds : C → Bool

/-- A class. `ancestors` are the classes above it, nearest first, and `layout` is the class that
decides how its instances are laid out. Instances of a class with `slots` have no attributes but
these. -/
structure ClassInfo where
  name : String
  qualified : String
  bases : List Ref
  ancestors : List Ref
  layout : Ref
  slots : Option (List String) := none

/-- What an object is made of besides its attributes; `C` is the code of functions. -/
inductive Core (C : Type) where
  | plain
  | bool (b : Bool)
  | int (n : Int)
  | float (x : Number.Binary64)
  | str (s : Text.Points)
  | list (items : List Ref)
  | tuple (items : List Ref)
  | dict (entries : List (Ref × Ref))
  | module (name : String)
  | cls (info : ClassInfo)
  | enumerator (name : String) (value : Int)
  | exception (args : List Ref)
  | capsule (capsule : Capsule)
  | function (code : C)
  | method (receiver callee : Ref)
  /-- A reference that does not keep its target alive. -/
  | weakReference (target : Ref)

/-- The body of an object: its class and its core. -/
structure Body (C : Type) where
  cls : Ref
  core : Core C

variable {C : Type}

instance : Inhabited (Core C) := ⟨.plain⟩

/-- The objects that a core refers to. The ancestors of a class are held by its bases. -/
def Core.references [HostCode C] : Core C → List Ref
  | .list items => items
  | .tuple items => items
  | .dict entries => entries.flatMap fun entry => [entry.1, entry.2]
  | .cls info => info.bases
  | .exception args => args
  | .function code => HostCode.references code
  | .method receiver callee => [receiver, callee]
  | _ => []

instance [HostCode C] : ObjectBody (Body C) where
  references body := body.cls :: body.core.references
  capsule? body :=
    match body.core with
    | .capsule capsule => some capsule
    | _ => none

/-! ## Classes -/

/-- The core of an object. -/
def core? (w : World (Body C)) (r : Ref) : Option (Core C) :=
  (w.heap.get? r).map fun node => node.body.core

/-- The class of an object. -/
def typeOf (w : World (Body C)) (r : Ref) : Ref :=
  match w.heap.get? r with
  | some node => node.body.cls
  | none => Builtin.object.ref

/-- An attribute of the object itself. -/
def ownAttr? (w : World (Body C)) (r : Ref) (name : String) : Option Ref :=
  (w.heap.get? r).bind fun node => node.attrs.get? name

/-- The class that an object is, if it is one. -/
def classInfo? (w : World (Body C)) (r : Ref) : Option ClassInfo :=
  match core? w r with
  | some (.cls info) => some info
  | _ => none

/-- A class and its ancestors in the order of look-up. -/
def lineage (w : World (Body C)) (cls : Ref) : List Ref :=
  cls ::
    match classInfo? w cls with
    | some info => info.ancestors
    | none => []

/-- Whether a class is another class or derives from it. -/
def isSubclass (w : World (Body C)) (cls target : Ref) : Bool := (lineage w cls).contains target

/-- Whether a class is a built-in class or derives from it. -/
def derivesFrom (w : World (Body C)) (cls : Ref) (b : Builtin) : Bool := isSubclass w cls b.ref

/-- Whether an object is an instance of a built-in class. -/
def isA (w : World (Body C)) (r : Ref) (b : Builtin) : Bool := derivesFrom w (typeOf w r) b

/-- An attribute that a class gives to its instances. -/
def lookupInClass (w : World (Body C)) (cls : Ref) (name : String) : Option Ref :=
  (lineage w cls).findSome? fun c => ownAttr? w c name

/-- The name of a class. -/
def className (w : World (Body C)) (cls : Ref) : String :=
  match classInfo? w cls with
  | some info => info.name
  | none => "object"

/-- The name of a class in most error texts. -/
def fullClassName (w : World (Body C)) (cls : Ref) : String :=
  match Builtin.at? cls with
  | some b => b.fullName
  | none => className w cls

/-- The name of the class of an object. -/
def typeName (w : World (Body C)) (r : Ref) : String := className w (typeOf w r)

/-- The name of the class of an object in most error texts. -/
def fullTypeName (w : World (Body C)) (r : Ref) : String := fullClassName w (typeOf w r)

/-- Whether a class is an enumeration class with or without members. -/
def isEnumClass (w : World (Body C)) (cls : Ref) : Bool :=
  derivesFrom w (typeOf w cls) .enumType

/-- The module that a class belongs to. -/
def homeOf (w : World (Body C)) (cls : Ref) : String :=
  match Builtin.at? cls with
  | some b => b.home
  | none =>
    match (lookupInClass w cls "__module__").bind (core? w) with
    | some (.str home) => home.lossy
    | _ => "builtins"

/-- A class with its module. -/
def qualifiedName (w : World (Body C)) (cls : Ref) : String :=
  match classInfo? w cls with
  | some info => s!"{homeOf w cls}.{info.qualified}"
  | none => "object"

/-! ## Values -/

/-- The whole number that an object stands for. -/
def intValue? (w : World (Body C)) (r : Ref) : Option Int :=
  match core? w r with
  | some (.int n) => some n
  | some (.bool b) => some (if b then 1 else 0)
  | some (.enumerator _ n) => some n
  | _ => none

/-- The objects of a list or tuple. -/
def items? (w : World (Body C)) (r : Ref) : Option (List Ref) :=
  match core? w r with
  | some (.list items) => some items
  | some (.tuple items) => some items
  | _ => none

/-- The code of a function. -/
def code? (w : World (Body C)) (r : Ref) : Option C :=
  match core? w r with
  | some (.function code) => some code
  | _ => none

/-- The code of a function that takes the object it was found for as its first argument. -/
def boundCode? [HostCode C] (w : World (Body C)) (r : Ref) : Option C :=
  (code? w r).filter HostCode.binds

end DdsBridge.Interpreter
