import DdsBridge.Codec
import DdsBridge.Number.Binary

/-!
# Types and values of the interface language

The types of which samples are built: truth values, whole numbers of eight widths, floating-point
numbers, texts, coded texts, enumerations, structures and sequences. A structure or enumeration
names the host class that stands for it; a field of a structure names the host attribute that
holds it, or none if the host does not see the field.

* **`IdlType`**, **`Fields`** — types and the fields of a structure, mutually.
* **`Value`** — a value of some type.
* **`IdlType.default`** — the value of a field that nobody set.
* **`IdlType.Admits`** — which values belong to a type.
-/

namespace DdsBridge

/-- The widths and signs of whole numbers. -/
inductive IntKind where
  | i8
  | u8
  | i16
  | u16
  | i32
  | u32
  | i64
  | u64
  deriving DecidableEq, Repr

namespace IntKind

/-- Every kind. -/
def all : List IntKind := [.i8, .u8, .i16, .u16, .i32, .u32, .i64, .u64]

/-- The kind's name. -/
def name : IntKind → String
  | .i8 => "i8"
  | .u8 => "u8"
  | .i16 => "i16"
  | .u16 => "u16"
  | .i32 => "i32"
  | .u32 => "u32"
  | .i64 => "i64"
  | .u64 => "u64"

/-- Whether negative numbers belong to the kind. -/
def isSigned : IntKind → Bool
  | .i8 | .i16 | .i32 | .i64 => true
  | .u8 | .u16 | .u32 | .u64 => false

/-- How many bytes a number takes. -/
def size : IntKind → Nat
  | .i8 | .u8 => 1
  | .i16 | .u16 => 2
  | .i32 | .u32 => 4
  | .i64 | .u64 => 8

/-- How many numbers the kind has. -/
def count (kind : IntKind) : Nat := Nat.pow 2 (8 * kind.size)

/-- How many numbers of the kind are not negative. -/
def upperCount (kind : IntKind) : Nat := if kind.isSigned then kind.count / 2 else kind.count

/-- The least number of the kind. -/
def least (kind : IntKind) : Int := (kind.upperCount : Int) - kind.count

/-- The greatest number of the kind. -/
def greatest (kind : IntKind) : Int := (kind.upperCount : Int) - 1

/-- Whether a number belongs to the kind. -/
def holds (kind : IntKind) (n : Int) : Bool := kind.least ≤ n && n ≤ kind.greatest

end IntKind

/-- Where the host class of a structure or enumeration is found: attributes to follow from a
module. -/
structure ClassPath where
  moduleName : String
  path : List String
  deriving DecidableEq, Repr

/-- The path's text without the module. -/
def ClassPath.text (c : ClassPath) : String := ".".intercalate c.path

/-- An enumeration: its own name, its host class and its enumerators with their values. -/
structure EnumDef where
  name : String
  host : ClassPath
  variants : List (String × Nat)
  deriving DecidableEq, Repr

/-- What a structure is apart from its fields: its own name, the type name under which samples of
it are published, and its host class. -/
structure StructHead where
  name : String
  typeName : String
  host : ClassPath
  deriving DecidableEq, Repr

/-- A field's name, and the host attribute that holds it if the host sees the field. -/
structure FieldName where
  name : String
  hostName : Option String
  deriving DecidableEq, Repr

mutual

/-- A type. -/
inductive IdlType where
  | bool
  | int (kind : IntKind)
  | float64
  | float32
  /-- A text. -/
  | string
  /-- The bytes of a text in a codec, which need not be well formed. -/
  | coded (codec : Codec)
  | enumeration (e : EnumDef)
  | struct (head : StructHead) (fields : Fields)
  | seq (item : IdlType)

/-- The fields of a structure, in order. -/
inductive Fields where
  | nil
  | cons (field : FieldName) (type : IdlType) (rest : Fields)

end

instance : Inhabited IdlType := ⟨.bool⟩

/-- A structure type, the only kind of type that is published. -/
structure StructType where
  head : StructHead
  fields : Fields

/-- The type of a structure's values. -/
def StructType.type (s : StructType) : IdlType := .struct s.head s.fields

/-- A value of some type; a structure's value lists its fields, an enumeration's value is the
index of the enumerator. -/
inductive Value where
  | bool (b : Bool)
  | int (n : Int)
  | float64 (x : Number.Binary64)
  | float32 (x : Number.Binary32)
  | text (s : String)
  | bytes (bytes : List UInt8)
  | variant (index : Nat)
  | record (fields : List Value)
  | seq (items : List Value)
  deriving Repr, Inhabited

mutual

/-- The value of a field that nobody set. -/
def IdlType.default : IdlType → Value
  | .bool => .bool false
  | .int _ => .int 0
  | .float64 => .float64 ⟨0⟩
  | .float32 => .float32 ⟨0⟩
  | .string => .text ""
  | .coded _ => .bytes []
  | .enumeration _ => .variant 0
  | .struct _ fields => .record fields.defaults
  | .seq _ => .seq []

/-- The values of fields that nobody set. -/
def Fields.defaults : Fields → List Value
  | .nil => []
  | .cons _ type rest => type.default :: rest.defaults

end

mutual

/-- Which values belong to a type. -/
def IdlType.Admits : IdlType → Value → Prop
  | .bool, .bool _ => True
  | .int kind, .int n => kind.least ≤ n ∧ n ≤ kind.greatest
  | .float64, .float64 _ => True
  | .float32, .float32 _ => True
  | .string, .text _ => True
  | .coded _, .bytes _ => True
  | .enumeration e, .variant index => index < e.variants.length
  | .struct _ fields, .record values => fields.Admit values
  | .seq item, .seq items => ∀ v ∈ items, item.Admits v
  | _, _ => False

/-- Which lists of values belong to fields. -/
def Fields.Admit : Fields → List Value → Prop
  | .nil, [] => True
  | .cons _ type rest, v :: values => type.Admits v ∧ rest.Admit values
  | _, _ => False

end

end DdsBridge
