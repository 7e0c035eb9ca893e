import DdsBridge.Idl.Type

/-!
# A catalog of sample types

The enumerations and structures that sessions refer to by name: readings of a sensor, one
structure with every scalar, one with every kind of text, nested ones, and some whose host class
is missing.

* **`Catalog.enums`**, **`Catalog.structs`** — everything in the catalog.
* **`Catalog.find?`** — a type by name.
-/

namespace DdsBridge.Catalog

/-- A field seen by the host under its own name. -/
def field (name : String) (type : IdlType) (rest : Fields) : Fields :=
  .cons ⟨name, some name⟩ type rest

/-- A class of module `basic`. -/
def basicClass (name : String) : ClassPath := ⟨"basic", [name]⟩

/-- The kinds of reading. -/
def readingKind : EnumDef where
  name := "ReadingKind"
  host := basicClass "ReadingKind"
  variants := [("Speed", 0), ("Acceleration", 1), ("Distance", 2)]

/-- Levels, with values that are not the enumerators' indices. -/
def level : EnumDef where
  name := "Level"
  host := basicClass "Level"
  variants := [("Low", 1), ("Mid", 5), ("High", 4294967295)]

/-- A reading of a sensor. -/
def reading : StructType where
  head := ⟨"Reading", "Test::Reading", basicClass "Reading"⟩
  fields :=
    field "kind" (.enumeration readingKind) <|
    field "value" (.int .i32) <|
    field "where" .string <|
    .nil

/-- Every scalar type. -/
def scalars : StructType where
  head := ⟨"Scalars", "Test::Scalars", basicClass "Scalars"⟩
  fields :=
    field "flag" .bool <|
    field "i1" (.int .i8) <|
    field "u1" (.int .u8) <|
    field "i2" (.int .i16) <|
    field "u2" (.int .u16) <|
    field "i4" (.int .i32) <|
    field "u4" (.int .u32) <|
    field "i8" (.int .i64) <|
    field "u8" (.int .u64) <|
    field "f4" .float32 <|
    field "f8" .float64 <|
    .nil

/-- Every kind of text. -/
def texts : StructType where
  head := ⟨"Texts", "Test::Texts", basicClass "Texts"⟩
  fields :=
    field "plain" .string <|
    field "utf8" (.coded .utf8) <|
    field "ascii" (.coded .ascii) <|
    field "latin1" (.coded .latin1) <|
    .nil

/-- Structures, enumerations and sequences inside a structure. -/
def nested : StructType where
  head := ⟨"Nested", "Test::Nested", basicClass "Nested"⟩
  fields :=
    field "id" (.int .u64) <|
    field "inner" reading.type <|
    field "level" (.enumeration level) <|
    field "samples" (.seq .float64) <|
    field "readings" (.seq reading.type) <|
    field "matrix" (.seq (.seq (.int .i16))) <|
    field "names" (.seq .string) <|
    field "flags" (.seq .bool) <|
    .nil

/-- No fields. -/
def emptyStruct : StructType where
  head := ⟨"Empty", "Test::Empty", basicClass "Empty"⟩
  fields := .nil

/-- A field that the host does not see and one that it sees under another name. -/
def partialStruct : StructType where
  head := ⟨"Partial", "Test::Partial", basicClass "Partial"⟩
  fields :=
    field "a" (.int .i32) <|
    .cons ⟨"hidden", none⟩ (.int .u16) <|
    .cons ⟨"b", some "bee"⟩ (.int .i8) <|
    .nil

/-- A class inside a class. -/
def inner : StructType where
  head := ⟨"Inner", "Pkg::Outer::Inner", ⟨"pkg.sub", ["Outer", "Inner"]⟩⟩
  fields := field "n" (.int .i16) .nil

/-- An empty type name. -/
def blank : StructType where
  head := ⟨"Blank", "", basicClass "Blank"⟩
  fields := field "n" (.int .i32) .nil

/-- A module that does not exist. -/
def ghost : StructType where
  head := ⟨"Ghost", "Test::Ghost", ⟨"ghosts", ["Ghost"]⟩⟩
  fields := .nil

/-- A class that does not exist. -/
def lost : StructType where
  head := ⟨"Lost", "Test::Lost", ⟨"basic", ["Missing", "Deep"]⟩⟩
  fields := .nil

/-- The enumerations. -/
def enums : List EnumDef := [readingKind, level]

/-- The structures. -/
def structs : List StructType :=
  [reading, scalars, texts, nested, emptyStruct, partialStruct, inner, blank, ghost, lost]

/-- The structures that have a host class and a type name of their own. -/
def published : List StructType :=
  [reading, scalars, texts, nested, emptyStruct, partialStruct, inner]

/-- The structure with a name. -/
def findStruct? (name : String) : Option StructType := structs.find? (·.head.name == name)

/-- The type with a name, sequences excepted. -/
def find? (name : String) : Option IdlType :=
  match name with
  | "bool" => some .bool
  | "f32" => some .float32
  | "f64" => some .float64
  | "string" => some .string
  | "utf8" => some (.coded .utf8)
  | "ascii" => some (.coded .ascii)
  | "latin1" => some (.coded .latin1)
  | _ =>
    ((IntKind.all.find? (·.name == name)).map IdlType.int)
      <|> ((enums.find? (·.name == name)).map IdlType.enumeration)
      <|> ((findStruct? name).map StructType.type)

end DdsBridge.Catalog
