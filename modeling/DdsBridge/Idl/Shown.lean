import DdsBridge.Dds.Qos
import DdsBridge.Host.View
import DdsBridge.Idl.Type

/-!
# Values as an observer sees them

A value of the interface language as a tree of plain data: numbers exactly, as decimal digits or as
the bits of a floating-point number, coded texts as bytes, enumerators by name, structures by the
names of their fields.

* **`IdlType.view`** — a value of a type.
* **`EndpointQos.view`**, **`StatusMask.view`** — other plain data.
-/

namespace DdsBridge

/-- The bits of a floating-point number; every number that is not one looks the same. -/
def View.float64 (x : Number.Binary64) : View :=
  if x.shape = .nan then .text "nan" else .text (Text.hexLower x.bits.toNat 16)

/-- The bits of a floating-point number of 32 bits. -/
def View.float32 (x : Number.Binary32) : View :=
  if x.shape = .nan then .text "nan" else .text (Text.hexLower x.bits.toNat 8)

/-- Bytes, as two digits each. -/
def View.bytes (bytes : List UInt8) : View :=
  .text (String.join (bytes.map fun b => Text.hexLower b.toNat 2))

/-- An enumerator by name. -/
def EnumDef.view (e : EnumDef) (index : Nat) : View :=
  View.optional View.text (e.variants[index]?.map Prod.fst)

mutual

/-- A value of a type. -/
def IdlType.view : IdlType → Value → View
  | .bool, .bool b => .bool b
  | .int _, .int n => .decimal n
  | .float64, .float64 x => .float64 x
  | .float32, .float32 x => .float32 x
  | .string, .text s => .text s
  | .coded _, .bytes bytes => .bytes bytes
  | .enumeration e, .variant index => e.view index
  | .struct _ fields, .record values => .fields (fields.views values)
  | .seq item, .seq items => .list (items.map item.view)
  | _, _ => .none

/-- The values of fields, by the names of the fields. -/
def Fields.views : Fields → List Value → List (String × View)
  | .cons field type rest, v :: values => (field.name, type.view v) :: rest.views values
  | _, _ => []

end

/-- The policies of a writer or reader. -/
def EndpointQos.view (qos : EndpointQos) : View :=
  let time := qos.reliability.maxBlockingTime
  .fields
    [("durability", .text qos.durability.name),
      ("reliability", .text qos.reliability.kind.name),
      ("max_blocking_time", .list [.number time.sec, .number time.nanosec]),
      ("history", .text qos.history.text),
      ("history_kind", .text qos.history.kind.name),
      ("depth", .number qos.history.depth)]

/-- A mask of statuses. -/
def StatusMask.view (mask : StatusMask) : View :=
  .fields
    [("bits", .number mask.bits.toNat), ("text", .text mask.text), ("empty", .bool mask.isEmpty),
      ("kinds", .texts (mask.kinds.map StatusKind.name))]

end DdsBridge
