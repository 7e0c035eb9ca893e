import DdsBridge.Idl.Coding

/-!
# The common data representation

The coded form of a value: a header of four bytes that gives the byte order, then the value. A
number starts at an offset, counted from the header's end, that is a multiple of its size. A text
is its length with a final zero byte, its bytes and that byte; a coded text and a sequence are
their length and their items; an enumerator is its index; a structure is its fields.

* **`encode`** — always with the low byte first; a length that does not fit four bytes is refused.
* **`decode`** — with either byte order; bytes after the value are ignored.
* **`Fault`** — why a value has no coded form, or why bytes are not the coded form of a value.
* **`coding`** — both as the coding that the programs hand to the bridge.
-/

namespace DdsBridge.Cdr

/-- Why a value has no coded form, or why bytes are not the coded form of a value. -/
inductive Fault where
  /-- A length does not fit four bytes. -/
  | long
  /-- The bytes end too early. -/
  | short
  /-- The header names no byte order. -/
  | encapsulation
  /-- A truth value is neither zero nor one. -/
  | notBool (byte : Nat)
  /-- A text is not UTF-8. -/
  | text (fault : Text.Utf8.Fault)
  /-- There is no enumerator with this index. -/
  | variant (index count : Nat)
  deriving DecidableEq, Repr

/-- The text of a fault. -/
def Fault.message : Fault → String
  | .long => "sequence is too long"
  | .short => "failed to fill whole buffer"
  | .encapsulation => "encapsulation is not valid"
  | .notBool byte => s!"expected 0 or 1, found {byte}"
  | .text fault => fault.message
  | .variant index count =>
    s!"invalid value: integer `{index}`, expected variant index 0 <= i < {count}"

/-! ## Writing -/

/-- How many bytes bring an offset to a multiple of `size`. -/
def padding (offset size : Nat) : Nat := (size - offset % size) % size

/-- The low `size` bytes of a number, the lowest first. -/
def littleEndian (n : Nat) : (size : Nat) → List UInt8
  | 0 => []
  | size + 1 => UInt8.ofNat (n % 256) :: littleEndian (n / 256) size

/-- A number at its place after `offset` bytes. -/
def encodeNat (offset size n : Nat) : List UInt8 :=
  List.replicate (padding offset size) 0 ++ littleEndian n size

/-- The items of a sequence one after the other, the first after `offset` bytes. -/
def encodeItems (item : Nat → Value → List UInt8) (offset : Nat) : List Value → List UInt8
  | [] => []
  | v :: rest =>
    let bytes := item offset v
    bytes ++ encodeItems item (offset + bytes.length) rest

mutual

/-- The coded form of a value after `offset` bytes. -/
def encodeAt : IdlType → (offset : Nat) → Value → List UInt8
  | .bool, _, .bool b => [if b then 1 else 0]
  | .int kind, offset, .int n =>
    encodeNat offset kind.size (n % kind.count).toNat
  | .float64, offset, .float64 x => encodeNat offset 8 x.bits.toNat
  | .float32, offset, .float32 x => encodeNat offset 4 x.bits.toNat
  | .string, offset, .text s =>
    let bytes := Text.Utf8.encode s
    encodeNat offset 4 (bytes.length + 1) ++ bytes ++ [0]
  | .coded _, offset, .bytes bytes => encodeNat offset 4 bytes.length ++ bytes
  | .enumeration _, offset, .variant index => encodeNat offset 4 index
  | .struct _ fields, offset, .record values => encodeFields fields offset values
  | .seq item, offset, .seq items =>
    let count := encodeNat offset 4 items.length
    count ++ encodeItems (encodeAt item) (offset + count.length) items
  | _, _, _ => []

/-- The coded form of fields after `offset` bytes. -/
def encodeFields : Fields → (offset : Nat) → List Value → List UInt8
  | .cons _ type rest, offset, v :: values =>
    let bytes := encodeAt type offset v
    bytes ++ encodeFields rest (offset + bytes.length) values
  | _, _, _ => []

end

/-- The greatest length that can be coded. -/
def maxLength : Nat := 0xffffffff

mutual

/-- Whether the lengths in a value can be coded. -/
def lengthsFit : IdlType → Value → Bool
  | .string, .text s => (Text.Utf8.encode s).length + 1 ≤ maxLength
  | .coded _, .bytes bytes => bytes.length ≤ maxLength
  | .struct _ fields, .record values => fieldLengthsFit fields values
  | .seq item, .seq items => items.length ≤ maxLength && items.all (lengthsFit item)
  | _, _ => true

/-- Whether the lengths in the values of fields can be coded. -/
def fieldLengthsFit : Fields → List Value → Bool
  | .cons _ type rest, v :: values => lengthsFit type v && fieldLengthsFit rest values
  | _, _ => true

end

/-- The header that announces the low byte first. -/
def header : List UInt8 := [0, 1, 0, 0]

/-- The coded form of a value. -/
def encode (type : IdlType) (v : Value) : Except Fault (List UInt8) :=
  if lengthsFit type v then .ok (header ++ encodeAt type 0 v) else .error .long

/-! ## Reading -/

/-- What is left to read: the bytes read since the header, and the bytes that follow. -/
structure Input where
  offset : Nat
  rest : List UInt8
  deriving Repr

/-- Reads something, or stops at a fault. -/
abbrev Reader (α : Type) := StateT Input (Except Fault) α

/-- Reads a number of bytes. -/
def bytes (count : Nat) : Reader (List UInt8) := fun input =>
  let taken := input.rest.take count
  if taken.length < count then throw .short
  else pure (taken, ⟨input.offset + count, input.rest.drop count⟩)

/-- The number with the given bytes, the lowest first. -/
def ofLittleEndian : List UInt8 → Nat
  | [] => 0
  | b :: rest => b.toNat + 256 * ofLittleEndian rest

/-- The byte order of a coded value. -/
inductive ByteOrder where
  | lowFirst
  | highFirst
  deriving DecidableEq, Repr

/-- Reads a number at its place. -/
def nat (order : ByteOrder) (size : Nat) : Reader Nat := do
  let _ ← bytes (padding (← get).offset size)
  let read ← bytes size
  return ofLittleEndian (match order with | .lowFirst => read | .highFirst => read.reverse)

/-- The whole number of a kind with the given low bits. -/
def signed (kind : IntKind) (n : Nat) : Int :=
  if kind.upperCount ≤ n then (n : Int) - kind.count else n

/-- Reads a number of items. -/
def items (item : Reader Value) : (count : Nat) → Reader (List Value)
  | 0 => return []
  | count + 1 => do
    let v ← item
    return v :: (← items item count)

mutual

/-- Reads a value. -/
def decodeAt (order : ByteOrder) : IdlType → Reader Value
  | .bool => do
    match ← nat order 1 with
    | 0 => return .bool false
    | 1 => return .bool true
    | byte => throw (.notBool byte)
  | .int kind => return .int (signed kind (← nat order kind.size))
  | .float64 => return .float64 ⟨UInt64.ofNat (← nat order 8)⟩
  | .float32 => return .float32 ⟨UInt32.ofNat (← nat order 4)⟩
  | .string => do
    let text ← bytes (← nat order 4)
    match Text.Utf8.decode text.dropLast with
    | .ok s => return .text s
    | .error fault => throw (.text fault)
  | .coded _ => return .bytes (← bytes (← nat order 4))
  | .enumeration e => do
    let index ← nat order 4
    if index < e.variants.length then return .variant index
    else throw (.variant index e.variants.length)
  | .struct _ fields => return .record (← decodeFields order fields)
  | .seq item => return .seq (← items (decodeAt order item) (← nat order 4))

/-- Reads fields. -/
def decodeFields (order : ByteOrder) : Fields → Reader (List Value)
  | .nil => return []
  | .cons _ type rest => do
    let v ← decodeAt order type
    return v :: (← decodeFields order rest)

end

/-- The byte order that a header announces. -/
def byteOrder : List UInt8 → Except Fault ByteOrder
  | _ :: 0 :: _ | _ :: 2 :: _ => .ok .highFirst
  | _ :: 1 :: _ | _ :: 3 :: _ => .ok .lowFirst
  | _ => .error .encapsulation

/-- Reads a value with its header. -/
def decode (type : IdlType) (payload : List UInt8) : Except Fault Value := do
  let (head, input) ← (bytes 4).run ⟨0, payload⟩
  let order ← byteOrder head
  let (v, _) ← (decodeAt order type).run ⟨0, input.rest⟩
  return v

/-- The coding of samples in this form. -/
def coding : SampleCoding where
  encode type v := (encode type v).mapError Fault.message
  decode type payload := (decode type payload).mapError Fault.message

end DdsBridge.Cdr
