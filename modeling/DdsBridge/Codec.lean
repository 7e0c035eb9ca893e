import DdsBridge.Text.Quoted
import DdsBridge.Text.Utf8

/-!
# Text codecs

The three codecs of IDL strings. All are strict: what a codec cannot express is refused, never
replaced, and a refusal by the two codecs of one byte per character names the first offending
position.

* **`Codec.encode`** — the bytes of a text.
* **`Codec.decode`** — the text of bytes.
* **`Codec.inspect`** — bytes as diagnostics show them.
* **`CodecFault`** — why a codec refuses.
-/

namespace DdsBridge

/-- A codec of IDL strings. -/
inductive Codec where
  | utf8
  | ascii
  | latin1
  deriving DecidableEq, Repr

/-- Why a codec refuses a text or bytes. -/
structure CodecFault where
  codec : String
  action : String
  reason : String
  deriving DecidableEq, Repr

/-- The text of a refusal. -/
def CodecFault.message (fault : CodecFault) : String :=
  s!"'{fault.codec}' codec can't {fault.action}: {fault.reason}"

namespace Codec

/-- The codec's name in error texts. -/
def name : Codec → String
  | .utf8 => "utf-8"
  | .ascii => "ascii"
  | .latin1 => "latin-1"

/-- The first item that offends, and its position; the first of the items is at `position`. -/
def firstWhere {α : Type} (offends : α → Bool) (position : Nat) : List α → Option (Nat × α)
  | [] => none
  | item :: rest =>
    if offends item then some (position, item) else firstWhere offends (position + 1) rest

/-- Whether a byte has seven bits. -/
def isAscii (byte : UInt8) : Bool := byte < 0x80

/-- The byte that is a character's code point. -/
def byte? (c : Char) : Option UInt8 :=
  if c.toNat < 256 then some (UInt8.ofNat c.toNat) else none

/-- The refusal of a text with a character above `limit`. -/
def encodeFault (codec : Codec) (limit : Nat) (text : String) : CodecFault :=
  let (position, c) :=
    (firstWhere (fun c => limit < c.toNat) 0 text.toList).getD (0, Char.ofNat 0)
  { codec := codec.name
    action := "encode"
    reason := s!"character {Text.quoteChar c} (U+{Text.hexUpper c.toNat 4}) in position {position}" }

/-- The bytes of a text. -/
def encode (codec : Codec) (text : String) : Except CodecFault (List UInt8) :=
  match codec with
  | .utf8 => .ok (Text.Utf8.encode text)
  | .ascii =>
    let bytes := Text.Utf8.encode text
    if bytes.all isAscii then .ok bytes else .error (codec.encodeFault 0x7f text)
  | .latin1 =>
    match text.toList.mapM byte? with
    | some bytes => .ok bytes
    | none => .error (codec.encodeFault 0xff text)

/-- The text with one character for each byte. -/
def widen (bytes : List UInt8) : String := String.ofList (bytes.map fun b => Char.ofNat b.toNat)

/-- The text of bytes. -/
def decode (codec : Codec) (bytes : List UInt8) : Except CodecFault String :=
  match codec with
  | .utf8 =>
    match Text.Utf8.decode bytes with
    | .ok text => .ok text
    | .error fault => .error ⟨codec.name, "decode", "invalid byte sequence: " ++ fault.message⟩
  | .ascii =>
    match firstWhere (fun b => !isAscii b) 0 bytes with
    | none => .ok (widen bytes)
    | some (position, b) =>
      .error ⟨codec.name, "decode", s!"byte 0x{Text.hexLower b.toNat 2} in position {position}"⟩
  | .latin1 => .ok (widen bytes)

/-- Bytes as diagnostics show them: the text in quotes, or the codec's name and the bytes if they
are not a text. -/
def inspect (codec : Codec) (bytes : List UInt8) : String :=
  match codec.decode bytes with
  | .ok text => Text.quoteText text
  | .error _ => codec.name ++ "[" ++ ", ".intercalate (bytes.map fun b => toString b.toNat) ++ "]"

end Codec

end DdsBridge
