/-!
# UTF-8

Characters as sequences of bytes and back. Reading splits the bytes into pieces: a character, a
maximal run of bytes that no character starts with, or a character cut off by the end of the
bytes. A strict reader refuses at the first piece that is no character; a lossy one puts the
replacement character in the place of each such piece.

* **`encode`** — the bytes of a text.
* **`pieces`** — the split.
* **`decode`** — the strict reading, with the position and kind of the first fault.
* **`decodeLossy`** — the lossy reading.
-/

namespace DdsBridge.Text.Utf8

/-- The bytes of a text. -/
def encode (text : String) : List UInt8 :=
  text.toList.flatMap String.utf8EncodeChar

/-- A part of a byte sequence as a reader sees it. -/
inductive Piece where
  /-- A character, from `size` bytes. -/
  | char (c : Char) (size : Nat)
  /-- A run of `size` bytes that cannot be continued to a character. -/
  | invalid (size : Nat)
  /-- The last `size` bytes, which a longer sequence could have completed. -/
  | truncated (size : Nat)
  deriving DecidableEq, Repr

/-- A character begun: how many bytes were read, the code point so far, how many bytes are still
owed, and the least and greatest value the next byte may have. -/
structure Open where
  read : Nat
  value : Nat
  owed : Nat
  low : Nat
  high : Nat
  deriving DecidableEq, Repr

/-- What the first byte of a character says. -/
inductive Lead where
  /-- The byte is the character. -/
  | single (c : Char)
  /-- More bytes follow. -/
  | opens (state : Open)
  /-- No character starts with this byte. -/
  | none
  deriving DecidableEq, Repr

/-- Reads a first byte. The second byte's range excludes overlong forms, surrogates and code
points beyond the last one. -/
def lead (byte : UInt8) : Lead :=
  let b := byte.toNat
  if b < 0x80 then .single (Char.ofNat b)
  else if 0xc2 ≤ b ∧ b ≤ 0xdf then .opens ⟨1, b - 0xc0, 1, 0x80, 0xbf⟩
  else if b = 0xe0 then .opens ⟨1, b - 0xe0, 2, 0xa0, 0xbf⟩
  else if b = 0xed then .opens ⟨1, b - 0xe0, 2, 0x80, 0x9f⟩
  else if 0xe1 ≤ b ∧ b ≤ 0xef then .opens ⟨1, b - 0xe0, 2, 0x80, 0xbf⟩
  else if b = 0xf0 then .opens ⟨1, b - 0xf0, 3, 0x90, 0xbf⟩
  else if 0xf1 ≤ b ∧ b ≤ 0xf3 then .opens ⟨1, b - 0xf0, 3, 0x80, 0xbf⟩
  else if b = 0xf4 then .opens ⟨1, b - 0xf0, 3, 0x80, 0x8f⟩
  else .none

/-- The pieces of a byte sequence; `state` is a character begun and not yet complete. -/
def piecesFrom : Option Open → List UInt8 → List Piece
  | none, [] => []
  | some state, [] => [.truncated state.read]
  | none, byte :: rest =>
    match lead byte with
    | .single c => .char c 1 :: piecesFrom none rest
    | .opens state => piecesFrom (some state) rest
    | .none => .invalid 1 :: piecesFrom none rest
  | some state, byte :: rest =>
    if state.low ≤ byte.toNat ∧ byte.toNat ≤ state.high then
      let value := state.value * 64 + (byte.toNat - 0x80)
      if state.owed ≤ 1 then .char (Char.ofNat value) (state.read + 1) :: piecesFrom none rest
      else piecesFrom (some ⟨state.read + 1, value, state.owed - 1, 0x80, 0xbf⟩) rest
    else
      .invalid state.read ::
        match lead byte with
        | .single c => .char c 1 :: piecesFrom none rest
        | .opens next => piecesFrom (some next) rest
        | .none => .invalid 1 :: piecesFrom none rest

/-- The pieces of a byte sequence. -/
def pieces (bytes : List UInt8) : List Piece := piecesFrom none bytes

/-- Why bytes are not UTF-8: where the first fault starts and, unless the bytes only end too
early, how many bytes it covers. -/
structure Fault where
  index : Nat
  size : Option Nat
  deriving DecidableEq, Repr

/-- The text of a fault. -/
def Fault.message (fault : Fault) : String :=
  match fault.size with
  | some size => s!"invalid utf-8 sequence of {size} bytes from index {fault.index}"
  | none => s!"incomplete utf-8 byte sequence from index {fault.index}"

/-- The characters of the pieces, the first of which starts at `index`. -/
def charsOfPieces (index : Nat) : List Piece → Except Fault (List Char)
  | [] => .ok []
  | .char c size :: rest => (charsOfPieces (index + size) rest).map (c :: ·)
  | .invalid size :: _ => .error ⟨index, some size⟩
  | .truncated _ :: _ => .error ⟨index, none⟩

/-- The text that bytes stand for, or the first fault. -/
def decode (bytes : List UInt8) : Except Fault String :=
  (charsOfPieces 0 (pieces bytes)).map String.ofList

/-- The character a lossy reader takes for a piece. -/
def Piece.lossy : Piece → Char
  | .char c _ => c
  | _ => Char.ofNat 0xfffd

/-- The text that bytes stand for, with the replacement character for each faulty piece. -/
def decodeLossy (bytes : List UInt8) : String :=
  String.ofList ((pieces bytes).map Piece.lossy)

example : decode (encode "aé€😀") = .ok "aé€😀" := by cbv
example : decode [0x68, 0xc3] = .error ⟨1, none⟩ := by cbv
example : decode [0xe2, 0x28, 0xa1] = .error ⟨0, some 1⟩ := by cbv

end DdsBridge.Text.Utf8
