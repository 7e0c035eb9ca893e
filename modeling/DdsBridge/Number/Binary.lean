/-!
# Binary floating-point numbers

A number of 64 or 32 bits in the usual binary interchange formats, kept as its word: two numbers
are equal exactly when they have the same bits. Everything else is exact arithmetic on natural
numbers: a finite number is `significand · 2 ^ exponent` units, where a unit is the smallest
positive number of the format.

* **`Format`** — the widths of the two fields.
* **`Shape`** — what a word stands for.
* **`Format.round`** — the word nearest to a quotient of natural numbers, ties to the even one.
* **`Binary64`**, **`Binary32`** — the two formats in use, with their conversions.
-/

namespace DdsBridge.Number

/-- A binary interchange format: the width of the fraction field and of the exponent field. -/
structure Format where
  fractionBits : Nat
  exponentBits : Nat
  deriving DecidableEq, Repr

/-- What a word stands for. -/
inductive Shape where
  | nan
  | infinite (negative : Bool)
  /-- `significand * 2 ^ exponent` units. -/
  | finite (negative : Bool) (significand exponent : Nat)
  deriving DecidableEq, Repr

/-- Rounds `num / den` to the nearest natural number, a tie to the even one. -/
def roundQuotient (num den : Nat) : Nat :=
  let whole := num / den
  let twice := 2 * (num % den)
  if twice < den then whole
  else if twice > den then whole + 1
  else if whole % 2 = 0 then whole
  else whole + 1

namespace Format

/-- The format of 64 bits. -/
def binary64 : Format := ⟨52, 11⟩

/-- The format of 32 bits. -/
def binary32 : Format := ⟨23, 8⟩

variable (f : Format)

/-- The exponent field of infinities and of numbers that are none. -/
def topExponent : Nat := Nat.pow 2 f.exponentBits - 1

/-- One is `2 ^ unitShift` units. -/
def unitShift : Nat := Nat.pow 2 (f.exponentBits - 1) - 2 + f.fractionBits

/-- The sign field of a word. -/
def isNegative (word : Nat) : Bool :=
  word / Nat.pow 2 (f.fractionBits + f.exponentBits) % 2 = 1

/-- The exponent field of a word. -/
def exponentField (word : Nat) : Nat :=
  word / Nat.pow 2 f.fractionBits % Nat.pow 2 f.exponentBits

/-- The fraction field of a word. -/
def fractionField (word : Nat) : Nat := word % Nat.pow 2 f.fractionBits

/-- What a word stands for. -/
def shape (word : Nat) : Shape :=
  let negative := f.isNegative word
  let exponent := f.exponentField word
  let fraction := f.fractionField word
  if exponent = f.topExponent then
    if fraction = 0 then .infinite negative else .nan
  else if exponent = 0 then .finite negative fraction 0
  else .finite negative (Nat.pow 2 f.fractionBits + fraction) (exponent - 1)

/-- The word with the given sign and the given lower bits. -/
def word (negative : Bool) (lower : Nat) : Nat :=
  (if negative then Nat.pow 2 (f.fractionBits + f.exponentBits) else 0) + lower

/-- The lower bits of an infinity. -/
def infinityBits : Nat := f.topExponent * Nat.pow 2 f.fractionBits

/-- The leading fraction bit, which a quiet word for no number has. -/
def quietBit : Nat := Nat.pow 2 (f.fractionBits - 1)

/-- The lower bits of the number nearest to `num / den` units. The significand is rounded at the
exponent that gives it its full width; a carry out of the fraction moves the exponent field up by
itself, and from the top exponent on the result is infinite. -/
def roundUnits (num den : Nat) : Nat :=
  let whole := num / den
  let exponent := Nat.log2 whole - f.fractionBits
  let significand := roundQuotient num (den * Nat.pow 2 exponent)
  let lower := exponent * Nat.pow 2 f.fractionBits + significand
  min lower f.infinityBits

/-- The word nearest to `num / den`, a tie to the one with an even significand. -/
def round (negative : Bool) (num den : Nat) : Nat :=
  f.word negative (f.roundUnits (num * Nat.pow 2 f.unitShift) den)

end Format

/-- A number of 64 bits. -/
structure Binary64 where
  bits : UInt64
  deriving DecidableEq, Repr, Inhabited

/-- A number of 32 bits. -/
structure Binary32 where
  bits : UInt32
  deriving DecidableEq, Repr, Inhabited

namespace Binary64

/-- What the number stands for. -/
def shape (x : Binary64) : Shape := Format.binary64.shape x.bits.toNat

/-- The number with the given word. -/
def ofWord (word : Nat) : Binary64 := ⟨UInt64.ofNat word⟩

/-- The number nearest to `num / den`. -/
def ofQuotient (negative : Bool) (num den : Nat) : Binary64 :=
  ofWord (Format.binary64.round negative num den)

/-- The number nearest to a whole number. -/
def ofInt (n : Int) : Binary64 := ofQuotient (n < 0) n.natAbs 1

/-- Whether the number is neither infinite nor absent. -/
def isFinite (x : Binary64) : Bool :=
  match x.shape with
  | .finite .. => true
  | _ => false

/-- The magnitude of a finite number in units of `2 ^ -unitShift`. -/
def units (x : Binary64) : Nat :=
  match x.shape with
  | .finite _ significand exponent => significand * Nat.pow 2 exponent
  | _ => 0

/-- How many units make one. -/
def unitsPerOne : Nat := Nat.pow 2 Format.binary64.unitShift

/-- The whole part of the magnitude of a finite number. -/
def wholePart (x : Binary64) : Nat := x.units / unitsPerOne

/-- Whether a finite number is whole. -/
def isWhole (x : Binary64) : Bool := x.isFinite && x.units % unitsPerOne = 0

/-- Whether the sign field is set. -/
def isNegative (x : Binary64) : Bool := Format.binary64.isNegative x.bits.toNat

end Binary64

namespace Binary32

/-- What the number stands for. -/
def shape (x : Binary32) : Shape := Format.binary32.shape x.bits.toNat

/-- The number with the given word. -/
def ofWord (word : Nat) : Binary32 := ⟨UInt32.ofNat word⟩

/-- The largest finite number of 32 bits, which is a whole number. -/
def greatest : Nat := (Nat.pow 2 24 - 1) * Nat.pow 2 104

/-- The same number in 64 bits. A number that is none keeps its sign and its leading fraction
bits and becomes quiet. -/
def widen (x : Binary32) : Binary64 :=
  match x.shape with
  | .finite negative significand exponent =>
    .ofQuotient negative (significand * Nat.pow 2 exponent) (Nat.pow 2 Format.binary32.unitShift)
  | .infinite negative => .ofWord (Format.binary64.word negative Format.binary64.infinityBits)
  | .nan =>
    let fraction := Format.binary32.fractionField x.bits.toNat * Nat.pow 2 29
    let quietBit := Format.binary64.quietBit
    let quiet := if fraction < quietBit then fraction + quietBit else fraction
    .ofWord (Format.binary64.word (Format.binary32.isNegative x.bits.toNat)
      (Format.binary64.infinityBits + quiet))

end Binary32

/-- The nearest number of 32 bits, beyond the greatest one an infinity. -/
def Binary64.narrow (x : Binary64) : Binary32 :=
  match x.shape with
  | .finite negative significand exponent =>
    .ofWord (Format.binary32.round negative (significand * Nat.pow 2 exponent) Binary64.unitsPerOne)
  | .infinite negative => .ofWord (Format.binary32.word negative Format.binary32.infinityBits)
  | .nan =>
    let fraction := Format.binary64.fractionField x.bits.toNat / Nat.pow 2 29
    let quietBit := Format.binary32.quietBit
    let quiet := if fraction < quietBit then fraction + quietBit else fraction
    .ofWord (Format.binary32.word x.isNegative (Format.binary32.infinityBits + quiet))

example : Binary64.ofInt 9007199254740993 = ⟨0x4340000000000000⟩ := by decide +kernel
example : Binary64.ofQuotient false 1 10 = ⟨0x3fb999999999999a⟩ := by decide +kernel
example : (Binary64.ofQuotient false 1 10).narrow = ⟨0x3dcccccd⟩ := by decide +kernel
example : (⟨0x3dcccccd⟩ : Binary32).widen = ⟨0x3fb99999a0000000⟩ := by decide +kernel

end DdsBridge.Number
