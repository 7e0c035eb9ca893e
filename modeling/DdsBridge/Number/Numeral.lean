import DdsBridge.Number.Binary

/-!
# Numerals in texts

A numeral may have blanks around it and a sign before it, and single underscores between its
digits. A whole number has nothing but digits; a decimal may have a point and an exponent, and
infinities and the absence of a number have names.

* **`wholeDigits?`** — the sign and the digits of a whole number.
* **`decimal?`** — the floating-point number nearest to a decimal.
-/

namespace DdsBridge.Number.Numeral

/-- Whether a character is a blank. -/
def isBlank (c : Char) : Bool :=
  let n := c.toNat
  (9 ≤ n && n ≤ 13) || (28 ≤ n && n ≤ 32) || n = 0x85 || n = 0xa0 || n = 0x1680 ||
    (0x2000 ≤ n && n ≤ 0x200a) || [0x2028, 0x2029, 0x202f, 0x205f, 0x3000].contains n

/-- A text without the blanks around it. -/
def trim (s : List Char) : List Char :=
  ((s.dropWhile isBlank).reverse.dropWhile isBlank).reverse

/-- Whether there is a minus sign, and what follows the sign. -/
def splitSign : List Char → Bool × List Char
  | '-' :: rest => (true, rest)
  | '+' :: rest => (false, rest)
  | rest => (false, rest)

/-- The digits at the beginning, single underscores between them left out, and what follows. The
first argument tells whether an underscore may come now. -/
def spanDigits : Bool → List Char → List Char × List Char
  | afterDigit, '_' :: c :: rest =>
    if afterDigit && c.isDigit then
      let (digits, rest) := spanDigits true rest
      (c :: digits, rest)
    else ([], '_' :: c :: rest)
  | _, c :: rest =>
    if c.isDigit then
      let (digits, rest) := spanDigits true rest
      (c :: digits, rest)
    else ([], c :: rest)
  | _, [] => ([], [])

/-- The number that digits stand for. -/
def digitsValue (digits : List Char) : Nat :=
  digits.foldl (fun n c => 10 * n + (c.toNat - '0'.toNat)) 0

/-- The sign and the digits of a whole number. -/
def wholeDigits? (s : List Char) : Option (Bool × List Char) :=
  let (negative, rest) := splitSign (trim s)
  match spanDigits false rest with
  | ([], _) => none
  | (digits, []) => some (negative, digits)
  | (_, _) => none

/-- An exponent, if there is one; what is no exponent is no numeral. -/
def exponent? : List Char → Option Int
  | [] => some 0
  | c :: rest =>
    if c.toLower = 'e' then
      let (negative, rest) := splitSign rest
      match spanDigits false rest with
      | ([], _) => none
      | (digits, []) => some (if negative then -(digitsValue digits : Int) else digitsValue digits)
      | (_, _) => none
    else none

/-- The digits before and after the point, and what follows. -/
def mantissa (s : List Char) : List Char × List Char × List Char :=
  match spanDigits false s with
  | (whole, '.' :: rest) =>
    let (fraction, rest) := spanDigits false rest
    (whole, fraction, rest)
  | (whole, rest) => (whole, [], rest)

/-- The number nearest to `digits · 10 ^ exponent`; numbers far out of range are not computed. -/
def scaled (negative : Bool) (digits : Nat) (count : Nat) (exponent : Int) : Binary64 :=
  if digits = 0 then .ofQuotient negative 0 1
  else if 400 < exponent then .ofQuotient negative (Nat.pow 10 400) 1
  else if exponent + count < -400 then .ofQuotient negative 0 1
  else if 0 ≤ exponent then .ofQuotient negative (digits * Nat.pow 10 exponent.toNat) 1
  else .ofQuotient negative digits (Nat.pow 10 exponent.natAbs)

/-- An infinity or the absence of a number, by name. -/
def named? (negative : Bool) (s : List Char) : Option Binary64 :=
  match String.ofList (s.map Char.toLower) with
  | "inf" | "infinity" =>
    some (.ofWord (Format.binary64.word negative Format.binary64.infinityBits))
  | "nan" =>
    some (.ofWord (Format.binary64.word negative
      (Format.binary64.infinityBits + Format.binary64.quietBit)))
  | _ => none

/-- The floating-point number nearest to a decimal. -/
def decimal? (s : List Char) : Option Binary64 :=
  let (negative, rest) := splitSign (trim s)
  match named? negative rest with
  | some x => some x
  | none =>
    let (whole, fraction, rest) := mantissa rest
    if whole.isEmpty && fraction.isEmpty then none
    else
      (exponent? rest).map fun exponent =>
        let digits := whole ++ fraction
        scaled negative (digitsValue digits) digits.length (exponent - fraction.length)

end DdsBridge.Number.Numeral
