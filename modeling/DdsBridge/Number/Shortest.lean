import DdsBridge.Number.Binary

/-!
# The fewest digits that read back

Of all decimal numbers that round to a given binary number take those with the fewest digits, and
of these the one nearest to it; of two equally near ones a rule for ties selects one. A binary
number's neighbours fix the interval of reals that round to it; for each count of digits only the two
points of that decimal grid around the number can be the nearest ones in the interval, so trying
these two for one digit, two digits, and so on finds the answer.

* **`Decimal`** — digits and the place of the point.
* **`shortest`** — the shortest decimal of a positive finite number.
* **`Decimal.positional`** — its text without an exponent.
-/

namespace DdsBridge.Number

/-- The number `0.digits · 10 ^ point`, where `digits` is a whole number of `count` digits. -/
structure Decimal where
  digits : Nat
  count : Nat
  point : Int
  deriving DecidableEq, Repr

/-- The reals that round to one number: between `low` and `high` in units of `1 / den`, around
`value`; the ends belong to them if `closed`. -/
structure Interval where
  low : Nat
  value : Nat
  high : Nat
  den : Nat
  closed : Bool
  deriving DecidableEq, Repr

/-- The interval of a finite number of format `f`. Below a power of two the next number is half as
far away as above it. -/
def interval (f : Format) (significand exponent : Nat) : Interval :=
  let gap := if significand = Nat.pow 2 f.fractionBits && 0 < exponent then 1 else 2
  { low := (4 * significand - gap) * Nat.pow 2 exponent
    value := 4 * significand * Nat.pow 2 exponent
    high := (4 * significand + 2) * Nat.pow 2 exponent
    den := 4 * Nat.pow 2 f.unitShift
    closed := significand % 2 = 0 }

/-- Whether `num / den` lies in the interval. -/
def Interval.holds (i : Interval) (num den : Nat) : Bool :=
  let below := i.low * den
  let above := i.high * den
  let at' := num * i.den
  if i.closed then below ≤ at' && at' ≤ above else below < at' && at' < above

/-- The quotient `num / den` times ten to a power of either sign, as a quotient. -/
def scaleByTen (num den : Nat) (power : Int) : Nat × Nat :=
  match power with
  | .ofNat p => (num * Nat.pow 10 p, den)
  | .negSucc p => (num, den * Nat.pow 10 (p + 1))

/-- The number of digits of the whole part, or minus the number of zeros after the point, of a
positive quotient: the `point` with `10 ^ (point - 1) ≤ num / den < 10 ^ point`, counted from the
lengths of the two numbers and corrected by one. -/
def decimalPoint (num den : Nat) : Int :=
  let guess : Int := (Nat.toDigits 10 num).length - (Nat.toDigits 10 den).length
  let (n, d) := scaleByTen num den (-guess)
  if n < d then guess else guess + 1

/-- Which of two equally near decimals is taken: the one further from zero, or the one whose last
digit is even. -/
inductive Tie where
  | up
  | even
  deriving DecidableEq, Repr

/-- Whether the point above a value is taken, when the value lies `rest / den` above a point with
the last digit of `below`. -/
def Tie.takesAbove (tie : Tie) (below rest den : Nat) : Bool :=
  den < 2 * rest || den = 2 * rest && (tie = .up || below % 2 = 1)

/-- Tries grids of `count`, `count + 1`, … digits, `fuel` of them. -/
def searchDigits (tie : Tie) (i : Interval) (point : Int) : (fuel count : Nat) → Option Decimal
  | 0, _ => none
  | fuel + 1, count =>
    let power : Int := count - point
    let (n, d) := scaleByTen i.value i.den power
    let below := n / d
    let onGrid (digits : Nat) : Bool :=
      let (a, b) := scaleByTen digits 1 (-power)
      i.holds a b
    let takesAbove := tie.takesAbove below (n % d) d
    let answer (digits : Nat) : Option Decimal :=
      if digits = Nat.pow 10 count then some ⟨Nat.pow 10 (count - 1), count, point + 1⟩
      else some ⟨digits, count, point⟩
    match onGrid below, onGrid (below + 1) with
    | true, true => answer (if takesAbove then below + 1 else below)
    | true, false => answer below
    | false, true => answer (below + 1)
    | false, false => searchDigits tie i point fuel (count + 1)

/-- Removes zeros at the end of the digits, `fuel` of them at most. -/
def Decimal.trim (x : Decimal) : Nat → Decimal
  | 0 => x
  | fuel + 1 =>
    if 1 < x.count && x.digits % 10 = 0 then
      Decimal.trim { x with digits := x.digits / 10, count := x.count - 1 } fuel
    else x

/-- The shortest decimal of a positive finite number of format `f`. -/
def shortest (tie : Tie) (f : Format) (significand exponent : Nat) : Decimal :=
  let i := interval f significand exponent
  let point := decimalPoint i.value i.den
  let found := (searchDigits tie i point 17 1).getD ⟨0, 1, 0⟩
  found.trim found.count

/-- The digits as characters, with zeros in front up to the count. -/
def Decimal.chars (x : Decimal) : List Char :=
  let digits := Nat.toDigits 10 x.digits
  List.replicate (x.count - digits.length) '0' ++ digits

/-- The text of a decimal without an exponent and without a superfluous point. -/
def Decimal.positional (x : Decimal) : String :=
  let digits := x.chars
  match x.point with
  | .negSucc p => "0." ++ String.ofList (List.replicate (p + 1) '0' ++ digits)
  | .ofNat 0 => "0." ++ String.ofList digits
  | .ofNat p =>
    if digits.length ≤ p then
      String.ofList (digits ++ List.replicate (p - digits.length) '0')
    else
      String.ofList (digits.take p) ++ "." ++ String.ofList (digits.drop p)

/-- The text of a number by what it stands for: the shortest decimal, without an exponent, a tie
going away from zero. -/
def positionalText (f : Format) : Shape → String
  | .nan => "NaN"
  | .infinite negative => if negative then "-inf" else "inf"
  | .finite negative significand exponent =>
    let mark := if negative then "-" else ""
    if significand = 0 then mark ++ "0"
    else mark ++ (shortest .up f significand exponent).positional

/-- The text of a number of 64 bits. -/
def Binary64.text (x : Binary64) : String := positionalText .binary64 x.shape

/-- The text of a number of 32 bits. -/
def Binary32.text (x : Binary32) : String := positionalText .binary32 x.shape

/-- The exact text of a whole number of 64 bits with one decimal place. -/
def Binary64.wholeText (x : Binary64) : String :=
  (if x.isNegative then "-" else "") ++ toString x.wholePart ++ ".0"

example : shortest .up .binary64 0x1999999999999a 1018 = ⟨1, 1, 0⟩ := by decide +kernel
example : shortest .up .binary64 1 0 = ⟨5, 1, -323⟩ := by decide +kernel

example : (shortest .up .binary64 0x11d630dde765aa 1071).digits = 6275724967231253 ∧
    (shortest .even .binary64 0x11d630dde765aa 1071).digits = 6275724967231252 := by
  decide +kernel

end DdsBridge.Number
