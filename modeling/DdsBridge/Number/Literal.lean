import DdsBridge.Number.Shortest

/-!
# Literals of floating-point numbers

A number is shown as the shortest decimal that reads back, a tie going to the even digit. The text
always tells that the number is not a whole number by type: it has a point or an exponent. Numbers
from a ten-thousandth up to ten quadrillions are written without an exponent.

* **`Binary64.literal`** — a number as a literal.
-/

namespace DdsBridge.Number

/-- The exponent of a literal, with a sign and at least two digits. -/
def exponentText (exponent : Int) : String :=
  let digits := toString exponent.natAbs
  let padded := if digits.length < 2 then "0" ++ digits else digits
  (if exponent < 0 then "e-" else "e+") ++ padded

/-- A decimal with one digit before the point and an exponent. -/
def Decimal.scientific (x : Decimal) : String :=
  let exponent := exponentText (x.point - 1)
  match x.chars with
  | [] => "0" ++ exponent
  | [digit] => String.singleton digit ++ exponent
  | digit :: rest => String.singleton digit ++ "." ++ String.ofList rest ++ exponent

/-- A decimal without an exponent and with at least one decimal place. -/
def Decimal.pointed (x : Decimal) : String :=
  let text := x.positional
  if text.contains '.' then text else text ++ ".0"

/-- A decimal as a literal. -/
def Decimal.literal (x : Decimal) : String :=
  if x.point ≤ -4 || 16 < x.point then x.scientific else x.pointed

/-- A number of 64 bits as a literal. -/
def Binary64.literal (x : Binary64) : String :=
  match x.shape with
  | .nan => "nan"
  | .infinite negative => if negative then "-inf" else "inf"
  | .finite negative significand exponent =>
    let mark := if negative then "-" else ""
    if significand = 0 then mark ++ "0.0"
    else mark ++ (shortest .even .binary64 significand exponent).literal

end DdsBridge.Number
