/-!
# Whole numbers in base sixteen

Error texts and quoted characters show codes in base sixteen, padded on the left with zeros.

* **`hexLower`**, **`hexUpper`** — at least `width` digits, letters in the case of the name.
-/

namespace DdsBridge.Text

/-- The digits of `n` in base sixteen, zeros added on the left up to `width` digits. -/
def hexDigits (n width : Nat) : List Char :=
  let digits := Nat.toDigits 16 n
  List.replicate (width - digits.length) '0' ++ digits

/-- `n` in base sixteen with small letters. -/
def hexLower (n width : Nat) : String :=
  String.ofList (hexDigits n width)

/-- `n` in base sixteen with capital letters. -/
def hexUpper (n width : Nat) : String :=
  String.ofList ((hexDigits n width).map Char.toUpper)

example : hexLower 0x8 2 = "08" := by cbv
example : hexUpper 0x20ac 4 = "20AC" := by cbv
example : hexLower 0x1f600 4 = "1f600" := by cbv

end DdsBridge.Text
