import DdsBridge.Text.Digits
import DdsBridge.Text.Points
import DdsBridge.Text.Unprintable

/-!
# Text literals

A text is shown as a literal between quotes, single ones unless only double ones keep the text free
of escapes for its own quotes. The quote in use and the backslash are escaped, tab, newline and
carriage return have short escapes, and a code point without a printed form is shown by two, four
or eight digits, as few as it needs.

* **`literal`** — a text as a literal.
-/

namespace DdsBridge.Text

/-- The quote around the literal of a text. -/
def literalMark (t : Points) : Nat :=
  if t.codes.contains 0x27 && !t.codes.contains 0x22 then 0x22 else 0x27

/-- A code point by its digits. -/
def escapePoint (code : Nat) : String :=
  if code ≤ 0xff then "\\x" ++ hexLower code 2
  else if code ≤ 0xffff then "\\u" ++ hexLower code 4
  else "\\U" ++ hexLower code 8

/-- One code point of a literal; `mark` is the quote that encloses it. -/
def literalPoint (mark code : Nat) : String :=
  if code = mark || code = 0x5c then "\\" ++ String.singleton (Char.ofNat code)
  else if code = 0x09 then "\\t"
  else if code = 0x0a then "\\n"
  else if code = 0x0d then "\\r"
  else if code < 0x20 || code = 0x7f then escapePoint code
  else if code < 0x7f then String.singleton (Char.ofNat code)
  else if isUnprintable code then escapePoint code
  else String.singleton (Char.ofNat code)

/-- A text as a literal. -/
def literal (t : Points) : String :=
  let mark := literalMark t
  let quote := String.singleton (Char.ofNat mark)
  quote ++ String.join (t.codes.map (literalPoint mark)) ++ quote

end DdsBridge.Text
