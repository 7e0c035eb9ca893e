import DdsBridge.Text.Digits
import DdsBridge.Text.Extending
import DdsBridge.Text.Unprintable

/-!
# Quoted text

A text is shown between double quotes, a single character between single quotes. The quote in use
and the backslash are escaped, NUL, tab, newline and carriage return have short escapes, and every
other character that has no printed form, or that would attach to the character before it, is
shown by its code point in braces.

* **`quoteText`** — a text between double quotes.
* **`quoteChar`** — a character between single quotes.
-/

namespace DdsBridge.Text

/-- A character by its code point, `\u\x7b..\x7d` with the digits between the braces. -/
def escapeCode (c : Char) : String :=
  "\\u\x7b" ++ hexLower c.toNat 1 ++ "\x7d"

/-- One character of a quoted text; `quote` is the mark that encloses the text. -/
def escapeChar (quote : Char) (c : Char) : String :=
  if c.toNat = 0 then "\\0"
  else if c = '\t' then "\\t"
  else if c = '\n' then "\\n"
  else if c = '\r' then "\\r"
  else if c = quote then "\\" ++ String.singleton c
  else if c = '\\' then "\\\\"
  else if c.toNat < 0x7f && 0x20 ≤ c.toNat then String.singleton c
  else if isExtending c.toNat || isUnprintable c.toNat then escapeCode c
  else String.singleton c

/-- A text between double quotes. -/
def quoteText (text : String) : String :=
  "\"" ++ String.join (text.toList.map (escapeChar '"')) ++ "\""

/-- A character between single quotes. -/
def quoteChar (c : Char) : String :=
  let mark := Char.ofNat 0x27
  String.singleton mark ++ escapeChar mark c ++ String.singleton mark

end DdsBridge.Text
