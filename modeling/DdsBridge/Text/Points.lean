/-!
# Texts of code points

The interpreter's texts are sequences of code points in which a surrogate may stand alone. Such a
text is not a text of characters and has no coded form.

* **`Points`** — a text of code points.
* **`Points.toString?`** — the same as a text of characters, if it is one.
* **`Points.surrogates?`** — the first run of surrogates, which is why it is not.
-/

namespace DdsBridge.Text

/-- A text as its code points. -/
structure Points where
  codes : List Nat
  deriving DecidableEq, Repr, Inhabited

namespace Points

/-- A text of characters. -/
def ofString (s : String) : Points := ⟨s.toList.map Char.toNat⟩

/-- The texts one after the other. -/
def append (s t : Points) : Points := ⟨s.codes ++ t.codes⟩

instance : Append Points := ⟨append⟩

/-- Texts with a separator between them. -/
def intercalate (separator : String) (items : List Points) : Points :=
  ⟨List.intercalate (ofString separator).codes (items.map Points.codes)⟩

/-- Whether a code point is a surrogate. -/
def isSurrogate (code : Nat) : Bool := 0xd800 ≤ code && code < 0xe000

/-- The same text as characters, if no surrogate is in it. -/
def toString? (t : Points) : Option String :=
  if t.codes.any isSurrogate then none else some (String.ofList (t.codes.map Char.ofNat))

/-- The text as characters, each surrogate replaced. -/
def lossy (t : Points) : String :=
  String.ofList
    (t.codes.map fun code => if isSurrogate code then Char.ofNat 0xfffd else Char.ofNat code)

/-- Where the first run of surrogates begins and where it ends. -/
def surrogates? (t : Points) : Option (Nat × Nat) :=
  match t.codes.findIdx? isSurrogate with
  | none => none
  | some start => some (start, start + ((t.codes.drop start).takeWhile isSurrogate).length)

end Points

end DdsBridge.Text
