import DdsBridge.Proofs.Text.Utf8
import Mathlib.Data.List.Forall2

/-!
# Well-formed UTF-8

Which bytes are UTF-8, as a table of byte ranges with a row for each shape that the bytes of one
character can have. The strict reader, which follows the bytes one at a time, takes exactly the
concatenations of such sequences.

* **`table`** — the rows.
* **`WellFormed`** — sequences of rows, one after the other.
* **`isSequence_iff`** — the rows match exactly the bytes of the characters.
* **`wellFormed_iff`** — so well-formed bytes are exactly the bytes of texts.
* **`decode_eq_ok_iff`**, **`exists_decode_iff`** — and exactly what the reader takes.
-/

namespace DdsBridge.Text.Utf8

/-- The least and the greatest value of each byte of a character, by the shapes there are. The
second byte after `e0` and `f0` excludes the overlong forms, the one after `ed` the surrogates, the
one after `f4` what is beyond the last code point. -/
def table : List (List (Nat × Nat)) :=
  [[(0x00, 0x7f)],
    [(0xc2, 0xdf), (0x80, 0xbf)],
    [(0xe0, 0xe0), (0xa0, 0xbf), (0x80, 0xbf)],
    [(0xe1, 0xec), (0x80, 0xbf), (0x80, 0xbf)],
    [(0xed, 0xed), (0x80, 0x9f), (0x80, 0xbf)],
    [(0xee, 0xef), (0x80, 0xbf), (0x80, 0xbf)],
    [(0xf0, 0xf0), (0x90, 0xbf), (0x80, 0xbf), (0x80, 0xbf)],
    [(0xf1, 0xf3), (0x80, 0xbf), (0x80, 0xbf), (0x80, 0xbf)],
    [(0xf4, 0xf4), (0x80, 0x8f), (0x80, 0xbf), (0x80, 0xbf)]]

/-- The byte is in the range. -/
def InRange (range : Nat × Nat) (byte : UInt8) : Prop :=
  range.1 ≤ byte.toNat ∧ byte.toNat ≤ range.2

/-- The bytes of one character. -/
def IsSequence (bytes : List UInt8) : Prop := ∃ row ∈ table, List.Forall₂ InRange row bytes

/-- Bytes that are UTF-8. -/
inductive WellFormed : List UInt8 → Prop where
  | nil : WellFormed []
  | cons {sequence rest : List UInt8} :
      IsSequence sequence → WellFormed rest → WellFormed (sequence ++ rest)

/-! ## The bytes of one character -/

/-- A byte as the part of a code point that it carries. -/
theorem byte_eq {byte : UInt8} {base : Nat} (h : base ≤ byte.toNat) :
    byte = UInt8.ofNat (byte.toNat - base + base) := by
  rw [Nat.sub_add_cancel h, UInt8.ofNat_toNat]

section Sequences

variable {a b c d : UInt8}

theorem char_of_one (ha : a.toNat ≤ 0x7f) : ∃ x, [a] = String.utf8EncodeChar x := by
  refine ⟨Char.ofNat a.toNat, ?_⟩
  rw [encodeChar_one (by omega), UInt8.ofNat_toNat]

theorem char_of_two (ha : 0xc2 ≤ a.toNat ∧ a.toNat ≤ 0xdf) (hb : 0x80 ≤ b.toNat ∧ b.toNat ≤ 0xbf) :
    ∃ x, [a, b] = String.utf8EncodeChar x := by
  refine ⟨_, .trans ?_ (encodeChar_two (n := a.toNat - 0xc0) (m := b.toNat - 0x80)
    (by omega) (by omega) (by omega)).symm⟩
  rw [← byte_eq (by omega), ← byte_eq hb.1]

theorem char_of_three (ha : 0xe0 ≤ a.toNat ∧ a.toNat ≤ 0xef)
    (hb : 0x80 ≤ b.toNat ∧ b.toNat ≤ 0xbf) (hc : 0x80 ≤ c.toNat ∧ c.toNat ≤ 0xbf)
    (hleast : a.toNat = 0xe0 → 0xa0 ≤ b.toNat) (hgreatest : a.toNat = 0xed → b.toNat ≤ 0x9f) :
    ∃ x, [a, b, c] = String.utf8EncodeChar x := by
  refine ⟨_, .trans ?_ (encodeChar_three (n := a.toNat - 0xe0) (m := b.toNat - 0x80)
    (l := c.toNat - 0x80) (by omega) (by omega) (by omega) (by omega) (by omega)).symm⟩
  rw [← byte_eq ha.1, ← byte_eq hb.1, ← byte_eq hc.1]

theorem char_of_four (ha : 0xf0 ≤ a.toNat ∧ a.toNat ≤ 0xf4)
    (hb : 0x80 ≤ b.toNat ∧ b.toNat ≤ 0xbf) (hc : 0x80 ≤ c.toNat ∧ c.toNat ≤ 0xbf)
    (hd : 0x80 ≤ d.toNat ∧ d.toNat ≤ 0xbf) (hleast : a.toNat = 0xf0 → 0x90 ≤ b.toNat)
    (hgreatest : a.toNat = 0xf4 → b.toNat ≤ 0x8f) :
    ∃ x, [a, b, c, d] = String.utf8EncodeChar x := by
  refine ⟨_, .trans ?_ (encodeChar_four (n := a.toNat - 0xf0) (m := b.toNat - 0x80)
    (l := c.toNat - 0x80) (k := d.toNat - 0x80) (by omega) (by omega) (by omega) (by omega)
    (by omega) (by omega)).symm⟩
  rw [← byte_eq ha.1, ← byte_eq hb.1, ← byte_eq hc.1, ← byte_eq hd.1]

end Sequences

/-- A sequence of the table stands for a character. -/
theorem char_of_isSequence {bytes : List UInt8} (h : IsSequence bytes) :
    ∃ x, bytes = String.utf8EncodeChar x := by
  obtain ⟨row, hrow, hbytes⟩ := h
  simp only [table, List.mem_cons, List.not_mem_nil, or_false] at hrow
  rcases hrow with rfl | rfl | rfl | rfl | rfl | rfl | rfl | rfl | rfl
  -- one row of one byte, one of two, then four of three bytes and three of four
  · obtain _ | ⟨ha, ⟨⟩⟩ := hbytes
    exact char_of_one ha.2
  · obtain _ | ⟨ha, _ | ⟨hb, ⟨⟩⟩⟩ := hbytes
    exact char_of_two ha hb
  iterate 4
    · obtain _ | ⟨ha, _ | ⟨hb, _ | ⟨hc, ⟨⟩⟩⟩⟩ := hbytes
      simp only [InRange] at ha hb hc
      exact char_of_three (by omega) (by omega) hc (by omega) (by omega)
  iterate 3
    · obtain _ | ⟨ha, _ | ⟨hb, _ | ⟨hc, _ | ⟨hd, ⟨⟩⟩⟩⟩⟩ := hbytes
      simp only [InRange] at ha hb hc hd
      exact char_of_four (by omega) (by omega) hc hd (by omega) (by omega)

/-- A byte put together from its parts is in the range of its parts. -/
theorem inRange_ofNat {n low high : Nat} (hlow : low ≤ n) (hhigh : n ≤ high) (h : n < 0x100) :
    InRange (low, high) (UInt8.ofNat n) := by
  rw [InRange, toNat_ofNat h]
  exact ⟨hlow, hhigh⟩

/-- The bytes of a character are a sequence of the table. -/
theorem isSequence_encodeChar (x : Char) : IsSequence (String.utf8EncodeChar x) := by
  have hrange := val_range x
  unfold String.utf8EncodeChar
  generalize x.val.toNat = n at hrange
  have tail : ∀ m, InRange (0x80, 0xbf) (UInt8.ofNat (m % 64 + 0x80)) := fun m =>
    inRange_ofNat (by omega) (by omega) (by omega)
  show IsSequence (if n ≤ 0x7f then _ else _)
  split
  · exact ⟨[(0x00, 0x7f)], by decide,
      .cons (inRange_ofNat (by omega) (by omega) (by omega)) .nil⟩
  · split
    · exact ⟨[(0xc2, 0xdf), (0x80, 0xbf)], by decide,
        .cons (inRange_ofNat (by omega) (by omega) (by omega)) (.cons (tail _) .nil)⟩
    · split
      · -- the first byte chooses the row
        rcases show n / 4096 = 0 ∨ (1 ≤ n / 4096 ∧ n / 4096 ≤ 12) ∨ n / 4096 = 13 ∨
          (14 ≤ n / 4096 ∧ n / 4096 ≤ 15) by omega with hrow | hrow | hrow | hrow
        · exact ⟨[(0xe0, 0xe0), (0xa0, 0xbf), (0x80, 0xbf)], by decide,
            .cons (inRange_ofNat (by omega) (by omega) (by omega))
              (.cons (inRange_ofNat (by omega) (by omega) (by omega)) (.cons (tail _) .nil))⟩
        · exact ⟨[(0xe1, 0xec), (0x80, 0xbf), (0x80, 0xbf)], by decide,
            .cons (inRange_ofNat (by omega) (by omega) (by omega))
              (.cons (tail _) (.cons (tail _) .nil))⟩
        · exact ⟨[(0xed, 0xed), (0x80, 0x9f), (0x80, 0xbf)], by decide,
            .cons (inRange_ofNat (by omega) (by omega) (by omega))
              (.cons (inRange_ofNat (by omega) (by omega) (by omega)) (.cons (tail _) .nil))⟩
        · exact ⟨[(0xee, 0xef), (0x80, 0xbf), (0x80, 0xbf)], by decide,
            .cons (inRange_ofNat (by omega) (by omega) (by omega))
              (.cons (tail _) (.cons (tail _) .nil))⟩
      · -- and here too
        rcases show n / 262144 = 0 ∨ (1 ≤ n / 262144 ∧ n / 262144 ≤ 3) ∨ n / 262144 = 4 by omega
          with hrow | hrow | hrow
        · exact ⟨[(0xf0, 0xf0), (0x90, 0xbf), (0x80, 0xbf), (0x80, 0xbf)], by decide,
            .cons (inRange_ofNat (by omega) (by omega) (by omega))
              (.cons (inRange_ofNat (by omega) (by omega) (by omega))
                (.cons (tail _) (.cons (tail _) .nil)))⟩
        · exact ⟨[(0xf1, 0xf3), (0x80, 0xbf), (0x80, 0xbf), (0x80, 0xbf)], by decide,
            .cons (inRange_ofNat (by omega) (by omega) (by omega))
              (.cons (tail _) (.cons (tail _) (.cons (tail _) .nil)))⟩
        · exact ⟨[(0xf4, 0xf4), (0x80, 0x8f), (0x80, 0xbf), (0x80, 0xbf)], by decide,
            .cons (inRange_ofNat (by omega) (by omega) (by omega))
              (.cons (inRange_ofNat (by omega) (by omega) (by omega))
                (.cons (tail _) (.cons (tail _) .nil)))⟩

/-- The rows match exactly the bytes of the characters. -/
theorem isSequence_iff {bytes : List UInt8} :
    IsSequence bytes ↔ ∃ x, bytes = String.utf8EncodeChar x := by
  constructor
  · exact char_of_isSequence
  · rintro ⟨x, rfl⟩
    exact isSequence_encodeChar x

/-! ## The bytes of a text -/

theorem wellFormed_flatMap (cs : List Char) : WellFormed (cs.flatMap String.utf8EncodeChar) := by
  induction cs with
  | nil => exact .nil
  | cons c rest ih => exact .cons (isSequence_encodeChar c) ih

/-- Well-formed bytes are exactly the bytes of texts. -/
theorem wellFormed_iff {bytes : List UInt8} : WellFormed bytes ↔ ∃ text, encode text = bytes := by
  constructor
  · intro h
    induction h with
    | nil => exact ⟨"", rfl⟩
    | cons hsequence _ ih =>
        obtain ⟨x, rfl⟩ := isSequence_iff.mp hsequence
        obtain ⟨text, rfl⟩ := ih
        refine ⟨String.ofList (x :: text.toList), ?_⟩
        rw [encode, String.toList_ofList, List.flatMap_cons, encode]
  · rintro ⟨text, rfl⟩
    exact wellFormed_flatMap text.toList

/-- The strict reader takes the bytes of a text for that text, and nothing else for it. -/
theorem decode_eq_ok_iff {bytes : List UInt8} {text : String} :
    decode bytes = .ok text ↔ encode text = bytes := by
  constructor
  · exact encode_of_decode
  · rintro rfl
    exact decode_encode text

/-- The strict reader takes exactly the well-formed bytes. -/
theorem exists_decode_iff {bytes : List UInt8} :
    (∃ text, decode bytes = .ok text) ↔ WellFormed bytes := by
  simp only [decode_eq_ok_iff, wellFormed_iff]

end DdsBridge.Text.Utf8
