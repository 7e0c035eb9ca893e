import DdsBridge.Codec
import DdsBridge.Proofs.Text.WellFormed

/-!
# Codecs read what they wrote

A codec of one byte for each character first decides whether it can express all of its input and,
where it cannot, scans the input again for the offender. Both look for the same items, so the scan
finds the first one that the decision was about.

* **`Codec.Offends`** — the first offender among some items.
* **`Codec.Scans`** — a result that depends on whether there is one, with
  **`Codec.Scans.eq_ok_iff`** and **`Codec.Scans.eq_error_iff`**.
* **`Codec.encode_ascii`**, **`Codec.encode_latin1`**, **`Codec.decode_ascii`** — what these codecs
  accept and how they refuse.
* **`Codec.decode_encode`** — the bytes of a text stand for that text, in every codec.
* **`Codec.encode_decode`** — and the text that bytes stand for has these bytes.
* **`Codec.codecs_strict`** — each codec accepts what it can express, and no more.
-/

namespace DdsBridge.Codec

/-! ## The scan for an offender -/

section Scan

variable {α : Type} {offends : α → Bool} {items : List α}

/-- `item`, at `position`, is the first of `items` that offends. -/
def Offends (offends : α → Prop) (items : List α) (position : Nat) (item : α) : Prop :=
  offends item ∧ ∃ before after, items = before ++ item :: after ∧ before.length = position ∧
    ∀ x ∈ before, ¬offends x

theorem firstWhere_eq_none {position : Nat} (h : ∀ x ∈ items, offends x = false) :
    firstWhere offends position items = none := by
  induction items generalizing position with
  | nil => rfl
  | cons item rest ih =>
      obtain ⟨hitem, hrest⟩ := List.forall_mem_cons.mp h
      rw [firstWhere, hitem, if_neg (by decide), ih hrest]

theorem firstWhere_eq_some {p : α → Prop} {position : Nat} {item : α}
    (hp : ∀ x, offends x = true ↔ p x) (h : Offends p items position item) :
    firstWhere offends 0 items = some (position, item) := by
  -- the scan counts on from wherever it starts, so the induction is over every start
  have hscan : ∀ start, firstWhere offends start items = some (start + position, item) := by
    obtain ⟨hitem, before, after, rfl, rfl, hbefore⟩ := h
    induction before with
    | nil =>
        intro start
        rw [List.nil_append, firstWhere, if_pos ((hp item).mpr hitem), List.length_nil, Nat.add_zero]
    | cons first rest ih =>
        intro start
        obtain ⟨hfirst, hrest⟩ := List.forall_mem_cons.mp hbefore
        rw [List.cons_append, firstWhere, if_neg (mt (hp first).mp hfirst), ih hrest,
          List.length_cons]
        congr 2
        omega
  rw [hscan, Nat.zero_add]

/-- Where not all items are fine, one is the first that is not. -/
theorem exists_offends {offends : α → Prop} (h : ¬∀ x ∈ items, ¬offends x) :
    ∃ position item, Offends offends items position item := by
  induction items with
  | nil => exact absurd (by simp) h
  | cons first rest ih =>
      by_cases hfirst : offends first
      · exact ⟨0, first, hfirst, [], rest, rfl, rfl, by simp⟩
      · have hrest : ¬∀ x ∈ rest, ¬offends x := fun hall =>
          h (List.forall_mem_cons.mpr ⟨hfirst, hall⟩)
        obtain ⟨position, item, hitem, before, after, rfl, rfl, hbefore⟩ := ih hrest
        exact ⟨_, item, hitem, first :: before, after, rfl, rfl,
          List.forall_mem_cons.mpr ⟨hfirst, hbefore⟩⟩

/-- A result that is `value` where none of the items offends, and else the refusal of the first that
does. -/
structure Scans {β : Type} (result : Except CodecFault β) (offends : α → Prop) (items : List α)
    (value : β) (fault : Nat → α → CodecFault) : Prop where
  accepts : (∀ x ∈ items, ¬offends x) → result = .ok value
  refuses : ∀ {position : Nat} {item : α}, Offends offends items position item →
    result = .error (fault position item)

namespace Scans

variable {β : Type} {result : Except CodecFault β} {offends : α → Prop} {value : β}
  {fault : Nat → α → CodecFault}

theorem eq_ok_iff (h : Scans result offends items value fault) {b : β} :
    result = .ok b ↔ (∀ x ∈ items, ¬offends x) ∧ b = value := by
  constructor
  · intro hok
    by_cases hall : ∀ x ∈ items, ¬offends x
    · rw [h.accepts hall] at hok
      injection hok with hvalue
      exact ⟨hall, hvalue.symm⟩
    · obtain ⟨position, item, hfirst⟩ := exists_offends hall
      rw [h.refuses hfirst] at hok
      cases hok
  · rintro ⟨hall, rfl⟩
    exact h.accepts hall

theorem exists_ok_iff (h : Scans result offends items value fault) :
    (∃ b, result = .ok b) ↔ ∀ x ∈ items, ¬offends x := by
  constructor
  · rintro ⟨b, hb⟩
    exact (h.eq_ok_iff.mp hb).1
  · intro hall
    exact ⟨value, h.accepts hall⟩

theorem eq_error_iff (h : Scans result offends items value fault) {e : CodecFault} :
    result = .error e ↔
      ∃ position item, Offends offends items position item ∧ e = fault position item := by
  constructor
  · intro herror
    by_cases hall : ∀ x ∈ items, ¬offends x
    · rw [h.accepts hall] at herror
      cases herror
    · obtain ⟨position, item, hfirst⟩ := exists_offends hall
      rw [h.refuses hfirst] at herror
      injection herror with hfault
      exact ⟨position, item, hfirst, hfault.symm⟩
  · rintro ⟨position, item, hfirst, rfl⟩
    exact h.refuses hfirst

end Scans

end Scan

/-- The refusal of a character. -/
def charFault (codec : Codec) (position : Nat) (c : Char) : CodecFault :=
  { codec := codec.name
    action := "encode"
    reason := s!"character {Text.quoteChar c} (U+{Text.hexUpper c.toNat 4}) in position {position}" }

/-- The refusal of a byte. -/
def byteFault (codec : Codec) (position : Nat) (byte : UInt8) : CodecFault :=
  { codec := codec.name
    action := "decode"
    reason := s!"byte 0x{Text.hexLower byte.toNat 2} in position {position}" }

theorem encodeFault_of_offends {codec : Codec} {limit position : Nat} {text : String} {c : Char}
    (h : Offends (limit < ·.toNat) text.toList position c) :
    codec.encodeFault limit text = codec.charFault position c := by
  have hscan : firstWhere (fun c => limit < c.toNat) 0 text.toList = some (position, c) :=
    firstWhere_eq_some (fun _ => decide_eq_true_iff) h
  rw [encodeFault, hscan]
  rfl

/-! ## What the codecs accept -/

theorem isAscii_iff {byte : UInt8} : isAscii byte = true ↔ byte.toNat < 0x80 := by
  rw [isAscii, decide_eq_true_iff, UInt8.lt_iff_toNat_lt]
  rfl

/-- One byte for each character. -/
def narrow (text : String) : List UInt8 := text.toList.map fun c => UInt8.ofNat c.toNat

theorem encodeChar_of_ascii {c : Char} (h : c.toNat < 0x80) :
    String.utf8EncodeChar c = [UInt8.ofNat c.toNat] := by
  have hone := Text.Utf8.encodeChar_one h
  rwa [Char.ofNat_toNat] at hone

/-- The first of several bytes of a character has eight bits. -/
theorem not_all_isAscii_encodeChar {c : Char} (h : 0x80 ≤ c.toNat) :
    ¬(String.utf8EncodeChar c).all isAscii = true := by
  -- whatever follows, the first byte decides
  have hlead : ∀ {m : Nat} {rest : List UInt8}, 0x80 ≤ m → m < 0x100 →
      ¬(UInt8.ofNat m :: rest).all isAscii = true := by
    intro m rest hleast hm hall
    have hbyte := isAscii_iff.mp (List.all_eq_true.mp hall _ List.mem_cons_self)
    rw [Text.Utf8.toNat_ofNat hm] at hbyte
    omega
  have hrange := Text.Utf8.val_range c
  change 0x80 ≤ c.val.toNat at h
  unfold String.utf8EncodeChar
  generalize c.val.toNat = n at h hrange
  show ¬List.all (if n ≤ 0x7f then _ else _) isAscii = true
  rw [if_neg (by omega)]
  split
  · exact hlead (by omega) (by omega)
  · split
    · exact hlead (by omega) (by omega)
    · exact hlead (by omega) (by omega)

theorem utf8_of_ascii {cs : List Char} (h : ∀ c ∈ cs, c.toNat < 0x80) :
    cs.flatMap String.utf8EncodeChar = cs.map fun c => UInt8.ofNat c.toNat := by
  induction cs with
  | nil => rfl
  | cons c rest ih =>
      obtain ⟨hc, hrest⟩ := List.forall_mem_cons.mp h
      rw [List.flatMap_cons, ih hrest, encodeChar_of_ascii hc]
      rfl

/-- The codec looks at the bytes, whose first one that has eight bits starts the first character
above `7f`. -/
theorem encode_ascii (text : String) :
    Scans (Codec.ascii.encode text) (0x7f < ·.toNat) text.toList (narrow text)
      Codec.ascii.charFault where
  accepts h := by
    have hlt : ∀ c ∈ text.toList, c.toNat < 0x80 := fun c hc => by
      have := h c hc
      omega
    have hbytes : Text.Utf8.encode text = narrow text := utf8_of_ascii hlt
    have hall : (narrow text).all isAscii = true := by
      refine List.all_eq_true.mpr fun b hb => ?_
      obtain ⟨c, hc, rfl⟩ := List.mem_map.mp hb
      have hc := hlt c hc
      rwa [isAscii_iff, Text.Utf8.toNat_ofNat (by omega)]
    simp only [encode, hbytes, hall, if_true]
  refuses {position c} h := by
    -- the offender's own bytes are among those of the text
    have hall : ¬(Text.Utf8.encode text).all isAscii = true := by
      obtain ⟨hc, before, after, htext, -⟩ := h
      intro hall
      refine not_all_isAscii_encodeChar (c := c) (by omega) (List.all_eq_true.mpr fun b hb => ?_)
      have hmem : c ∈ text.toList := by simp [htext]
      exact List.all_eq_true.mp hall b (List.mem_flatMap.mpr ⟨c, hmem, hb⟩)
    simp only [encode]
    rw [if_neg hall, encodeFault_of_offends h]

theorem mapM_byte? {cs : List Char} (h : ∀ c ∈ cs, c.toNat < 0x100) :
    cs.mapM byte? = some (cs.map fun c => UInt8.ofNat c.toNat) := by
  induction cs with
  | nil => rfl
  | cons c rest ih =>
      obtain ⟨hc, hrest⟩ := List.forall_mem_cons.mp h
      rw [List.mapM_cons, ih hrest, byte?, if_pos hc]
      rfl

theorem mapM_byte?_eq_none {cs : List Char} (h : ¬∀ c ∈ cs, c.toNat < 0x100) :
    cs.mapM byte? = none := by
  induction cs with
  | nil => exact absurd (by simp) h
  | cons c rest ih =>
      rw [List.mapM_cons]
      by_cases hc : c.toNat < 0x100
      · rw [ih fun hrest => h (List.forall_mem_cons.mpr ⟨hc, hrest⟩)]
        cases byte? c <;> rfl
      · rw [byte?, if_neg hc]
        rfl

theorem encode_latin1 (text : String) :
    Scans (Codec.latin1.encode text) (0xff < ·.toNat) text.toList (narrow text)
      Codec.latin1.charFault where
  accepts h := by
    simp only [encode, mapM_byte? fun c hc => Nat.lt_succ_of_le (Nat.le_of_not_lt (h c hc))]
    rfl
  refuses {position c} h := by
    have hnone : text.toList.mapM byte? = none := by
      obtain ⟨hc, before, after, htext, -⟩ := h
      refine mapM_byte?_eq_none fun hall => ?_
      have := hall c (by simp [htext])
      omega
    simp only [encode, hnone]
    rw [encodeFault_of_offends h]

theorem decode_ascii (bytes : List UInt8) :
    Scans (Codec.ascii.decode bytes) (0x7f < ·.toNat) bytes (widen bytes)
      Codec.ascii.byteFault where
  accepts h := by
    have hscan : firstWhere (fun b => !isAscii b) 0 bytes = none := by
      refine firstWhere_eq_none fun b hb => ?_
      have := h b hb
      rw [isAscii_iff.mpr (by omega), Bool.not_true]
    simp only [decode, hscan]
  refuses {position byte} h := by
    have hscan : firstWhere (fun b => !isAscii b) 0 bytes = some (position, byte) := by
      refine firstWhere_eq_some (fun b => ?_) h
      rw [Bool.not_eq_true', ← Bool.not_eq_true, isAscii_iff]
      omega
    simp only [decode, hscan]
    rfl

theorem decode_utf8_eq_ok_iff {bytes : List UInt8} {text : String} :
    Codec.utf8.decode bytes = .ok text ↔ Text.Utf8.decode bytes = .ok text := by
  rw [decode]
  cases Text.Utf8.decode bytes <;> simp

/-! ## Back and forth -/

/-- Characters of one byte come back from their bytes. -/
theorem widen_narrow {text : String} (h : ∀ c ∈ text.toList, c.toNat ≤ 0xff) :
    widen (narrow text) = text := by
  have hchars : (narrow text).map (fun b => Char.ofNat b.toNat) = text.toList.map id := by
    rw [narrow, List.map_map]
    refine List.map_congr_left fun c hc => ?_
    have hle := h c hc
    show Char.ofNat (UInt8.ofNat c.toNat).toNat = c
    rw [Text.Utf8.toNat_ofNat (by omega), Char.ofNat_toNat]
  rw [widen, hchars, List.map_id, String.ofList_toList]

theorem toNat_widened (b : UInt8) : (Char.ofNat b.toNat).toNat = b.toNat :=
  Text.Utf8.toNat_charOfNat (.inl (Nat.lt_trans b.toNat_lt (by decide)))

/-- Bytes come back from the characters for them. -/
theorem narrow_widen (bytes : List UInt8) : narrow (widen bytes) = bytes := by
  rw [narrow, widen, String.toList_ofList, List.map_map]
  refine (List.map_congr_left fun b _ => ?_).trans (List.map_id bytes)
  rw [Function.comp_apply, toNat_widened, UInt8.ofNat_toNat, id]

/-- What a codec wrote it reads back. -/
theorem decode_encode {codec : Codec} {text : String} {bytes : List UInt8}
    (h : codec.encode text = .ok bytes) : codec.decode bytes = .ok text := by
  cases codec with
  | utf8 =>
      injection h with hbytes
      exact decode_utf8_eq_ok_iff.mpr (Text.Utf8.decode_eq_ok_iff.mpr hbytes)
  | ascii =>
      obtain ⟨hle, rfl⟩ := (encode_ascii text).eq_ok_iff.mp h
      have hbytes : ∀ b ∈ narrow text, ¬0x7f < b.toNat := by
        intro b hb
        obtain ⟨c, hc, rfl⟩ := List.mem_map.mp hb
        have hc := hle c hc
        rwa [Text.Utf8.toNat_ofNat (by omega)]
      rw [(decode_ascii _).accepts hbytes, widen_narrow fun c hc => ?_]
      have := hle c hc
      omega
  | latin1 =>
      obtain ⟨hle, rfl⟩ := (encode_latin1 text).eq_ok_iff.mp h
      simp only [decode]
      rw [widen_narrow fun c hc => Nat.le_of_not_lt (hle c hc)]

/-- What a codec read it writes. -/
theorem encode_decode {codec : Codec} {bytes : List UInt8} {text : String}
    (h : codec.decode bytes = .ok text) : codec.encode text = .ok bytes := by
  -- there is a character for each byte, with the same number
  have hchars : ∀ {limit : Nat}, (∀ b ∈ bytes, ¬limit < b.toNat) →
      ∀ c ∈ (widen bytes).toList, ¬limit < c.toNat := by
    intro limit hle c hc
    rw [widen, String.toList_ofList] at hc
    obtain ⟨b, hb, rfl⟩ := List.mem_map.mp hc
    rw [toNat_widened]
    exact hle b hb
  cases codec with
  | utf8 => exact congrArg Except.ok (Text.Utf8.decode_eq_ok_iff.mp (decode_utf8_eq_ok_iff.mp h))
  | ascii =>
      obtain ⟨hle, rfl⟩ := (decode_ascii bytes).eq_ok_iff.mp h
      rw [(encode_ascii _).accepts (hchars hle), narrow_widen]
  | latin1 =>
      cases h
      rw [(encode_latin1 _).accepts (hchars fun b _ => by have := b.toNat_lt; omega), narrow_widen]

/-- A codec reads exactly what it wrote and writes exactly what it read; it accepts what it can
express and nothing else, and the codecs of one byte for each character name the first item that
they cannot express, by its place among the characters of a text or among the bytes. -/
theorem codecs_strict (text : String) (bytes : List UInt8) :
    (∀ codec : Codec, codec.encode text = .ok bytes ↔ codec.decode bytes = .ok text) ∧
      (∃ found, Codec.utf8.encode text = .ok found) ∧
      ((∃ found, Codec.utf8.decode bytes = .ok found) ↔ Text.Utf8.WellFormed bytes) ∧
      ((∃ found, Codec.ascii.encode text = .ok found) ↔ ∀ c ∈ text.toList, c.toNat < 128) ∧
      ((∃ found, Codec.ascii.decode bytes = .ok found) ↔ ∀ b ∈ bytes, b.toNat < 128) ∧
      (∃ found, Codec.latin1.decode bytes = .ok found) ∧
      ((∃ found, Codec.latin1.encode text = .ok found) ↔ ∀ c ∈ text.toList, c.toNat ≤ 0xff) ∧
      (∀ fault, Codec.ascii.encode text = .error fault ↔ ∃ position c,
        Offends (128 ≤ ·.toNat) text.toList position c ∧
          fault = Codec.ascii.charFault position c) ∧
      (∀ fault, Codec.ascii.decode bytes = .error fault ↔ ∃ position b,
        Offends (128 ≤ ·.toNat) bytes position b ∧ fault = Codec.ascii.byteFault position b) ∧
      (∀ fault, Codec.latin1.encode text = .error fault ↔ ∃ position c,
        Offends (0xff < ·.toNat) text.toList position c ∧
          fault = Codec.latin1.charFault position c) := by
  refine ⟨fun codec => ⟨decode_encode, encode_decode⟩, ⟨_, rfl⟩, ?_, ?_, ?_, ⟨_, rfl⟩, ?_,
    fun _ => (encode_ascii text).eq_error_iff, fun _ => (decode_ascii bytes).eq_error_iff,
    fun _ => (encode_latin1 text).eq_error_iff⟩
  · rw [← Text.Utf8.exists_decode_iff]
    exact exists_congr fun _ => decode_utf8_eq_ok_iff
  · rw [(encode_ascii text).exists_ok_iff]
    exact forall₂_congr fun c _ => Nat.not_lt.trans Nat.lt_succ_iff.symm
  · rw [(decode_ascii bytes).exists_ok_iff]
    exact forall₂_congr fun b _ => Nat.not_lt.trans Nat.lt_succ_iff.symm
  · rw [(encode_latin1 text).exists_ok_iff]
    exact forall₂_congr fun c _ => Nat.not_lt

end DdsBridge.Codec
