import DdsBridge.Proofs.Success
import DdsBridge.Text.Utf8

/-!
# UTF-8 reads what it wrote

The strict reader takes the bytes of a character for one piece, that character, whatever follows.
By induction it takes the bytes of a text for the text's characters. Conversely, what it takes for a
character are the bytes of that character, so all bytes that it takes are the bytes of their text.

* **`lead_single`**, **`lead_two`**, **`lead_three`**, **`lead_four`** — what the first byte of a
  character says, by the number of its bytes.
* **`piecesFrom_char`** — one character.
* **`decode_encode`** — a whole text.
* **`char_of_ok`** — the first character of bytes that the reader takes.
* **`encode_of_decode`** — all of these bytes.
-/

namespace DdsBridge.Text.Utf8

theorem toNat_ofNat {n : Nat} (h : n < 256) : (UInt8.ofNat n).toNat = n := by
  simp [UInt8.toNat_ofNat', Nat.mod_eq_of_lt h]

theorem lead_single {n : Nat} (h : n < 0x80) : lead (UInt8.ofNat n) = .single (Char.ofNat n) := by
  have hn : (UInt8.ofNat n).toNat = n := toNat_ofNat (by omega)
  simp only [lead, hn]
  rw [if_pos h]

theorem lead_two {n : Nat} (hlow : 2 ≤ n) (hhigh : n < 0x20) :
    lead (UInt8.ofNat (n + 0xc0)) = .opens ⟨1, n, 1, 0x80, 0xbf⟩ := by
  have hn : (UInt8.ofNat (n + 0xc0)).toNat = n + 0xc0 := toNat_ofNat (by omega)
  simp only [lead, hn]
  rw [if_neg (by omega), if_pos (by omega), Nat.add_sub_cancel]

/-- The range of the second byte of a character of three bytes. -/
theorem lead_three {n : Nat} (h : n < 0x10) :
    lead (UInt8.ofNat (n + 0xe0)) =
      .opens ⟨1, n, 2, if n = 0 then 0xa0 else 0x80, if n = 0xd then 0x9f else 0xbf⟩ := by
  have hn : (UInt8.ofNat (n + 0xe0)).toNat = n + 0xe0 := toNat_ofNat (by omega)
  simp only [lead, hn]
  rw [if_neg (by omega), if_neg (by omega)]
  by_cases hzero : n = 0
  · subst hzero
    rfl
  · by_cases hd : n = 0xd
    · subst hd
      rfl
    · rw [if_neg (by omega), if_neg (by omega), if_pos (by omega), if_neg hzero, if_neg hd,
        Nat.add_sub_cancel]

/-- The range of the second byte of a character of four bytes. -/
theorem lead_four {n : Nat} (h : n ≤ 4) :
    lead (UInt8.ofNat (n + 0xf0)) =
      .opens ⟨1, n, 3, if n = 0 then 0x90 else 0x80, if n = 4 then 0x8f else 0xbf⟩ := by
  have hn : (UInt8.ofNat (n + 0xf0)).toNat = n + 0xf0 := toNat_ofNat (by omega)
  simp only [lead, hn]
  rw [if_neg (by omega), if_neg (by omega), if_neg (by omega), if_neg (by omega),
    if_neg (by omega)]
  by_cases hzero : n = 0
  · subst hzero
    rfl
  · by_cases hfour : n = 4
    · subst hfour
      rfl
    · rw [if_neg (by omega), if_pos (by omega), if_neg hzero, if_neg hfour, Nat.add_sub_cancel]

/-- A byte that is not the last one of its character. -/
theorem piecesFrom_owed {state : Open} {n : Nat} (rest : List UInt8) (howed : 1 < state.owed)
    (hn : n < 0x40) (hlow : state.low ≤ n + 0x80) (hhigh : n + 0x80 ≤ state.high) :
    piecesFrom (some state) (UInt8.ofNat (n + 0x80) :: rest) =
      piecesFrom (some ⟨state.read + 1, state.value * 64 + n, state.owed - 1, 0x80, 0xbf⟩) rest := by
  have hbyte : (UInt8.ofNat (n + 0x80)).toNat = n + 0x80 := toNat_ofNat (by omega)
  rw [piecesFrom]
  simp only [hbyte]
  rw [if_pos ⟨hlow, hhigh⟩, if_neg (by omega), Nat.add_sub_cancel]

/-- The last byte of a character. -/
theorem piecesFrom_last {state : Open} {n : Nat} (rest : List UInt8) (howed : state.owed = 1)
    (hn : n < 0x40) (hlow : state.low ≤ n + 0x80) (hhigh : n + 0x80 ≤ state.high) :
    piecesFrom (some state) (UInt8.ofNat (n + 0x80) :: rest) =
      .char (Char.ofNat (state.value * 64 + n)) (state.read + 1) :: piecesFrom none rest := by
  have hbyte : (UInt8.ofNat (n + 0x80)).toNat = n + 0x80 := toNat_ofNat (by omega)
  rw [piecesFrom]
  simp only [hbyte]
  rw [if_pos ⟨hlow, hhigh⟩, if_pos (by omega), Nat.add_sub_cancel]

/-- Where a character's code point lies: below the surrogates, or above them up to the last one. -/
theorem val_range (c : Char) :
    c.val.toNat < 0xd800 ∨ (0xdfff < c.val.toNat ∧ c.val.toNat < 0x110000) := c.valid

theorem piecesFrom_char (c : Char) (rest : List UInt8) :
    ∃ size, piecesFrom none (String.utf8EncodeChar c ++ rest) =
      .char c size :: piecesFrom none rest := by
  have hrange := val_range c
  have hchar : ∀ n, n = c.val.toNat → Char.ofNat n = c := fun n hn => hn ▸ Char.ofNat_toNat c
  unfold String.utf8EncodeChar
  generalize c.val.toNat = n at hrange hchar
  show ∃ size, piecesFrom none ((if n ≤ 0x7f then _ else _) ++ rest) = _
  split
  · refine ⟨1, ?_⟩
    rw [List.cons_append, List.nil_append, piecesFrom, lead_single (by omega)]
    dsimp only
    rw [hchar n rfl]
  · split
    · refine ⟨2, ?_⟩
      rw [List.cons_append, List.cons_append, List.nil_append, piecesFrom,
        lead_two (by omega) (by omega)]
      dsimp only
      rw [piecesFrom_last rest rfl (by omega) (by show 0x80 ≤ _; omega) (by show _ ≤ 0xbf; omega)]
      dsimp only
      rw [hchar _ (by omega)]
    · split
      · refine ⟨3, ?_⟩
        rw [List.cons_append, List.cons_append, List.cons_append, List.nil_append, piecesFrom,
          lead_three (by omega)]
        dsimp only
        -- the bounds of the second byte exclude the overlong forms and the surrogates
        rw [piecesFrom_owed _ (by show 1 < 2; omega) (by omega)
            (by dsimp only; split <;> omega) (by dsimp only; split <;> omega),
          piecesFrom_last rest rfl (by omega) (by show 0x80 ≤ _; omega)
            (by show _ ≤ 0xbf; omega)]
        dsimp only
        rw [hchar _ (by omega)]
      · refine ⟨4, ?_⟩
        rw [List.cons_append, List.cons_append, List.cons_append, List.cons_append,
          List.nil_append, piecesFrom, lead_four (by omega)]
        dsimp only
        rw [piecesFrom_owed _ (by show 1 < 3; omega) (by omega)
            (by dsimp only; split <;> omega) (by dsimp only; split <;> omega),
          piecesFrom_owed _ (by show 1 < 2; omega) (by omega) (by show 0x80 ≤ _; omega)
            (by show _ ≤ 0xbf; omega),
          piecesFrom_last rest rfl (by omega) (by show 0x80 ≤ _; omega)
            (by show _ ≤ 0xbf; omega)]
        dsimp only
        rw [hchar _ (by omega)]

theorem charsOfPieces_encode (index : Nat) (cs : List Char) :
    charsOfPieces index (piecesFrom none (cs.flatMap String.utf8EncodeChar)) = .ok cs := by
  induction cs generalizing index with
  | nil => rfl
  | cons c rest ih =>
      obtain ⟨size, hpieces⟩ := piecesFrom_char c (rest.flatMap String.utf8EncodeChar)
      rw [List.flatMap_cons, hpieces, charsOfPieces, ih]
      rfl

/-- The reader gets back every text from its bytes. -/
theorem decode_encode (s : String) : decode (encode s) = .ok s := by
  have h : charsOfPieces 0 (pieces (encode s)) = .ok s.toList := charsOfPieces_encode 0 s.toList
  simp only [decode, h]
  exact congrArg Except.ok (String.ofList_toList)

/-! ## From bytes to a text and back -/

/-- A first byte starts a character of one, two, three or four bytes, or none. -/
theorem lead_cases (byte : UInt8) :
    byte.toNat < 0x80 ∨ (∃ n, 2 ≤ n ∧ n < 0x20 ∧ byte = UInt8.ofNat (n + 0xc0)) ∨
      (∃ n, n < 0x10 ∧ byte = UInt8.ofNat (n + 0xe0)) ∨
      (∃ n, n ≤ 4 ∧ byte = UInt8.ofNat (n + 0xf0)) ∨ lead byte = .none := by
  have hbyte : ∀ base, base ≤ byte.toNat → byte = UInt8.ofNat (byte.toNat - base + base) :=
    fun base hle => by rw [Nat.sub_add_cancel hle, UInt8.ofNat_toNat]
  by_cases hone : byte.toNat < 0x80
  · exact .inl hone
  · by_cases htwo : 0xc2 ≤ byte.toNat ∧ byte.toNat ≤ 0xdf
    · exact .inr (.inl ⟨byte.toNat - 0xc0, by omega, by omega, hbyte 0xc0 (by omega)⟩)
    · by_cases hthree : 0xe0 ≤ byte.toNat ∧ byte.toNat ≤ 0xef
      · exact .inr (.inr (.inl ⟨byte.toNat - 0xe0, by omega, hbyte 0xe0 (by omega)⟩))
      · by_cases hfour : 0xf0 ≤ byte.toNat ∧ byte.toNat ≤ 0xf4
        · exact .inr (.inr (.inr (.inl ⟨byte.toNat - 0xf0, by omega, hbyte 0xf0 (by omega)⟩)))
        · refine .inr (.inr (.inr (.inr ?_)))
          simp only [lead]
          rw [if_neg (by omega), if_neg (by omega), if_neg (by omega), if_neg (by omega),
            if_neg (by omega), if_neg (by omega), if_neg (by omega), if_neg (by omega)]

variable {index : Nat} {state : Open} {bytes : List UInt8} {cs : List Char}

/-- Where a strict reading succeeds, a character begun goes on with a byte of the range wanted. -/
theorem next_of_ok (hlow : 0x80 ≤ state.low) (hhigh : state.high ≤ 0xbf)
    (h : charsOfPieces index (piecesFrom (some state) bytes) = .ok cs) :
    ∃ n rest, bytes = UInt8.ofNat (n + 0x80) :: rest ∧ n < 0x40 ∧ state.low ≤ n + 0x80 ∧
      n + 0x80 ≤ state.high := by
  cases bytes with
  | nil => cases h
  | cons byte rest =>
      by_cases hrange : state.low ≤ byte.toNat ∧ byte.toNat ≤ state.high
      · refine ⟨byte.toNat - 0x80, rest, ?_, by omega, by omega, by omega⟩
        rw [Nat.sub_add_cancel (by omega), UInt8.ofNat_toNat]
      · rw [piecesFrom, if_neg hrange] at h
        cases h

/-- The rest of the reading after a byte that is not the last one of its character. -/
theorem owed_of_ok (howed : 1 < state.owed) (hlow : 0x80 ≤ state.low) (hhigh : state.high ≤ 0xbf)
    (h : charsOfPieces index (piecesFrom (some state) bytes) = .ok cs) :
    ∃ n rest, bytes = UInt8.ofNat (n + 0x80) :: rest ∧ n < 0x40 ∧ state.low ≤ n + 0x80 ∧
      n + 0x80 ≤ state.high ∧
      charsOfPieces index (piecesFrom
        (some ⟨state.read + 1, state.value * 64 + n, state.owed - 1, 0x80, 0xbf⟩) rest) = .ok cs := by
  obtain ⟨n, rest, rfl, hn, hleast, hgreatest⟩ := next_of_ok hlow hhigh h
  rw [piecesFrom_owed rest howed hn hleast hgreatest] at h
  exact ⟨n, rest, rfl, hn, hleast, hgreatest, h⟩

/-- The rest of the reading after a character. -/
theorem rest_of_ok {c : Char} {size : Nat} {pieces : List Piece}
    (h : charsOfPieces index (.char c size :: pieces) = .ok cs) :
    ∃ more, cs = c :: more ∧ charsOfPieces (index + size) pieces = .ok more := by
  rw [charsOfPieces] at h
  obtain ⟨more, hmore, rfl⟩ := map_eq_ok_iff.mp h
  exact ⟨more, rfl, hmore⟩

/-- The rest of the reading after the last byte of a character. -/
theorem last_of_ok (howed : state.owed = 1) (hlow : 0x80 ≤ state.low) (hhigh : state.high ≤ 0xbf)
    (h : charsOfPieces index (piecesFrom (some state) bytes) = .ok cs) :
    ∃ n rest more, bytes = UInt8.ofNat (n + 0x80) :: rest ∧ n < 0x40 ∧ state.low ≤ n + 0x80 ∧
      n + 0x80 ≤ state.high ∧ cs = Char.ofNat (state.value * 64 + n) :: more ∧
      charsOfPieces (index + (state.read + 1)) (piecesFrom none rest) = .ok more := by
  obtain ⟨n, rest, rfl, hn, hleast, hgreatest⟩ := next_of_ok hlow hhigh h
  rw [piecesFrom_last rest howed hn hleast hgreatest] at h
  obtain ⟨more, rfl, hmore⟩ := rest_of_ok h
  exact ⟨n, rest, more, rfl, hn, hleast, hgreatest, rfl, hmore⟩

theorem toNat_charOfNat {v : Nat} (hv : v < 0xd800 ∨ (0xdfff < v ∧ v < 0x110000)) :
    (Char.ofNat v).toNat = v := by
  rw [Char.ofNat, dif_pos hv]
  rfl

/-- The bytes of the character with a code point. -/
theorem utf8EncodeChar_ofNat {v : Nat} (hv : v < 0xd800 ∨ (0xdfff < v ∧ v < 0x110000)) :
    String.utf8EncodeChar (Char.ofNat v) =
      if v ≤ 0x7f then [UInt8.ofNat v]
      else if v ≤ 0x7ff then [UInt8.ofNat (v / 64 % 32 + 0xc0), UInt8.ofNat (v % 64 + 0x80)]
      else if v ≤ 0xffff then
        [UInt8.ofNat (v / 4096 % 16 + 0xe0), UInt8.ofNat (v / 64 % 64 + 0x80),
          UInt8.ofNat (v % 64 + 0x80)]
      else
        [UInt8.ofNat (v / 262144 % 8 + 0xf0), UInt8.ofNat (v / 4096 % 64 + 0x80),
          UInt8.ofNat (v / 64 % 64 + 0x80), UInt8.ofNat (v % 64 + 0x80)] := by
  rw [String.utf8EncodeChar, show (Char.ofNat v).val.toNat = v from toNat_charOfNat hv]

theorem encodeChar_one {n : Nat} (h : n < 0x80) :
    String.utf8EncodeChar (Char.ofNat n) = [UInt8.ofNat n] := by
  rw [utf8EncodeChar_ofNat (by omega), if_pos (by omega)]

theorem encodeChar_two {n m : Nat} (hleast : 2 ≤ n) (hn : n < 0x20) (hm : m < 0x40) :
    String.utf8EncodeChar (Char.ofNat (n * 64 + m)) =
      [UInt8.ofNat (n + 0xc0), UInt8.ofNat (m + 0x80)] := by
  rw [utf8EncodeChar_ofNat (by omega), if_neg (by omega), if_pos (by omega),
    show (n * 64 + m) / 64 % 32 = n by omega, show (n * 64 + m) % 64 = m by omega]

/-- The second byte is not that of an overlong form, nor that of a surrogate. -/
theorem encodeChar_three {n m l : Nat} (hn : n < 0x10) (hm : m < 0x40) (hl : l < 0x40)
    (hleast : n = 0 → 0x20 ≤ m) (hgreatest : n = 0xd → m < 0x20) :
    String.utf8EncodeChar (Char.ofNat ((n * 64 + m) * 64 + l)) =
      [UInt8.ofNat (n + 0xe0), UInt8.ofNat (m + 0x80), UInt8.ofNat (l + 0x80)] := by
  have hv : 0x800 ≤ (n * 64 + m) * 64 + l ∧ ((n * 64 + m) * 64 + l < 0xd800 ∨
      0xdfff < (n * 64 + m) * 64 + l) := by
    by_cases hzero : n = 0
    · have := hleast hzero
      omega
    · by_cases hd : n = 0xd
      · have := hgreatest hd
        omega
      · omega
  rw [utf8EncodeChar_ofNat (by omega), if_neg (by omega), if_neg (by omega), if_pos (by omega),
    show ((n * 64 + m) * 64 + l) / 4096 % 16 = n by omega,
    show ((n * 64 + m) * 64 + l) / 64 % 64 = m by omega,
    show ((n * 64 + m) * 64 + l) % 64 = l by omega]

/-- The second byte is not that of an overlong form, nor beyond that of the last code point. -/
theorem encodeChar_four {n m l k : Nat} (hn : n ≤ 4) (hm : m < 0x40) (hl : l < 0x40)
    (hk : k < 0x40) (hleast : n = 0 → 0x10 ≤ m) (hgreatest : n = 4 → m < 0x10) :
    String.utf8EncodeChar (Char.ofNat (((n * 64 + m) * 64 + l) * 64 + k)) =
      [UInt8.ofNat (n + 0xf0), UInt8.ofNat (m + 0x80), UInt8.ofNat (l + 0x80),
        UInt8.ofNat (k + 0x80)] := by
  have hv : 0x10000 ≤ ((n * 64 + m) * 64 + l) * 64 + k ∧
      ((n * 64 + m) * 64 + l) * 64 + k < 0x110000 := by
    by_cases hzero : n = 0
    · have := hleast hzero
      omega
    · by_cases hfour : n = 4
      · have := hgreatest hfour
        omega
      · omega
  rw [utf8EncodeChar_ofNat (by omega), if_neg (by omega), if_neg (by omega), if_neg (by omega),
    show (((n * 64 + m) * 64 + l) * 64 + k) / 262144 % 8 = n by omega,
    show (((n * 64 + m) * 64 + l) * 64 + k) / 4096 % 64 = m by omega,
    show (((n * 64 + m) * 64 + l) * 64 + k) / 64 % 64 = l by omega,
    show (((n * 64 + m) * 64 + l) * 64 + k) % 64 = k by omega]

/-- Where a strict reading succeeds and is not over, it goes on with the bytes of a character. -/
theorem char_of_ok {byte : UInt8}
    (h : charsOfPieces index (piecesFrom none (byte :: bytes)) = .ok cs) :
    ∃ c rest more index', byte :: bytes = String.utf8EncodeChar c ++ rest ∧ cs = c :: more ∧
      charsOfPieces index' (piecesFrom none rest) = .ok more := by
  -- the first byte says how many are to follow, and some start no character
  rcases lead_cases byte with hone | ⟨n, hleast, hgreatest, rfl⟩ | ⟨n, hn, rfl⟩ | ⟨n, hn, rfl⟩ | hnone
  · rw [← UInt8.ofNat_toNat (x := byte), piecesFrom, lead_single hone] at h
    obtain ⟨more, rfl, hmore⟩ := rest_of_ok h
    refine ⟨_, bytes, more, _, ?_, rfl, hmore⟩
    rw [encodeChar_one hone, UInt8.ofNat_toNat]
    rfl
  · rw [piecesFrom, lead_two hleast hgreatest] at h
    obtain ⟨m, rest, more, rfl, hm, -, -, rfl, hmore⟩ :=
      last_of_ok rfl (by show 0x80 ≤ 0x80; omega) (by show 0xbf ≤ 0xbf; omega) h
    dsimp only at hmore
    refine ⟨_, rest, more, _, ?_, rfl, hmore⟩
    dsimp only
    rw [encodeChar_two hleast hgreatest hm]
    rfl
  · rw [piecesFrom, lead_three hn] at h
    obtain ⟨m, rest, rfl, hm, hleast, hgreatest, h⟩ :=
      owed_of_ok (by show 1 < 2; omega) (by dsimp only; split <;> omega)
        (by dsimp only; split <;> omega) h
    dsimp only at hleast hgreatest h
    obtain ⟨l, rest, more, rfl, hl, -, -, rfl, hmore⟩ :=
      last_of_ok rfl (by show 0x80 ≤ 0x80; omega) (by show 0xbf ≤ 0xbf; omega) h
    dsimp only at hmore
    refine ⟨_, rest, more, _, ?_, rfl, hmore⟩
    dsimp only
    rw [encodeChar_three hn hm hl (fun hzero => by rw [if_pos hzero] at hleast; omega)
      (fun hd => by rw [if_pos hd] at hgreatest; omega)]
    rfl
  · rw [piecesFrom, lead_four hn] at h
    obtain ⟨m, rest, rfl, hm, hleast, hgreatest, h⟩ :=
      owed_of_ok (by show 1 < 3; omega) (by dsimp only; split <;> omega)
        (by dsimp only; split <;> omega) h
    dsimp only at hleast hgreatest h
    obtain ⟨l, rest, rfl, hl, -, -, h⟩ :=
      owed_of_ok (by show 1 < 2; omega) (by show 0x80 ≤ 0x80; omega) (by show 0xbf ≤ 0xbf; omega) h
    dsimp only at h
    obtain ⟨k, rest, more, rfl, hk, -, -, rfl, hmore⟩ :=
      last_of_ok rfl (by show 0x80 ≤ 0x80; omega) (by show 0xbf ≤ 0xbf; omega) h
    dsimp only at hmore
    refine ⟨_, rest, more, _, ?_, rfl, hmore⟩
    dsimp only
    rw [encodeChar_four hn hm hl hk (fun hzero => by rw [if_pos hzero] at hleast; omega)
      (fun hfour => by rw [if_pos hfour] at hgreatest; omega)]
    rfl
  · rw [piecesFrom, hnone] at h
    cases h

/-- The characters that were read have the bytes that they were read from. -/
theorem flatMap_of_ok {index : Nat} {bytes : List UInt8} {cs : List Char}
    (h : charsOfPieces index (piecesFrom none bytes) = .ok cs) :
    cs.flatMap String.utf8EncodeChar = bytes := by
  induction cs generalizing index bytes with
  | nil =>
      cases bytes with
      | nil => rfl
      | cons byte rest =>
          obtain ⟨c, rest, more, index', -, hcs, -⟩ := char_of_ok h
          cases hcs
  | cons c rest ih =>
      cases bytes with
      | nil => cases h
      | cons byte bytes =>
          obtain ⟨c', left, more, index', hbytes, hcs, hmore⟩ := char_of_ok h
          cases hcs
          rw [List.flatMap_cons, ih hmore, hbytes]

/-- Bytes that the reader takes are those of the text that it gives. -/
theorem encode_of_decode {bytes : List UInt8} {s : String} (h : decode bytes = .ok s) :
    encode s = bytes := by
  obtain ⟨cs, hcs, rfl⟩ := map_eq_ok_iff.mp h
  rw [encode, String.toList_ofList]
  exact flatMap_of_ok hcs

end DdsBridge.Text.Utf8
