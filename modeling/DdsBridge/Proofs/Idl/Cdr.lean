import DdsBridge.Idl.Cdr
import DdsBridge.Proofs.Idl.WellFormed
import DdsBridge.Proofs.Text.Utf8

/-!
# The coded form reads back

A reader that follows a writer gets back what was written and stops where the writer stopped,
whatever follows. This is shown for numbers, for sequences, and by induction on the type for all
values that belong to an exact type and whose lengths fit.

* **`Reads`** — a reader takes exactly some bytes, from some offset, for some result.
* **`reads_nat`**, **`reads_items`** — numbers and sequences.
* **`reads_decodeAt`** — values.
* **`decode_encode`** — whole payloads.
* **`coding_faithful`** — the coding as a coding of samples.
-/

namespace DdsBridge.Cdr

/-! ## Numbers as bytes -/

@[simp] theorem littleEndian_length (n size : Nat) : (littleEndian n size).length = size := by
  induction size generalizing n with
  | zero => rfl
  | succ size ih => simp [littleEndian, ih]

theorem ofLittleEndian_littleEndian {n size : Nat} (h : n < Nat.pow 256 size) :
    ofLittleEndian (littleEndian n size) = n := by
  induction size generalizing n with
  | zero =>
      have hzero : n < 1 := h
      have : n = 0 := by omega
      subst this
      rfl
  | succ size ih =>
      have hpow : Nat.pow 256 (size + 1) = Nat.pow 256 size * 256 := rfl
      rw [hpow] at h
      have hrest := ih (n := n / 256) (by omega)
      rw [littleEndian, ofLittleEndian, hrest]
      have hbyte : (UInt8.ofNat (n % 256)).toNat = n % 256 := Text.Utf8.toNat_ofNat (by omega)
      omega

theorem count_eq (kind : IntKind) : kind.count = Nat.pow 256 kind.size := by
  cases kind <;> decide

theorem upperCount_le (kind : IntKind) : 0 < kind.upperCount ∧ kind.upperCount ≤ kind.count := by
  cases kind <;> decide

/-- A number of a kind comes back from its low bits. -/
theorem signed_emod {kind : IntKind} {n : Int} (hlow : kind.least ≤ n) (hhigh : n ≤ kind.greatest) :
    signed kind (n % kind.count).toNat = n := by
  have hcount := upperCount_le kind
  unfold IntKind.least at hlow
  unfold IntKind.greatest at hhigh
  unfold signed
  by_cases hn : 0 ≤ n
  · have hmod : n % (kind.count : Int) = n := Int.emod_eq_of_lt hn (by omega)
    rw [hmod, if_neg (by omega)]
    omega
  · have hmod : n % (kind.count : Int) = n + kind.count := by
      rw [← Int.add_emod_right, Int.emod_eq_of_lt (by omega) (by omega)]
    rw [hmod, if_pos (by omega)]
    omega

theorem emod_count_lt (kind : IntKind) (n : Int) :
    (n % kind.count).toNat < Nat.pow 256 kind.size := by
  have hcount := upperCount_le kind
  have hlt : n % (kind.count : Int) < kind.count := Int.emod_lt_of_pos n (by omega)
  rw [← count_eq]
  omega

/-! ## Readers -/

/-- A reader takes some bytes, which start at an offset, for a result, and no byte more. -/
def Reads {α : Type} (reader : Reader α) (offset : Nat) (written : List UInt8) (a : α) : Prop :=
  ∀ tail, reader.run ⟨offset, written ++ tail⟩ = .ok (a, ⟨offset + written.length, tail⟩)

variable {α β : Type}

theorem reads_pure (offset : Nat) (a : α) : Reads (pure a) offset [] a := fun _ => rfl

theorem Reads.bind {reader : Reader α} {next : α → Reader β} {offset : Nat}
    {first second : List UInt8} {a : α} {b : β} (hfirst : Reads reader offset first a)
    (hsecond : Reads (next a) (offset + first.length) second b) :
    Reads (reader >>= next) offset (first ++ second) b := by
  intro tail
  rw [StateT.run_bind, List.append_assoc, hfirst (second ++ tail)]
  show (next a).run _ = _
  rw [hsecond tail, List.length_append, Nat.add_assoc]

/-- A reader that ends with a computation. -/
theorem Reads.map {reader : Reader α} {offset : Nat} {written : List UInt8} {a : α}
    (h : Reads reader offset written a) (f : α → β) :
    Reads (reader >>= fun x => pure (f x)) offset written (f a) := by
  have hall : Reads (reader >>= fun x => pure (f x)) offset (written ++ []) (f a) :=
    h.bind (reads_pure (offset + written.length) (f a))
  rwa [List.append_nil] at hall

theorem reads_bytes (offset : Nat) (written : List UInt8) :
    Reads (bytes written.length) offset written written := by
  intro tail
  show bytes written.length ⟨offset, written ++ tail⟩ = _
  simp only [bytes, List.take_left, List.drop_left]
  rw [if_neg (Nat.lt_irrefl _)]
  rfl

theorem reads_bytes_of_length {offset count : Nat} {written : List UInt8}
    (h : written.length = count) : Reads (bytes count) offset written written :=
  h ▸ reads_bytes offset written

/-- A number that fits its size. -/
theorem reads_nat {offset size n : Nat} (h : n < Nat.pow 256 size) :
    Reads (nat .lowFirst size) offset (encodeNat offset size n) n := by
  have hvalue : ∀ start, Reads (bytes size >>= fun read => pure (ofLittleEndian read)) start
      (littleEndian n size) (ofLittleEndian (littleEndian n size)) := fun start =>
    (reads_bytes_of_length (littleEndian_length n size)).map ofLittleEndian
  rw [ofLittleEndian_littleEndian h] at hvalue
  have hall : Reads (bytes (padding offset size) >>= fun _ =>
      bytes size >>= fun read => pure (ofLittleEndian read)) offset
      (List.replicate (padding offset size) 0 ++ littleEndian n size) n :=
    (reads_bytes_of_length List.length_replicate).bind (hvalue _)
  exact hall

theorem maxLength_lt : maxLength < Nat.pow 256 4 := by decide

/-- A length that fits. -/
theorem reads_length {offset n : Nat} (h : n ≤ maxLength) :
    Reads (nat .lowFirst 4) offset (encodeNat offset 4 n) n :=
  reads_nat (Nat.lt_of_le_of_lt h maxLength_lt)

/-- Items of a sequence, if every item reads back. -/
theorem reads_items {item : Reader Value} {encodeItem : Nat → Value → List UInt8}
    {values : List Value}
    (h : ∀ v ∈ values, ∀ offset, Reads item offset (encodeItem offset v) v) (offset : Nat) :
    Reads (items item values.length) offset (encodeItems encodeItem offset values) values := by
  induction values generalizing offset with
  | nil => exact reads_pure offset []
  | cons v rest ih =>
      obtain ⟨hv, hrest⟩ := List.forall_mem_cons.mp h
      have htail := (ih hrest (offset + (encodeItem offset v).length)).map (v :: ·)
      exact (hv offset).bind htail

/-! ## Values -/

theorem reads_bool (offset : Nat) (b : Bool) :
    Reads (decodeAt .lowFirst .bool) offset (encodeAt .bool offset (.bool b)) (.bool b) := by
  have hone : encodeAt .bool offset (.bool b) = encodeNat offset 1 (if b then 1 else 0) := by
    have hpadding : padding offset 1 = 0 := Nat.mod_one _
    simp only [encodeAt, encodeNat, hpadding]
    cases b <;> rfl
  rw [hone, decodeAt, ← List.append_nil (encodeNat offset 1 _)]
  refine (reads_nat (by cases b <;> decide)).bind ?_
  cases b
  · exact reads_pure _ _
  · exact reads_pure _ _

/-- What a reader makes of the bytes of a text. -/
def ofText (text : List UInt8) : Reader Value :=
  match Text.Utf8.decode text.dropLast with
  | .ok s => return .text s
  | .error fault => throw (.text fault)

theorem reads_text {offset : Nat} {s : String}
    (h : (Text.Utf8.encode s).length + 1 ≤ maxLength) :
    Reads (decodeAt .lowFirst .string) offset (encodeAt .string offset (.text s)) (.text s) := by
  have hbytes : ∀ start, Reads (bytes ((Text.Utf8.encode s).length + 1)) start
      (Text.Utf8.encode s ++ [0]) (Text.Utf8.encode s ++ [0]) := fun start =>
    reads_bytes_of_length (by rw [List.length_append]; rfl)
  have htext : ∀ start, Reads (ofText (Text.Utf8.encode s ++ [0])) start [] (.text s) := by
    intro start
    rw [ofText, List.dropLast_concat, Text.Utf8.decode_encode]
    exact reads_pure start _
  have hall : Reads (nat .lowFirst 4 >>= fun count => bytes count >>= ofText) offset
      (encodeNat offset 4 ((Text.Utf8.encode s).length + 1) ++
        ((Text.Utf8.encode s ++ [0]) ++ [])) (.text s) :=
    (reads_length h).bind ((hbytes _).bind (htext _))
  rw [List.append_nil, ← List.append_assoc] at hall
  exact hall

mutual

/-- A value that belongs to its type and whose lengths fit reads back. -/
theorem reads_decodeAt : ∀ (type : IdlType) (v : Value) (offset : Nat), type.Exact →
    type.Admits v → lengthsFit type v = true →
    Reads (decodeAt .lowFirst type) offset (encodeAt type offset v) v
  | .bool, .bool b, offset, _, _, _ => reads_bool offset b
  | .int kind, .int n, offset, _, hv, _ => by
      have h : Reads (nat .lowFirst kind.size >>= fun low => pure (Value.int (signed kind low)))
          offset (encodeNat offset kind.size (n % kind.count).toNat)
          (.int (signed kind (n % kind.count).toNat)) :=
        (reads_nat (emod_count_lt kind n)).map fun low => Value.int (signed kind low)
      -- within its bounds a number is what its residue stands for
      rw [signed_emod hv.1 hv.2] at h
      exact h
  | .float64, .float64 x, offset, _, _, _ => by
      have h : Reads (nat .lowFirst 8 >>= fun word => pure (Value.float64 ⟨UInt64.ofNat word⟩))
          offset (encodeNat offset 8 x.bits.toNat) (.float64 ⟨UInt64.ofNat x.bits.toNat⟩) :=
        (reads_nat x.bits.toNat_lt).map fun word => Value.float64 ⟨UInt64.ofNat word⟩
      rw [UInt64.ofNat_toNat] at h
      exact h
  | .string, .text s, offset, _, _, hfit => reads_text (of_decide_eq_true hfit)
  | .coded _, .bytes written, offset, _, _, hfit =>
      (reads_length (of_decide_eq_true hfit)).bind ((reads_bytes _ written).map Value.bytes)
  | .enumeration e, .variant index, offset, he, hv, _ => by
      rw [decodeAt, encodeAt, ← List.append_nil (encodeNat offset 4 index)]
      refine (reads_nat (he.index_lt hv)).bind ?_
      rw [if_pos (show index < e.variants.length from hv)]
      exact reads_pure _ _
  | .struct _ fields, .record values, offset, hs, hv, hfit =>
      (reads_decodeFields fields values offset hs.2 hv hfit).map Value.record
  | .seq item, .seq values, offset, hitem, hv, hfit => by
      obtain ⟨hlength, hall⟩ := Bool.and_eq_true_iff.mp hfit
      have hitems : ∀ start, Reads (items (decodeAt .lowFirst item) values.length) start
          (encodeItems (encodeAt item) start values) values :=
        reads_items fun v hmem start =>
          reads_decodeAt item v start hitem (hv v hmem) (List.all_eq_true.mp hall v hmem)
      exact (reads_length (of_decide_eq_true hlength)).bind ((hitems _).map Value.seq)

/-- The values of fields read back. -/
theorem reads_decodeFields : ∀ (fields : Fields) (values : List Value) (offset : Nat),
    fields.Exact → fields.Admit values → fieldLengthsFit fields values = true →
    Reads (decodeFields .lowFirst fields) offset (encodeFields fields offset values) values
  | .nil, [], offset, _, _, _ => reads_pure offset []
  | .cons _ type rest, v :: values, offset, hfields, hv, hfit => by
      obtain ⟨hfirst, hrest⟩ := Bool.and_eq_true_iff.mp hfit
      have hvalues := reads_decodeFields rest values (offset + (encodeAt type offset v).length)
        hfields.2 hv.2 hrest
      exact (reads_decodeAt type v offset hfields.1 hv.1 hfirst).bind (hvalues.map (v :: ·))

end

/-- What was coded reads back. -/
theorem decode_encode {type : IdlType} {v : Value} {payload : List UInt8} (htype : type.Exact)
    (hv : type.Admits v) (h : encode type v = .ok payload) : decode type payload = .ok v := by
  rw [encode] at h
  split at h
  · rename_i hfit
    injection h with hpayload
    subst hpayload
    have hhead := reads_bytes 0 header (encodeAt type 0 v)
    have hvalue := reads_decodeAt type v 0 htype hv hfit []
    rw [List.append_nil] at hvalue
    have hlength : header.length = 4 := rfl
    rw [hlength] at hhead
    simp only [decode, hhead]
    show (do
      let read ← (decodeAt .lowFirst type).run ⟨0, encodeAt type 0 v⟩
      return read.1 : Except Fault Value) = .ok v
    rw [hvalue]
    rfl
  · exact absurd h (by simp)

theorem coding_faithful : coding.Faithful where
  decode_encode {type v payload} htype hv h := by
    have hpayload : encode type v = .ok payload := by
      change (encode type v).mapError Fault.message = .ok payload at h
      cases hcoded : encode type v with
      | error fault => rw [hcoded] at h; cases h
      | ok found => rw [hcoded] at h; cases h; rfl
    exact congrArg (Except.mapError Fault.message) (decode_encode htype hv hpayload)

end DdsBridge.Cdr
