import DdsBridge.Dds.Status

/-!
# Masks as sets

Every status has a bit of its own, so adding or removing one status does not touch another.

* **`contains_insert`**, **`contains_remove_self`**, **`contains_remove_of_ne`** — what is in a mask
  after a change.
* **`remove_of_not_contains`**, **`insert_of_contains`** — changes that change nothing.
* **`contains_foldl_insert`** — what is in a mask after several statuses were added.
* **`intersects_ofKind`**, **`contains_ofKind_of_ne`** — a mask of one status asks whether that status
  is raised, and for no other.
-/

namespace DdsBridge

namespace StatusKind

theorem bit_ne_zero (kind : StatusKind) : kind.bit ≠ 0 := by cases kind <;> decide

/-- A status has one bit. -/
theorem bit_testBit (kind : StatusKind) :
    ∃ i, ∀ j, kind.bit.toNat.testBit j = decide (i = j) := by
  have hbit : ∃ i : Fin 32, kind.bit.toNat = 2 ^ i.val := by cases kind <;> decide
  obtain ⟨i, hi⟩ := hbit
  exact ⟨i, fun j => by rw [hi, Nat.testBit_two_pow]⟩

/-- No two statuses share a bit. -/
theorem bit_and_bit {a b : StatusKind} (h : a ≠ b) : a.bit &&& b.bit = 0 := by
  cases a <;> cases b <;> first | exact absurd rfl h | rfl

theorem not_bit_and_bit {a b : StatusKind} (h : a ≠ b) : ~~~a.bit &&& b.bit = b.bit := by
  cases a <;> cases b <;> first | exact absurd rfl h | rfl

end StatusKind

namespace StatusMask

@[simp] theorem contains_none (kind : StatusKind) : none.contains kind = false := by
  simp [contains, none]

theorem contains_iff {mask : StatusMask} {kind : StatusKind} :
    mask.contains kind = true ↔ mask.bits &&& kind.bit ≠ 0 := by
  simp [contains]

theorem or_and_distrib (x y z : UInt32) : (x ||| y) &&& z = x &&& z ||| y &&& z :=
  UInt32.toBitVec_inj.mp BitVec.and_or_distrib_right

@[simp] theorem contains_insert (mask : StatusMask) (a b : StatusKind) :
    (mask.insert a).contains b = (mask.contains b || decide (a = b)) := by
  rw [Bool.eq_iff_iff, Bool.or_eq_true, contains_iff, contains_iff, decide_eq_true_eq]
  unfold insert
  rw [or_and_distrib]
  by_cases h : a = b
  · subst h
    simp [a.bit_ne_zero]
  · simp [StatusKind.bit_and_bit h, h]

@[simp] theorem contains_remove_self (mask : StatusMask) (kind : StatusKind) :
    (mask.remove kind).contains kind = false := by
  show decide (mask.bits &&& ~~~kind.bit &&& kind.bit ≠ 0) = false
  have hgone : ~~~kind.bit &&& kind.bit = 0 := by cases kind <;> rfl
  simp [UInt32.and_assoc, hgone]

/-- A mask of one status asks whether that status is raised. -/
theorem intersects_ofKind (mask : StatusMask) (kind : StatusKind) :
    mask.intersects (.ofKind kind) = mask.contains kind := rfl

/-- A mask of one status has no other. -/
theorem contains_ofKind_of_ne {a b : StatusKind} (h : a ≠ b) : (ofKind a).contains b = false := by
  simp [contains, ofKind, StatusKind.bit_and_bit h]

theorem contains_remove_of_ne (mask : StatusMask) {a b : StatusKind} (h : a ≠ b) :
    (mask.remove a).contains b = mask.contains b := by
  rw [Bool.eq_iff_iff, contains_iff, contains_iff]
  unfold remove
  rw [UInt32.and_assoc, StatusKind.not_bit_and_bit h]

/-- Removing a status that is not in a mask. -/
theorem remove_of_not_contains {mask : StatusMask} {kind : StatusKind}
    (h : mask.contains kind = false) : mask.remove kind = mask := by
  have hclear : mask.bits &&& kind.bit = 0 := by simpa [contains] using h
  have hkept : mask.bits &&& ~~~kind.bit = mask.bits := by
    calc mask.bits &&& ~~~kind.bit
        = mask.bits &&& kind.bit ||| mask.bits &&& ~~~kind.bit := by rw [hclear, UInt32.zero_or]
      _ = mask.bits &&& (kind.bit ||| ~~~kind.bit) := by
          exact (UInt32.toBitVec_inj.mp BitVec.and_or_distrib_left).symm
      _ = mask.bits := by rw [UInt32.or_not_self, UInt32.and_neg_one]
  exact congrArg StatusMask.mk hkept

/-- Adding a status that is in a mask. -/
theorem insert_of_contains {mask : StatusMask} {kind : StatusKind}
    (h : mask.contains kind = true) : mask.insert kind = mask := by
  obtain ⟨i, hi⟩ := kind.bit_testBit
  have hnonzero : mask.bits.toNat &&& kind.bit.toNat ≠ 0 := by
    intro hzero
    refine contains_iff.mp h (UInt32.toNat_inj.mp ?_)
    rw [UInt32.toNat_and, hzero]
    rfl
  have hset : mask.bits.toNat.testBit i = true := by
    refine Decidable.byContradiction fun hclear => hnonzero (Nat.eq_of_testBit_eq fun j => ?_)
    rw [Nat.testBit_and, hi, Nat.zero_testBit]
    by_cases hj : i = j
    · simp [← hj, hclear]
    · simp [hj]
  have hkept : mask.bits ||| kind.bit = mask.bits := by
    refine UInt32.toNat_inj.mp (Nat.eq_of_testBit_eq fun j => ?_)
    rw [UInt32.toNat_or, Nat.testBit_or, hi]
    by_cases hj : i = j
    · simp [← hj, hset]
    · simp [hj]
  exact congrArg StatusMask.mk hkept

theorem insert_insert (mask : StatusMask) (kind : StatusKind) :
    (mask.insert kind).insert kind = mask.insert kind := by
  simp only [insert, UInt32.or_assoc, UInt32.or_self]

/-- What is in a mask after statuses were added one after the other. -/
theorem contains_foldl_insert (mask : StatusMask) (kinds : List StatusKind) (kind : StatusKind) :
    (kinds.foldl insert mask).contains kind = (mask.contains kind || decide (kind ∈ kinds)) := by
  induction kinds generalizing mask with
  | nil => simp
  | cons k rest ih =>
      rw [List.foldl_cons, ih, contains_insert, Bool.or_assoc]
      by_cases hk : k = kind
      · simp [hk]
      · simp [hk, Ne.symm hk]

end StatusMask

end DdsBridge
