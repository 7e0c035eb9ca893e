/-!
# Finite maps

A table holds at most one value for each key and lists its entries in some order. A new key comes
last, and replacing or changing a value keeps the place of its key; apart from that the order says
nothing, and a table may be listed anew in any other.

* **`Table.get?`** — the value of a key.
* **`Table.insert`**, **`Table.modify`**, **`Table.erase`**, **`Table.filter`** — the updates, each
  with the lemma that says what `get?` finds afterwards.
* **`Table.relist`** — the same entries in another order.
* **`Table.mem_entries_iff`** — the entries and `get?` say the same.
-/

namespace DdsBridge

/-- A finite map; no key has two entries. -/
structure Table (κ α : Type) where
  entries : List (κ × α)
  distinct : (entries.map Prod.fst).Nodup

namespace Table

variable {κ α β : Type}

/-- The map without entries. -/
def empty : Table κ α := ⟨[], List.nodup_nil⟩

instance : Inhabited (Table κ α) := ⟨empty⟩

theorem ext {s t : Table κ α} (h : s.entries = t.entries) : s = t := by
  cases s; cases t; cases h; rfl

instance [DecidableEq κ] [DecidableEq α] : DecidableEq (Table κ α) := fun s t =>
  if h : s.entries = t.entries then isTrue (ext h) else isFalse fun e => h (e ▸ rfl)

instance [Repr κ] [Repr α] : Repr (Table κ α) := ⟨fun t n => reprPrec t.entries n⟩

/-- The keys, in the order of the entries. -/
def keys (t : Table κ α) : List κ := t.entries.map Prod.fst

/-- The values, in the order of the entries. -/
def values (t : Table κ α) : List α := t.entries.map Prod.snd

/-- How many entries there are. -/
def size (t : Table κ α) : Nat := t.entries.length

/-- Whether an entry satisfies a test. -/
def any (t : Table κ α) (p : κ → α → Bool) : Bool := t.entries.any fun e => p e.1 e.2

/-- Keeps the entries that satisfy a test. -/
def filter (t : Table κ α) (p : κ → α → Bool) : Table κ α where
  entries := t.entries.filter fun e => p e.1 e.2
  distinct := t.distinct.sublist (List.filter_sublist.map _)

/-- Changes every value. -/
def map (t : Table κ α) (f : κ → α → β) : Table κ β where
  entries := t.entries.map fun e => (e.1, f e.1 e.2)
  distinct := by rw [List.map_map]; exact t.distinct

variable [DecidableEq κ]

/-- The value of a key. -/
def get? (t : Table κ α) (k : κ) : Option α := (t.entries.find? fun e => e.1 = k).map Prod.snd

/-- Whether a key has a value. -/
def contains (t : Table κ α) (k : κ) : Bool := (t.get? k).isSome

/-- Changes the value of a key that has one. -/
def modify (t : Table κ α) (k : κ) (f : α → α) : Table κ α :=
  t.map fun k' a => if k' = k then f a else a

/-- Removes a key. -/
def erase (t : Table κ α) (k : κ) : Table κ α := t.filter fun k' _ => k' ≠ k

theorem not_mem_keys_of_get?_eq_none {t : Table κ α} {k : κ} (h : t.get? k = none) :
    k ∉ t.entries.map Prod.fst := by
  simp only [get?, Option.map_eq_none_iff, List.find?_eq_none, decide_eq_true_eq] at h
  simp only [List.mem_map, not_exists, not_and]
  exact h

/-- Gives a key a value: in its place if it has one already, else at the end. -/
def insert (t : Table κ α) (k : κ) (a : α) : Table κ α :=
  match h : t.get? k with
  | some _ => t.modify k fun _ => a
  | none =>
    { entries := t.entries ++ [(k, a)]
      distinct := by
        have := not_mem_keys_of_get?_eq_none h
        rw [List.map_append, List.nodup_append]
        refine ⟨t.distinct, by simp, ?_⟩
        simp only [List.map_cons, List.map_nil, List.mem_singleton]
        rintro a ha b rfl rfl
        exact this ha }

/-- The entry of a key. -/
def entryOf (t : Table κ α) (k : κ) : Option (κ × α) := (t.get? k).map (k, ·)

/-- Lists the entries in a new order of their keys. A list that is no order of the keys changes
nothing. -/
def relist (t : Table κ α) (order : List κ) : Table κ α :=
  if h : order.Perm t.keys then
    { entries := order.filterMap t.entryOf
      distinct := by
        have hnodup : order.Nodup := h.nodup_iff.mpr t.distinct
        simp only [List.Nodup, List.pairwise_map, List.pairwise_filterMap]
        refine hnodup.imp fun {k k'} hne e he e' he' => ?_
        obtain ⟨a, -, rfl⟩ := Option.map_eq_some_iff.mp he
        obtain ⟨a', -, rfl⟩ := Option.map_eq_some_iff.mp he'
        exact hne }
  else t

/-! ## What a look-up finds -/

/-- The entries are the pairs that a look-up finds. -/
theorem mem_entries_iff {t : Table κ α} {k : κ} {a : α} :
    (k, a) ∈ t.entries ↔ t.get? k = some a := by
  obtain ⟨entries, distinct⟩ := t
  simp only [get?]
  induction entries with
  | nil => simp
  | cons e rest ih =>
    obtain ⟨k', a'⟩ := e
    simp only [List.map_cons, List.nodup_cons] at distinct
    by_cases hk : k' = k
    · subst hk
      simp only [List.mem_cons, Prod.mk.injEq, true_and, List.find?_cons, decide_true,
        Option.map_some, Option.some.injEq]
      constructor
      · rintro (rfl | h)
        · rfl
        · exact absurd (List.mem_map_of_mem h) distinct.1
      · rintro rfl
        exact .inl rfl
    · simp only [List.mem_cons, Prod.mk.injEq, Ne.symm hk, false_and, false_or, List.find?_cons,
        hk, decide_false]
      exact ih distinct.2

@[simp] theorem get?_empty (k : κ) : (empty : Table κ α).get? k = none := rfl

theorem get?_map (t : Table κ α) (f : κ → α → β) (k : κ) :
    (t.map f).get? k = (t.get? k).map (f k) := by
  simp only [get?, map, List.find?_map, Function.comp_def, Option.map_map]
  cases h : t.entries.find? fun e => e.1 = k with
  | none => rfl
  | some e =>
    have : e.1 = k := by simpa using List.find?_some h
    simp [this]

theorem get?_modify (t : Table κ α) (k k' : κ) (f : α → α) :
    (t.modify k f).get? k' = if k' = k then (t.get? k').map f else t.get? k' := by
  rw [modify, get?_map]
  split <;> simp

@[simp] theorem get?_modify_self (t : Table κ α) (k : κ) (f : α → α) :
    (t.modify k f).get? k = (t.get? k).map f := by simp [get?_modify]

theorem get?_modify_ne (t : Table κ α) {k k' : κ} (h : k' ≠ k) (f : α → α) :
    (t.modify k f).get? k' = t.get? k' := by simp [get?_modify, h]

theorem get?_filter (t : Table κ α) (p : κ → α → Bool) (k : κ) :
    (t.filter p).get? k = (t.get? k).filter (p k) := by
  apply Option.ext
  intro a
  rw [← mem_entries_iff, Option.filter_eq_some_iff, ← mem_entries_iff]
  simp [filter]

theorem get?_erase (t : Table κ α) (k k' : κ) :
    (t.erase k).get? k' = if k' = k then none else t.get? k' := by
  rw [erase, get?_filter]
  split
  · next h => cases t.get? k' <;> simp [h]
  · next h => cases t.get? k' <;> simp [h]

theorem get?_insert (t : Table κ α) (k k' : κ) (a : α) :
    (t.insert k a).get? k' = if k' = k then some a else t.get? k' := by
  unfold insert
  split
  · next v h =>
    rw [get?_modify]
    split
    · next e => simp [e, h]
    · rfl
  · next h =>
    simp only [get?, List.find?_append, List.find?_singleton]
    by_cases e : k' = k
    · subst e
      simp only [get?, Option.map_eq_none_iff] at h
      simp [h]
    · simp [Ne.symm e, e]

/-- No look-up depends on the order. -/
@[simp] theorem get?_relist (t : Table κ α) (order : List κ) (k : κ) :
    (t.relist order).get? k = t.get? k := by
  unfold relist
  split
  · next h =>
    apply Option.ext
    intro a
    rw [← mem_entries_iff, List.mem_filterMap]
    constructor
    · rintro ⟨k', -, he⟩
      obtain ⟨a', ha', e⟩ := Option.map_eq_some_iff.mp he
      cases e
      exact ha'
    · intro ha
      exact ⟨k, h.mem_iff.mpr (List.mem_map_of_mem (mem_entries_iff.mpr ha)), by simp [entryOf, ha]⟩
  · rfl

end Table

end DdsBridge
