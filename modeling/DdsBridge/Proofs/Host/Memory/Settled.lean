import DdsBridge.Proofs.Host.Memory.Growth
import DdsBridge.Proofs.Host.Upheld

/-!
# Worlds in which nothing is left to collect

In a settled world every object that can go is gone. It stays settled as long as it only grows: the
objects that were there are referred to as before, and those that came since are in the hands of the
running operation. A collection then does nothing, so an attribute that replaces another one is
stored as if it were the first.

* **`World.Extends`** — a world that grew, with all that keeps objects alive.
* **`World.Settled`** — nothing is left to collect.
* **`World.Settled.of_extends`** — a settled world that grows.
* **`World.storeAttr_eq`** — the attribute of an object, where nothing goes.
-/

namespace DdsBridge

namespace Table

variable {κ α : Type} [DecidableEq κ]

theorem mem_values_iff {t : Table κ α} {a : α} : a ∈ t.values ↔ ∃ k, t.get? k = some a := by
  rw [values, List.mem_map]
  constructor
  · rintro ⟨⟨k, _⟩, hentry, rfl⟩
    exact ⟨k, mem_entries_iff.mp hentry⟩
  · rintro ⟨k, hk⟩
    exact ⟨(k, a), mem_entries_iff.mpr hk, rfl⟩

/-- A value for a new key leaves the others there. -/
theorem values_subset_insert {t : Table κ α} {k : κ} (h : t.get? k = none) (a : α) :
    t.values ⊆ (t.insert k a).values := by
  intro x hx
  obtain ⟨k', hk'⟩ := mem_values_iff.mp hx
  refine mem_values_iff.mpr ⟨k', ?_⟩
  rw [get?_insert, if_neg]
  · exact hk'
  · rintro rfl
    exact absurd (h.symm.trans hk') (by simp)

end Table

namespace World

variable {B : Type} {classes : String → Ref} {store : ClassStore} {w₀ w w₁ w₂ : World B}

/-- A world grew out of another one, and what keeps objects alive there still does. -/
structure Extends (classes : String → Ref) (store : ClassStore) (w w' : World B) : Prop
    extends w.Grows classes store w' where
  mark : w'.mark = w.mark
  permanent : w'.permanent = w.permanent
  pinned : w.pinned ⊆ w'.pinned
  anchors : w.anchors ⊆ w'.anchors
  callbacks : w'.bridge.callbacks = w.bridge.callbacks

namespace Extends

theorem refl (w : World B) : w.Extends classes store w :=
  ⟨.refl w, rfl, rfl, List.Subset.refl _, List.Subset.refl _, rfl⟩

theorem trans (h : w.Extends classes store w₁) (h' : w₁.Extends classes store w₂) :
    w.Extends classes store w₂ :=
  ⟨h.toGrows.trans h'.toGrows, h'.mark.trans h.mark, h'.permanent.trans h.permanent,
    List.Subset.trans h.pinned h'.pinned, List.Subset.trans h.anchors h'.anchors,
    h'.callbacks.trans h.callbacks⟩

/-- A change of the heap alone. -/
theorem heap (h : w.Extends classes store w₁) {heap : Heap B}
    (hg : w.Grows classes store { w₁ with heap }) : w.Extends classes store { w₁ with heap } :=
  ⟨hg, h.mark, h.permanent, h.pinned, h.anchors, h.callbacks⟩

theorem set {obj : Ref} {before : Node B} (h : w.Extends classes store w₁)
    (hobj : w₁.heap.get? obj = some before) (hnew : w.heap.size ≤ obj.id) (after : Node B) :
    w.Extends classes store { w₁ with heap := w₁.heap.set obj after } :=
  h.heap (h.toGrows.set hobj hnew after)

theorem alloc (w : World B) (node : Node B) :
    w.Extends classes store { w with heap := (w.heap.alloc node).2 } :=
  (refl w).heap (.alloc w node)

/-- An operation may hold more while it runs. -/
theorem pin (h : w.Extends classes store w₁) (refs : List Ref) :
    w.Extends classes store { w₁ with pinned := refs ++ w₁.pinned } :=
  ⟨h.toGrows.pinned _, h.mark, h.permanent,
    List.Subset.trans h.pinned (List.subset_append_right _ _), h.anchors, h.callbacks⟩

/-- What it held in addition it lets go after that. -/
theorem unpin {refs : List Ref} (h : { w with pinned := refs }.Extends classes store w₁) :
    w.Extends classes store { w₁ with pinned := w.pinned } :=
  ⟨(World.Grows.of_pinned h.toGrows).pinned _, h.mark, h.permanent, List.Subset.refl _, h.anchors,
    h.callbacks⟩

theorem remember {name : String} (h : (w.classes store).get? name = none) :
    w.Extends classes store (w.rememberClass store name (classes name)) := by
  refine ⟨.remember h, ?_, ?_, ?_, ?_, ?_⟩
  · cases store <;> rfl
  · cases store <;> rfl
  · cases store <;> exact List.Subset.refl _
  · have hmore := Table.values_subset_insert h (classes name)
    intro r hr
    cases store with
    | «bridge» =>
        rcases List.mem_append.mp hr with hr | hr
        · exact List.mem_append_left _ hr
        · refine List.mem_append_right _ ?_
          rcases List.mem_append.mp hr with hr | hr
          · refine List.mem_append_left _ ?_
            rcases List.mem_append.mp hr with hr | hr
            · exact List.mem_append_left _ (hmore hr)
            · exact List.mem_append_right _ hr
          · exact List.mem_append_right _ hr
    | session =>
        rcases List.mem_append.mp hr with hr | hr
        · refine List.mem_append_left _ ?_
          rcases List.mem_append.mp hr with hr | hr
          · exact List.mem_append_left _ hr
          · exact List.mem_append_right _ (hmore hr)
        · exact List.mem_append_right _ hr
  · cases store <;> rfl

end Extends

variable [ObjectBody B]

/-- Nothing is left to collect: what nothing refers to is permanent, is gone, or came since the
running operation began. -/
structure Settled (w : World B) : Prop where
  mark_le : w.mark ≤ w.heap.size
  clean : w.garbage = []

/-- What was referred to still is. -/
theorem Extends.references (h : w.Extends classes store w₁) : w.references ⊆ w₁.references := by
  intro r hr
  rcases mem_references_iff.mp hr with hroot | ⟨holder, node, hnode, hmem⟩
  · refine mem_references_iff.mpr (.inl (mem_roots_iff.mpr ?_))
    rcases mem_roots_iff.mp hroot with hpinned | hanchored | hcallback
    · exact .inl (h.pinned hpinned)
    · exact .inr (.inl (h.anchors hanchored))
    · exact .inr (.inr (h.callbacks ▸ hcallback))
  · exact mem_references_iff.mpr
      (.inr ⟨holder, node, (h.old holder (Heap.lt_size_of_get? hnode)).trans hnode, hmem⟩)

/-- A settled world that grows stays settled. -/
theorem Settled.of_extends (hs : w.Settled) (h : w.Extends classes store w₁) : w₁.Settled where
  mark_le := h.mark ▸ Nat.le_trans hs.mark_le h.size_le
  clean := by
    refine List.eq_nil_iff_forall_not_mem.mpr fun r hr => ?_
    obtain ⟨hmark, hpermanent, hfree, hthere⟩ := mem_garbage_iff.mp hr
    rw [h.mark] at hmark
    rw [h.permanent] at hpermanent
    rw [h.old r (Nat.lt_of_lt_of_le hmark hs.mark_le)] at hthere
    have hgarbage : r ∈ w.garbage :=
      mem_garbage_iff.mpr ⟨hmark, hpermanent, fun hmem => hfree (h.references hmem), hthere⟩
    rw [hs.clean] at hgarbage
    exact absurd hgarbage List.not_mem_nil

theorem collect_of_clean (h : w.garbage = []) : w.collect = w := by
  unfold collect
  cases w.heap.size with
  | zero => rfl
  | succ rounds => rw [collectRounds, h]

/-- The attribute of an object: a new one, or one in a world where nothing is left to collect. -/
theorem storeAttr_eq {obj x : Ref} {node : Node B} {name : String}
    (hobj : w.heap.get? obj = some node)
    (hquiet : node.attrs.get? name = none ∨
      { w with heap := w.heap.set obj { node with attrs := node.attrs.insert name x } }.garbage = []) :
    w.storeAttr obj name x =
      { w with heap := w.heap.set obj { node with attrs := node.attrs.insert name x } } := by
  rw [storeAttr, hobj]
  dsimp only
  rcases hquiet with hnew | hclean
  · rw [Table.contains, hnew]
    rfl
  · rw [collect_of_clean hclean]
    exact ite_self _

end World

end DdsBridge
