import DdsBridge.Proofs.Host.Memory.Settled

/-!
# Objects that only running operations hold

An object can be there for the sake of the running operations alone: nothing refers to it from
outside the heap or from another object. It stays so as long as it is stored nowhere, whatever else
is made, stored, removed and collected. When the operations let go of it, a full collection takes it
away.

* **`World.Unnamed`** — nothing but running operations holds an object.
* **`Unnamed.alloc`**, **`Unnamed.storeAttr`**, **`Unnamed.removeAttr`**, **`Unnamed.collectAll`** —
  it stays so.
* **`Unnamed.gone`** — it goes.
-/

namespace DdsBridge

namespace Table

variable {κ α : Type} [DecidableEq κ]

/-- The values after an update are the new one and some that were there. -/
theorem values_insert_subset (t : Table κ α) (k : κ) (a : α) :
    (t.insert k a).values ⊆ a :: t.values := by
  intro x hx
  obtain ⟨k', hk'⟩ := mem_values_iff.mp hx
  rw [get?_insert] at hk'
  split at hk'
  · rw [Option.some.inj hk']
    exact List.mem_cons_self
  · exact List.mem_cons_of_mem _ (mem_values_iff.mpr ⟨k', hk'⟩)

end Table

namespace World

variable {B : Type} [ObjectBody B]

/-- Nothing but the running operations holds an object. -/
structure Unnamed (w : World B) (x : Ref) : Prop where
  anchors : x ∉ w.anchors
  callbacks : x ∉ w.bridge.callbacks.values.map Registration.callback
  nodes : ∀ {holder node}, w.heap.get? holder = some node → x ∉ node.references

namespace Unnamed

variable {w : World B} {x : Ref}

theorem of_not_mem (h : x ∉ w.references) : w.Unnamed x where
  anchors hx := h (mem_references_iff.mpr (.inl (mem_roots_iff.mpr (.inr (.inl hx)))))
  callbacks hx := h (mem_references_iff.mpr (.inl (mem_roots_iff.mpr (.inr (.inr hx)))))
  nodes hnode hx := h (mem_references_iff.mpr (.inr ⟨_, _, hnode, hx⟩))

theorem not_mem_references (h : w.Unnamed x) (hpinned : x ∉ w.pinned) : x ∉ w.references := by
  intro hx
  rcases mem_references_iff.mp hx with hroot | ⟨holder, node, hnode, hx⟩
  · rcases mem_roots_iff.mp hroot with hx | hx | hx
    · exact hpinned hx
    · exact h.anchors hx
    · exact h.callbacks hx
  · exact h.nodes hnode hx

/-- What running operations hold does not matter. -/
theorem pinning (h : w.Unnamed x) (refs : List Ref) :
    World.Unnamed { w with pinned := refs } x :=
  ⟨h.anchors, h.callbacks, h.nodes⟩

/-- A new object that does not refer to it. -/
theorem alloc (h : w.Unnamed x) {node : Node B} (hnew : x ∉ node.references) :
    World.Unnamed { w with heap := (w.heap.alloc node).2 } x where
  anchors := h.anchors
  callbacks := h.callbacks
  nodes {holder found} hfound := by
    change (w.heap.alloc node).2.get? holder = some found at hfound
    rw [Heap.get?_alloc] at hfound
    split at hfound
    · cases hfound
      exact hnew
    · exact h.nodes hfound

/-- Attributes of an object change. -/
theorem set (h : w.Unnamed x) {obj : Ref} {node : Node B} (hnode : w.heap.get? obj = some node)
    {attrs : Table String Ref} (hnew : x ∈ attrs.values → x ∈ node.attrs.values) :
    World.Unnamed { w with heap := w.heap.set obj { node with attrs } } x where
  anchors := h.anchors
  callbacks := h.callbacks
  nodes {holder found} hfound := by
    change (w.heap.set obj { node with attrs }).get? holder = some found at hfound
    rw [Heap.get?_set hnode] at hfound
    split at hfound
    · cases hfound
      intro hx
      refine h.nodes hnode ?_
      rcases List.mem_append.mp hx with hx | hx
      · exact List.mem_append_left _ (hnew hx)
      · exact List.mem_append_right _ hx
    · exact h.nodes hfound

theorem discard (h : w.Unnamed x) (r : Ref) : (w.discard r).Unnamed x := by
  obtain ⟨_, _, callbacks, _, _, _, heq, hless⟩ := discard_eq w r
  refine ⟨?_, ?_, fun hfound => ?_⟩
  · rw [heq]
    exact h.anchors
  · rw [heq]
    exact fun hx => h.callbacks (List.map_subset _ hless hx)
  · rw [discard_get?] at hfound
    split at hfound
    · exact absurd hfound (by simp)
    · exact h.nodes hfound

theorem collect (h : w.Unnamed x) : w.collect.Unnamed x :=
  collect_within (R := fun w w' => w.Unnamed x → w'.Unnamed x) (fun _ => id)
    (fun h h' => h' ∘ h) (fun _ r _ _ h => h.discard r) w h

theorem collectAll (h : w.Unnamed x) : w.collectAll.Unnamed x := by
  have hswept : (World.collect { w with mark := w.heap.size }).Unnamed x :=
    collect ⟨h.anchors, h.callbacks, h.nodes⟩
  exact ⟨hswept.anchors, hswept.callbacks, hswept.nodes⟩

/-- Another object is stored. -/
theorem storeAttr (h : w.Unnamed x) (obj : Ref) (name : String) {value : Ref} (hne : x ≠ value) :
    (w.storeAttr obj name value).Unnamed x := by
  unfold World.storeAttr
  split
  · exact h
  · rename_i node hnode
    have hset := h.set hnode fun hx =>
      (List.mem_cons.mp (Table.values_insert_subset node.attrs name value hx)).resolve_left hne
    dsimp only
    split
    · exact hset.collect
    · exact hset

theorem removeAttr (h : w.Unnamed x) (obj : Ref) (name : String) :
    (w.removeAttr obj name).Unnamed x := by
  unfold World.removeAttr
  split
  · exact h
  · rename_i node hnode
    exact (h.set hnode fun hx => values_filter_subset node.attrs _ hx).collect

/-- When no operation holds it any more, it goes. -/
theorem gone (h : w.Unnamed x) (hpinned : x ∉ w.pinned) (hpermanent : w.permanent ≤ x.id) :
    w.collectAll.heap.get? x = none := by
  have hnothing : w.Supported fun _ => False := ⟨False.elim, False.elim⟩
  have hswept : w.Upholds (fun _ => False) NoChange w.collectAll := hnothing.collectAll
  refine Option.not_isSome_iff_eq_none.mp fun hsome => ?_
  refine h.collectAll.not_mem_references ?_
    (mem_references_collectAll hsome (hswept.permanent.symm ▸ hpermanent))
  rwa [hswept.pinned]

end Unnamed

end World

end DdsBridge
