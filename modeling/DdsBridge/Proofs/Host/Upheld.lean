import DdsBridge.Proofs.Host.Within

/-!
# Objects that stay

Only objects that nothing refers to go. If the objects of a set are there, and each of them is held
from outside the heap or by the body of another one of the set, then none of them ever goes: not
when attributes of other objects change, not when the provider goes on, and not in a collection. The
attributes of these objects stay as well, and so do the objects that they name.

* **`World.anchors`** — what is held from outside the heap, whatever entities go.
* **`World.Supported`** — sets whose objects hold each other or are held from outside.
* **`World.Upholds`** — nothing happened to the objects of a set but changes of certain attributes.
* **`Supported.discard`**, **`Supported.collectAll`**, **`Supported.storeAttr`**,
  **`Supported.removeAttr`** — what leaves the objects of such a set as they are.
-/

namespace DdsBridge.World

variable {B : Type} [ObjectBody B]

omit [ObjectBody B] in
/-- What is held from outside the heap, but for what running operations hold and for callbacks,
which are forgotten when their readers go. -/
def anchors (w : World B) : List Ref :=
  w.kept ++ w.modules.values ++ w.registers.values ++ w.sessionClasses.values ++
    (w.bridge.classes.values ++ w.bridge.registry.keys ++ w.bridge.exceptions.references)

omit [ObjectBody B] in
theorem mem_roots_iff {w : World B} {r : Ref} :
    r ∈ w.roots ↔
      r ∈ w.pinned ∨ r ∈ w.anchors ∨ r ∈ w.bridge.callbacks.values.map Registration.callback := by
  simp only [roots, anchors, BridgeState.references, List.mem_append, or_assoc]

/-- The objects of a set are there, and each of them is permanent, held from outside the heap or
held by the body of an object of the set. -/
structure Supported (w : World B) (P : Ref → Prop) : Prop where
  there : ∀ {r}, P r → ∃ body, w.bodyAt r = some body
  held : ∀ {r}, P r → r.id < w.permanent ∨ r ∈ w.pinned ∨ r ∈ w.anchors ∨
    ∃ holder body, P holder ∧ w.bodyAt holder = some body ∧ r ∈ ObjectBody.references body

omit [ObjectBody B] in
/-- The objects of a set are there as they were, and what is held from outside is still held. Their
attributes are what they were, but for those that may change, and name objects that are there as
they were. -/
structure Upholds (w : World B) (P : Ref → Prop) (Changes : Ref → String → Prop) (w' : World B) :
    Prop where
  permanent : w'.permanent = w.permanent
  pinned : w'.pinned = w.pinned
  anchors : w'.anchors = w.anchors
  registry : w'.bridge.registry = w.bridge.registry
  body : ∀ {r}, P r → w'.bodyAt r = w.bodyAt r
  attr : ∀ {r name}, P r → ¬Changes r name → w'.attrAt r name = w.attrAt r name
  value : ∀ {r name x body}, P r → ¬Changes r name → w.attrAt r name = some x →
    w.bodyAt x = some body → w'.bodyAt x = some body

/-- No attribute changes. -/
def NoChange : Ref → String → Prop := fun _ _ => False

variable {P : Ref → Prop} {Changes : Ref → String → Prop} {w w₁ w₂ : World B}

namespace Upholds

omit [ObjectBody B] in
theorem refl (w : World B) : w.Upholds P Changes w where
  permanent := rfl
  pinned := rfl
  anchors := rfl
  registry := rfl
  body := fun _ => rfl
  attr := fun _ _ => rfl
  value := fun _ _ _ h => h

omit [ObjectBody B] in
theorem trans (h : w.Upholds P Changes w₁) (h' : w₁.Upholds P Changes w₂) :
    w.Upholds P Changes w₂ where
  permanent := h'.permanent.trans h.permanent
  pinned := h'.pinned.trans h.pinned
  anchors := h'.anchors.trans h.anchors
  registry := h'.registry.trans h.registry
  body := fun hr => (h'.body hr).trans (h.body hr)
  attr := fun hr hkept => (h'.attr hr hkept).trans (h.attr hr hkept)
  value := fun hr hkept hx hbody =>
    h'.value hr hkept ((h.attr hr hkept).trans hx) (h.value hr hkept hx hbody)

omit [ObjectBody B] in
/-- More attributes may change. -/
theorem mono {Changes' : Ref → String → Prop} (h : w.Upholds P Changes w₁)
    (hmore : ∀ {r name}, Changes r name → Changes' r name) : w.Upholds P Changes' w₁ where
  permanent := h.permanent
  pinned := h.pinned
  anchors := h.anchors
  registry := h.registry
  body := h.body
  attr := fun hr hkept => h.attr hr fun hchanges => hkept (hmore hchanges)
  value := fun hr hkept => h.value hr fun hchanges => hkept (hmore hchanges)

omit [ObjectBody B] in
/-- Fewer objects are looked at. -/
theorem anti {P' : Ref → Prop} (h : w.Upholds P Changes w₁) (hfewer : ∀ {r}, P' r → P r) :
    w.Upholds P' Changes w₁ where
  permanent := h.permanent
  pinned := h.pinned
  anchors := h.anchors
  registry := h.registry
  body := fun hr => h.body (hfewer hr)
  attr := fun hr => h.attr (hfewer hr)
  value := fun hr => h.value (hfewer hr)

omit [ObjectBody B] in
/-- Where no attribute changes, none but those that may do. -/
theorem of_noChange (h : w.Upholds P NoChange w₁) : w.Upholds P Changes w₁ := h.mono False.elim

omit [ObjectBody B] in
/-- What lies beside the heap and what is held from outside can change. -/
theorem beside (hheap : w₁.heap = w.heap) (hpermanent : w₁.permanent = w.permanent)
    (hpinned : w₁.pinned = w.pinned) (hanchors : w₁.anchors = w.anchors)
    (hregistry : w₁.bridge.registry = w.bridge.registry) : w.Upholds P Changes w₁ where
  permanent := hpermanent
  pinned := hpinned
  anchors := hanchors
  registry := hregistry
  body := fun _ => by rw [bodyAt, hheap]; rfl
  attr := fun _ _ => by rw [attrAt, hheap]; rfl
  value := fun _ _ _ h => by rwa [bodyAt, hheap]

omit [ObjectBody B] in
/-- What an operation holds while it runs it lets go after it. -/
theorem pinning {refs : List Ref}
    (h : World.Upholds { w with pinned := refs } P Changes w₁) :
    w.Upholds P Changes { w₁ with pinned := w.pinned } where
  permanent := h.permanent
  pinned := rfl
  anchors := h.anchors
  registry := h.registry
  body := h.body
  attr := h.attr
  value := h.value

omit [ObjectBody B] in
/-- Attributes of an object that is not of the set change, or only such as may change. -/
theorem set {obj : Ref} {node : Node B} (hnode : w.heap.get? obj = some node)
    {attrs : Table String Ref}
    (hattrs : P obj → ∀ name, ¬Changes obj name → attrs.get? name = node.attrs.get? name) :
    w.Upholds P Changes { w with heap := w.heap.set obj { node with attrs } } where
  permanent := rfl
  pinned := rfl
  anchors := rfl
  registry := rfl
  body := fun _ => set_bodyAt hnode attrs _
  attr := fun {r name} hr hkept => by
    rw [set_attrAt hnode]
    split
    · rename_i hobj
      subst hobj
      rw [hattrs hr name hkept, attrAt_of_get? hnode]
    · rfl
  value := fun _ _ _ hbody => (set_bodyAt hnode attrs _).trans hbody

omit [ObjectBody B] in
/-- The provider's next state. -/
theorem advance (w : World B) (s : Provider.State) : w.Upholds P Changes (w.advance s) := by
  obtain ⟨_, _, _, _, heq⟩ := advance_eq w s
  rw [heq]
  exact .beside rfl rfl rfl rfl rfl

end Upholds

namespace Supported

/-- The set is still supported after nothing happened to its objects. -/
theorem upheld (hs : w.Supported P) (h : w.Upholds P Changes w₁) : w₁.Supported P where
  there := fun hr => by
    rw [h.body hr]
    exact hs.there hr
  held := fun hr => by
    rw [h.permanent, h.pinned, h.anchors]
    rcases hs.held hr with hpermanent | hpinned | hanchored | ⟨holder, body, hholder, hbody, hmem⟩
    · exact .inl hpermanent
    · exact .inr (.inl hpinned)
    · exact .inr (.inr (.inl hanchored))
    · exact .inr (.inr (.inr ⟨holder, body, hholder, (h.body hholder).trans hbody, hmem⟩))

/-- A running operation may hold more. -/
theorem pinning (hs : w.Supported P) (refs : List Ref) :
    World.Supported { w with pinned := refs ++ w.pinned } P where
  there := hs.there
  held := fun hr => by
    rcases hs.held hr with hpermanent | hpinned | hrest
    · exact .inl hpermanent
    · exact .inr (.inl (List.mem_append_right _ hpinned))
    · exact .inr (.inr hrest)

/-- The objects of the set are referred to. -/
theorem referenced (hs : w.Supported P) {r : Ref} (hr : P r) (hpermanent : w.permanent ≤ r.id) :
    r ∈ w.references := by
  refine mem_references_iff.mpr ?_
  rcases hs.held hr with hlt | hpinned | hanchored | ⟨holder, body, -, hbody, hmem⟩
  · omega
  · exact .inl (mem_roots_iff.mpr (.inl hpinned))
  · exact .inl (mem_roots_iff.mpr (.inr (.inl hanchored)))
  · obtain ⟨node, hnode, rfl⟩ := Option.map_eq_some_iff.mp hbody
    exact .inr ⟨holder, node, hnode, List.mem_append_right _ hmem⟩

/-- What an attribute of an object of the set names is referred to. -/
theorem value_referenced {r x : Ref} {name : String} (hx : w.attrAt r name = some x) :
    x ∈ w.references := by
  obtain ⟨node, hnode, hx⟩ := Option.bind_eq_some_iff.mp hx
  refine mem_references_iff.mpr (.inr ⟨r, node, hnode, List.mem_append_left _ ?_⟩)
  exact List.mem_map_of_mem (Table.mem_entries_iff.mpr hx)

/-- No object of the set goes, and none that their attributes name. -/
theorem discard (hs : w.Supported P) {r : Ref} (hpermanent : w.permanent ≤ r.id)
    (hfree : r ∉ w.references) : w.Upholds P Changes (w.discard r) := by
  -- `r` is none of the objects that are referred to, so these keep their places
  have hstays : ∀ {x}, x ∈ w.references → (w.discard r).heap.get? x = w.heap.get? x := by
    intro x hx
    rw [discard_get?, if_neg]
    rintro rfl
    exact hfree hx
  have hnode : ∀ {x}, P x → (w.discard r).heap.get? x = w.heap.get? x := by
    intro x hx
    rw [discard_get?, if_neg]
    rintro rfl
    exact hfree (hs.referenced hx hpermanent)
  obtain ⟨_, _, _, _, _, _, heq, -⟩ := discard_eq w r
  have hbridge : (w.discard r).bridge.registry = w.bridge.registry ∧
      (w.discard r).anchors = w.anchors ∧ (w.discard r).pinned = w.pinned := by
    rw [heq]
    exact ⟨rfl, rfl, rfl⟩
  exact
    { permanent := discard_permanent w r
      pinned := hbridge.2.2
      anchors := hbridge.2.1
      registry := hbridge.1
      body := fun hx => by rw [bodyAt, hnode hx]; rfl
      attr := fun hx _ => by rw [attrAt, hnode hx]; rfl
      value := fun _ _ hx hbody => by
        rw [bodyAt, hstays (value_referenced hx)]
        exact hbody }

theorem collect (hs : w.Supported P) : w.Upholds P Changes w.collect :=
  collect_within (R := fun w w' => w.Supported P → w.Upholds P Changes w')
    (fun w _ => .refl w) (fun h h' hs => (h hs).trans (h' (hs.upheld (h hs))))
    (fun _ _ hpermanent hfree hs => hs.discard hpermanent hfree) w hs

theorem collectAll (hs : w.Supported P) : w.Upholds P Changes w.collectAll := by
  have hmark : w.Upholds P Changes { w with mark := w.heap.size } := .beside rfl rfl rfl rfl rfl
  refine (hmark.trans (hs.upheld hmark).collect).trans ?_
  exact .beside rfl rfl rfl rfl rfl

/-- What an operation held while it ran it lets go after it, and what nothing else refers to goes. -/
theorem letGo (hs : w.Supported P) {refs : List Ref}
    (h : World.Upholds { w with pinned := refs } P Changes w₁) :
    w.Upholds P Changes (World.collectAll { w₁ with pinned := w.pinned }) :=
  h.pinning.trans (hs.upheld h.pinning).collectAll

/-- A new object. -/
theorem alloc (hs : w.Supported P) (node : Node B) :
    w.Upholds P Changes { w with heap := (w.heap.alloc node).2 } := by
  have hold : ∀ {x body}, w.bodyAt x = some body →
      (w.heap.alloc node).2.get? x = w.heap.get? x := fun hbody =>
    Heap.get?_alloc_of_lt (lt_size_of_bodyAt hbody)
  exact
    { permanent := rfl
      pinned := rfl
      anchors := rfl
      registry := rfl
      body := fun hr => by
        obtain ⟨body, hbody⟩ := hs.there hr
        exact congrArg (Option.map Node.body) (hold hbody)
      attr := fun hr _ => by
        obtain ⟨body, hbody⟩ := hs.there hr
        show ((w.heap.alloc node).2.get? _).bind _ = _
        rw [hold hbody]
        rfl
      value := fun _ _ _ hbody => (congrArg (Option.map Node.body) (hold hbody)).trans hbody }

theorem storeAttr (hs : w.Supported P) {obj : Ref} {name : String} (value : Ref)
    (hobj : P obj → Changes obj name) : w.Upholds P Changes (w.storeAttr obj name value) := by
  unfold World.storeAttr
  split
  · exact .refl w
  · rename_i node hnode
    have hset : w.Upholds P Changes
        { w with heap := w.heap.set obj { node with attrs := node.attrs.insert name value } } := by
      refine .set hnode fun hr other hkept => ?_
      rw [Table.get?_insert, if_neg]
      rintro rfl
      exact hkept (hobj hr)
    dsimp only
    split
    · exact hset.trans (hs.upheld hset).collect
    · exact hset

theorem removeAttr (hs : w.Supported P) {obj : Ref} {name : String}
    (hobj : P obj → Changes obj name) : w.Upholds P Changes (w.removeAttr obj name) := by
  unfold World.removeAttr
  split
  · exact .refl w
  · rename_i node hnode
    have hset : w.Upholds P Changes
        { w with heap := w.heap.set obj { node with attrs := node.attrs.erase name } } := by
      refine .set hnode fun hr other hkept => ?_
      rw [Table.get?_erase, if_neg]
      rintro rfl
      exact hkept (hobj hr)
    exact hset.trans (hs.upheld hset).collect

/-- What is stored on an object of the set is there. -/
theorem storeAttr_attrAt (hs : w.Supported P) {obj : Ref} (hobj : P obj) (name : String)
    (value : Ref) : (w.storeAttr obj name value).attrAt obj name = some value := by
  obtain ⟨body, hbody⟩ := hs.there hobj
  obtain ⟨node, hnode, -⟩ := Option.map_eq_some_iff.mp hbody
  let stored : World B :=
    { w with heap := w.heap.set obj { node with attrs := node.attrs.insert name value } }
  have hattr : stored.attrAt obj name = some value := by
    rw [set_attrAt hnode, if_pos rfl, Table.get?_insert, if_pos rfl]
  have hset : w.Upholds P (fun r other => r = obj ∧ other = name) stored := by
    refine .set hnode fun _ other hkept => ?_
    rw [Table.get?_insert, if_neg fun he => hkept ⟨rfl, he⟩]
  unfold World.storeAttr
  rw [hnode]
  dsimp only
  split
  · have hcollect : stored.Upholds P NoChange stored.collect := (hs.upheld hset).collect
    exact (hcollect.attr hobj id).trans hattr
  · exact hattr

end Supported

end DdsBridge.World
