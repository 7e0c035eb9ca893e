import DdsBridge.Proofs.Host.Memory.Settled

/-!
# Objects that are left alone

An object is left alone by a change of the world that leaves its body, its attributes and what holds
it as they are. What an operation may rely on while it runs host code is given by a set of worlds: the
operation and the host code lead from each of them to another one of the set.

* **`World.Spares`** — an object is as it was.
* **`World.InHand`** — an object is there, and it is held so that it stays.
* **`World.Sparing`** — changes within a set of worlds that leave an object alone.
* **`Spares.alloc`**, **`Spares.storeAttr`**, **`Spares.remember`** — what leaves an object alone.
* **`Action.WithinAt.bind_sparing`**, **`Action.WithinAt.pinning_sparing`** — actions that do.
-/

namespace DdsBridge

variable {B : Type}

/-- Nothing happened to an object, and what held it from outside the heap still does. Other objects
may come, go and get other attributes; the number of an object is not used again for another one. -/
structure World.Spares (w : World B) (obj : Ref) (w' : World B) : Prop where
  permanent : w'.permanent = w.permanent
  pinned : w'.pinned = w.pinned
  anchored : obj ∈ w.anchors → obj ∈ w'.anchors
  body : w'.bodyAt obj = w.bodyAt obj
  attr : ∀ name, w'.attrAt obj name = w.attrAt obj name
  size_le : w.heap.size ≤ w'.heap.size
  back : ∀ r body, r.id < w.heap.size → w'.bodyAt r = some body → w.bodyAt r = some body

/-- An object is there, and it is permanent or held from outside the heap. -/
def World.InHand [ObjectBody B] (w : World B) (obj : Ref) : Prop := w.Supported (· = obj)

/-- A change that leads from a world of a set to another one of it and leaves an object alone. -/
def World.Sparing [ObjectBody B] (I : World B → Prop) (obj : Ref) (w w' : World B) : Prop :=
  I w → w.InHand obj → I w' ∧ w.Spares obj w'

namespace World

variable {obj : Ref} {w w₁ w₂ : World B}

/-! ## What comes by an assignment -/

section

variable [ObjectBody B]

/-- A collection brings nothing. -/
theorem collect_back (w : World B) :
    (∀ {r body}, w.collect.bodyAt r = some body → w.bodyAt r = some body) ∧
      ∀ {r name x}, w.collect.attrAt r name = some x → w.attrAt r name = some x :=
  collect_within
    (R := fun w w' => (∀ {r body}, w'.bodyAt r = some body → w.bodyAt r = some body) ∧
      ∀ {r name x}, w'.attrAt r name = some x → w.attrAt r name = some x)
    (fun _ => ⟨id, id⟩) (fun h h' => ⟨fun hbody => h.1 (h'.1 hbody), fun hx => h.2 (h'.2 hx)⟩)
    (fun _ _ _ _ => ⟨bodyAt_of_discard, attrAt_of_discard⟩) w

/-- An assignment brings nothing but the attribute. -/
theorem storeAttr_back (w : World B) (obj : Ref) (name : String) (value : Ref) :
    (∀ {r body}, (w.storeAttr obj name value).bodyAt r = some body → w.bodyAt r = some body) ∧
      ∀ {r other x}, r ≠ obj → (w.storeAttr obj name value).attrAt r other = some x →
        w.attrAt r other = some x := by
  unfold storeAttr
  split
  · exact ⟨id, fun _ => id⟩
  · rename_i node hnode
    have hbody := set_bodyAt hnode (node.attrs.insert name value)
    have hattr := set_attrAt hnode (node.attrs.insert name value)
    dsimp only
    split
    · refine ⟨fun hfound => (hbody _).symm.trans ((collect_back _).1 hfound), fun hne hfound => ?_⟩
      have hset := (collect_back _).2 hfound
      rwa [hattr, if_neg hne] at hset
    · refine ⟨fun hfound => (hbody _).symm.trans hfound, fun hne hfound => ?_⟩
      rwa [hattr, if_neg hne] at hfound

/-- After an assignment the attribute, if it is there, is what was assigned, and another one of the
object was there before. -/
theorem storeAttr_own {w : World B} {obj : Ref} {name other : String} {value x : Ref}
    (h : (w.storeAttr obj name value).attrAt obj other = some x) :
    if other = name then x = value else w.attrAt obj other = some x := by
  unfold storeAttr at h
  split at h
  · rename_i hgone
    rw [attrAt, hgone] at h
    exact absurd h (by simp)
  · rename_i node hnode
    dsimp only at h
    have hstored : World.attrAt
        { w with heap := w.heap.set obj { node with attrs := node.attrs.insert name value } }
        obj other = some x := by
      split at h
      · exact (collect_back _).2 h
      · exact h
    rw [set_attrAt hnode, if_pos rfl, Table.get?_insert] at hstored
    split
    · rename_i hsame
      rw [if_pos hsame] at hstored
      exact (Option.some.inj hstored).symm
    · rename_i hother
      rw [if_neg hother] at hstored
      exact (attrAt_of_get? hnode other).trans hstored

theorem storeAttr_size (w : World B) (obj : Ref) (name : String) (value : Ref) :
    (w.storeAttr obj name value).heap.size = w.heap.size := by
  unfold storeAttr
  split
  · rfl
  · rename_i node _
    have hset : (w.heap.set obj { node with attrs := node.attrs.insert name value }).size =
        w.heap.size := by simp [Heap.size, Heap.set]
    dsimp only
    split
    · exact (collect_mark _).2.trans hset
    · exact hset

end

/-! ## Changes that leave an object alone -/

namespace Spares

theorem refl (w : World B) : w.Spares obj w :=
  ⟨rfl, rfl, id, rfl, fun _ => rfl, Nat.le_refl _, fun _ _ _ => id⟩

theorem trans (h : w.Spares obj w₁) (h' : w₁.Spares obj w₂) : w.Spares obj w₂ where
  permanent := h'.permanent.trans h.permanent
  pinned := h'.pinned.trans h.pinned
  anchored := fun hanchored => h'.anchored (h.anchored hanchored)
  body := h'.body.trans h.body
  attr := fun name => (h'.attr name).trans (h.attr name)
  size_le := Nat.le_trans h.size_le h'.size_le
  back := fun r body hlt hbody =>
    h.back r body hlt (h'.back r body (Nat.lt_of_lt_of_le hlt h.size_le) hbody)

theorem of_upholds (h : w.Upholds (· = obj) NoChange w₁) (hsize : w.heap.size ≤ w₁.heap.size)
    (hback : ∀ r body, r.id < w.heap.size → w₁.bodyAt r = some body → w.bodyAt r = some body) :
    w.Spares obj w₁ where
  permanent := h.permanent
  pinned := h.pinned
  anchored := fun hanchored => h.anchors ▸ hanchored
  body := h.body rfl
  attr := fun _ => h.attr rfl id
  size_le := hsize
  back := hback

/-- What an operation holds while it runs it lets go after it. -/
theorem pinning {refs : List Ref} (h : World.Spares { w with pinned := refs } obj w₁) :
    w.Spares obj { w₁ with pinned := w.pinned } :=
  ⟨h.permanent, rfl, h.anchored, h.body, h.attr, h.size_le, h.back⟩

/-- The class of a type is remembered. -/
theorem remember {store : ClassStore} {name : String} (h : (w.classes store).get? name = none)
    (cls : Ref) : w.Spares obj (w.rememberClass store name cls) := by
  have hextends : w.Extends (fun _ => cls) store (w.rememberClass store name cls) := .remember h
  have hheap : (w.rememberClass store name cls).heap = w.heap := by cases store <;> rfl
  exact
    { permanent := hextends.permanent
      pinned := by cases store <;> rfl
      anchored := fun hanchored => hextends.anchors hanchored
      body := by rw [bodyAt, hheap]; rfl
      attr := fun _ => by rw [attrAt, hheap]; rfl
      size_le := hextends.size_le
      back := fun r body _ hbody => by rwa [bodyAt, hheap] at hbody }

variable [ObjectBody B]

/-- An object comes. -/
theorem alloc (hh : w.InHand obj) (node : Node B) :
    w.Spares obj { w with heap := (w.heap.alloc node).2 } :=
  .of_upholds (Supported.alloc hh node) (by simp [Heap.size, Heap.alloc]) fun r body hlt hbody => by
    rwa [bodyAt, Heap.get?_alloc_of_lt hlt] at hbody

/-- Another object gets an attribute. -/
theorem storeAttr (hh : w.InHand obj) {x : Ref} (hne : x ≠ obj) (name : String) (value : Ref) :
    w.Spares obj (w.storeAttr x name value) :=
  .of_upholds (Supported.storeAttr hh value fun hx => absurd hx hne)
    (Nat.le_of_eq (storeAttr_size w x name value).symm) fun _ _ _ => (storeAttr_back w x name value).1

end Spares

variable [ObjectBody B] {I : World B → Prop}

/-- An object that is left alone is still held. -/
theorem InHand.spared (hh : w.InHand obj) (h : w.Spares obj w₁) : w₁.InHand obj where
  there := by
    rintro r rfl
    rw [h.body]
    exact Supported.there hh rfl
  held := by
    rintro r rfl
    rw [h.permanent, h.pinned]
    rcases Supported.held hh rfl with hpermanent | hpinned | hanchored | ⟨holder, body, rfl, hbody, hmem⟩
    · exact .inl hpermanent
    · exact .inr (.inl hpinned)
    · exact .inr (.inr (.inl (h.anchored hanchored)))
    · exact .inr (.inr (.inr ⟨holder, body, rfl, h.body.trans hbody, hmem⟩))

end World

/-! ## Actions that leave an object alone -/

namespace Action

variable {ε α β : Type} [ObjectBody B] {I : World B → Prop} {obj : Ref} {w w₁ : World B}

omit [ObjectBody B] in
/-- What an action with a value changed. -/
theorem WithinAt.of_ok {R : World B → World B → Prop} {x : Action B ε α} {a : α}
    (hx : x.WithinAt R w) (hrun : x.apply w = (.ok a, w₁)) : R w w₁ := by
  unfold WithinAt at hx
  rw [hrun] at hx
  exact hx nofun

omit [ObjectBody B] in
/-- What follows may depend on the world. -/
theorem WithinAt.world {R : World B → World B → Prop} {f : World B → Action B ε β}
    (hf : (f w).WithinAt R w) : (Action.world >>= f).WithinAt R w := by
  unfold WithinAt
  rw [apply_bind_of_ok (apply_world w)]
  exact hf

/-- An action that changes nothing. -/
theorem WithinAt.of_unchanged {x : Action B ε α} (h : (x.apply w).2 = w) :
    x.WithinAt (World.Sparing I obj) w :=
  fun _ hI _ => h.symm ▸ ⟨hI, .refl w⟩

/-- One action after another: the second starts in a world of the set, in which the object is still
held. -/
theorem WithinAt.bind_sparing {x : Action B ε α} {f : α → Action B ε β}
    (hx : x.WithinAt (World.Sparing I obj) w)
    (hf : ∀ a w₁, x.apply w = (.ok a, w₁) → I w → w.InHand obj → I w₁ → w.Spares obj w₁ →
      (f a).WithinAt (World.Sparing I obj) w₁) : (x >>= f).WithinAt (World.Sparing I obj) w := by
  refine hx.bind_from fun a w₁ hrun hfirst hends hI hh => ?_
  obtain ⟨hI₁, hspares⟩ := hfirst hI hh
  obtain ⟨hI₂, hspares'⟩ := hf a w₁ hrun hI hh hI₁ hspares hends hI₁ (hh.spared hspares)
  exact ⟨hI₂, hspares.trans hspares'⟩

theorem Within.bind_sparing {x : Action B ε α} {f : α → Action B ε β}
    (hx : x.Within (World.Sparing I obj)) (hf : ∀ a, (f a).Within (World.Sparing I obj)) :
    (x >>= f).Within (World.Sparing I obj) :=
  fun w => (hx w).bind_sparing fun a w₁ _ _ _ _ _ => hf a w₁

/-- What follows an action that may be left out. -/
theorem WithinAt.ite_bind_sparing {c : Prop} [Decidable c] {x : Action B ε PUnit}
    {f : PUnit → Action B ε β} (hx : c → x.WithinAt (World.Sparing I obj) w)
    (hf : ∀ a, (f a).Within (World.Sparing I obj)) :
    (if c then x >>= f else f ⟨⟩).WithinAt (World.Sparing I obj) w := by
  split
  · rename_i hc
    exact (hx hc).bind_sparing fun a w₁ _ _ _ _ _ => hf a w₁
  · exact hf ⟨⟩ w

theorem Within.ofExcept_sparing (r : Except ε α) :
    (Action.ofExcept r : Action B ε α).Within (World.Sparing I obj) := by
  cases r with
  | ok a => exact fun _ => .of_unchanged rfl
  | error error => exact fun _ => .of_unchanged rfl

/-- What is pinned meanwhile does not matter to the object. -/
theorem WithinAt.pinning_sparing (hpinned : ∀ {w : World B} pinned, I w → I { w with pinned })
    {refs : List Ref} {x : Action B ε α}
    (hx : x.WithinAt (World.Sparing I obj) { w with pinned := refs ++ w.pinned }) :
    (Action.pinning refs x).WithinAt (World.Sparing I obj) w := by
  intro hends hI hh
  rw [apply_pinning] at hends ⊢
  obtain ⟨hI₁, hspares⟩ := hx hends (hpinned _ hI) (World.Supported.pinning hh refs)
  exact ⟨hpinned _ hI₁, hspares.pinning⟩

end Action

end DdsBridge
