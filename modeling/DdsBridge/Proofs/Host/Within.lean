import DdsBridge.Proofs.Host.Action
import DdsBridge.Proofs.Host.Collect

/-!
# Relations that actions stay within

What an operation can do to a world is bounded by a relation between the world before and the world
after. A relation that is closed under the small changes of which operations consist bounds every
operation, so one walk through the operations serves all such relations.

* **`World.Quiet`** — changes in which no object goes, no capsule comes and the provider rests.
* **`World.Hushed`** — quiet changes that store nothing under the names that are watched and leave
  the registered types.
* **`World.Still`** — hushed changes that leave the callbacks and the notifications, too.
* **`World.Steady`** — a relation that is closed under still changes and under letting go an object
  that nothing refers to; **`World.Steady.hushed`** for hushed ones, if callbacks and notifications
  do not matter to it.
* **`Action.Within`** — an action whose changes belong to a relation, however it ends.
-/

namespace DdsBridge

/-- The body of an object. -/
def World.bodyAt {B : Type} (w : World B) (r : Ref) : Option B := (w.heap.get? r).map Node.body

/-- Nothing happened but that objects with `Plain` bodies came, attributes changed, and the host or
the bridge made notes. -/
structure World.Quiet {B : Type} (Plain : B → Prop) (w w' : World B) : Prop where
  provider : w'.provider = w.provider
  permanent : w'.permanent = w.permanent
  releases : w'.releases = w.releases
  generation : w'.bridge.generation = w.bridge.generation
  observed : w'.bridge.observed = w.bridge.observed
  size_le : w.heap.size ≤ w'.heap.size
  old : ∀ r body, w.bodyAt r = some body → w'.bodyAt r = some body
  new : ∀ r body, w'.bodyAt r = some body → w.bodyAt r = some body ∨ Plain body

/-- The attribute of an object itself. -/
def World.attrAt {B : Type} (w : World B) (r : Ref) (name : String) : Option Ref :=
  (w.heap.get? r).bind fun node => node.attrs.get? name

/-- No name is watched: attributes of every name may be stored. -/
def AnyName : String → Prop := fun _ => True

/-- A quiet change that stores attributes under `Free` names only and leaves the registered types.
Attributes of every name may go; an object that went does not come back. -/
structure World.Hushed {B : Type} (Plain : B → Prop) (Free : String → Prop) (w w' : World B) : Prop
    extends w.Quiet Plain w' where
  back : ∀ r body, r.id < w.heap.size → w'.bodyAt r = some body → w.bodyAt r = some body
  attrs : ∀ r name value, ¬Free name → w'.attrAt r name = some value → w.attrAt r name = some value
  registry : w'.bridge.registry = w.bridge.registry

/-- A hushed change that leaves the callbacks and the notifications that are not dispatched yet. -/
structure World.Still {B : Type} (Plain : B → Prop) (Free : String → Prop) (w w' : World B) : Prop
    extends w.Hushed Plain Free w' where
  callbacks : w'.bridge.callbacks = w.bridge.callbacks
  pending : w'.bridge.pending = w.bridge.pending

/-- A relation between worlds that composes, and to which belong all still changes and the loss of
an object that nothing refers to. -/
structure World.Steady {B : Type} [ObjectBody B] (Plain : B → Prop) (Free : String → Prop)
    (R : World B → World B → Prop) : Prop where
  trans : ∀ {w w₁ w₂}, R w w₁ → R w₁ w₂ → R w w₂
  quiet : ∀ {w w'}, w.Still Plain Free w' → R w w'
  discard : ∀ {w r}, w.permanent ≤ r.id → r ∉ w.references → R w (w.discard r)

/-- A relation to which any change of the callbacks and the notifications belongs. -/
def World.Noted {B : Type} (R : World B → World B → Prop) : Prop :=
  ∀ (w : World B) callbacks pending, R w { w with bridge := { w.bridge with callbacks, pending } }

/-- What an action changes in a world belongs to a relation, if the action comes to an end. -/
def Action.WithinAt {B ε α : Type} (R : World B → World B → Prop) (x : Action B ε α)
    (w : World B) : Prop :=
  (x.apply w).1 ≠ .error .endless → R w (x.apply w).2

/-- What an action changes in any world belongs to a relation. -/
def Action.Within {B ε α : Type} (R : World B → World B → Prop) (x : Action B ε α) : Prop :=
  ∀ w, x.WithinAt R w

/-- What an action that fails changes in any world belongs to a relation. -/
def Action.FailsWithin {B ε α : Type} (R : World B → World B → Prop) (x : Action B ε α) : Prop :=
  ∀ w error w', x.apply w = (.error (.raised error), w') → R w w'

/-- The bodies stay when the attributes of an object change. -/
theorem World.set_bodyAt {B : Type} {w : World B} {r : Ref} {node : Node B}
    (hnode : w.heap.get? r = some node) (attrs : Table String Ref) (r' : Ref) :
    World.bodyAt { w with heap := w.heap.set r { node with attrs } } r' = w.bodyAt r' := by
  show ((w.heap.set r { node with attrs }).get? r').map Node.body = _
  rw [Heap.get?_set hnode]
  by_cases hr : r' = r
  · rw [if_pos hr, hr, World.bodyAt, hnode]
    rfl
  · rw [if_neg hr]
    rfl

/-- No object gets another body when one goes. -/
theorem World.bodyAt_of_discard {B : Type} [ObjectBody B] {w : World B} {r r' : Ref} {body : B}
    (h : (w.discard r).bodyAt r' = some body) : w.bodyAt r' = some body := by
  rw [bodyAt, discard_get?] at h
  split at h
  · exact absurd h (by simp)
  · exact h

/-- No attribute comes when an object goes. -/
theorem World.attrAt_of_discard {B : Type} [ObjectBody B] {w : World B} {r r' : Ref} {name : String}
    {value : Ref} (h : (w.discard r).attrAt r' name = some value) : w.attrAt r' name = some value := by
  rw [attrAt, discard_get?] at h
  split at h
  · exact absurd h (by simp)
  · exact h

namespace World.Quiet

variable {B : Type} {Plain : B → Prop} {w w₁ w₂ : World B}

theorem refl (w : World B) : w.Quiet Plain w where
  provider := rfl
  permanent := rfl
  releases := rfl
  generation := rfl
  observed := rfl
  size_le := Nat.le_refl _
  old := fun _ _ h => h
  new := fun _ _ h => .inl h

theorem mono {Other : B → Prop} (h : w.Quiet Plain w₁) (hplain : ∀ body, Plain body → Other body) :
    w.Quiet Other w₁ :=
  { h with new := fun r body hbody => (h.new r body hbody).imp_right (hplain body) }

/-- What lies beside the heap, the provider and the releases can change. -/
theorem beside (hheap : w₁.heap = w.heap) (hprovider : w₁.provider = w.provider)
    (hpermanent : w₁.permanent = w.permanent) (hreleases : w₁.releases = w.releases)
    (hgeneration : w₁.bridge.generation = w.bridge.generation)
    (hobserved : w₁.bridge.observed = w.bridge.observed) : w.Quiet Plain w₁ where
  provider := hprovider
  permanent := hpermanent
  releases := hreleases
  generation := hgeneration
  observed := hobserved
  size_le := Nat.le_of_eq (congrArg Heap.size hheap.symm)
  old := fun r body h => by rw [bodyAt, hheap]; exact h
  new := fun r body h => by rw [bodyAt, hheap] at h; exact .inl h

/-- An object with a plain body comes. -/
theorem alloc (w : World B) {node : Node B} (h : Plain node.body) :
    w.Quiet Plain { w with heap := (w.heap.alloc node).2 } where
  provider := rfl
  permanent := rfl
  releases := rfl
  generation := rfl
  observed := rfl
  size_le := by simp [Heap.size, Heap.alloc]
  old := fun r body hbody => by
    obtain ⟨old, hold, hbody⟩ := Option.map_eq_some_iff.mp hbody
    show ((w.heap.alloc node).2.get? r).map Node.body = _
    rw [Heap.get?_alloc_of_lt (Heap.lt_size_of_get? hold), hold, ← hbody]
    rfl
  new := fun r body hbody => by
    obtain ⟨found, hfound, hbody⟩ := Option.map_eq_some_iff.mp hbody
    rw [Heap.get?_alloc] at hfound
    split at hfound
    · cases hfound
      exact .inr (hbody ▸ h)
    · exact .inl (Option.map_eq_some_iff.mpr ⟨found, hfound, hbody⟩)

/-- The attributes of an object change. -/
theorem set {r : Ref} {node : Node B} (hnode : w.heap.get? r = some node)
    (attrs : Table String Ref) :
    w.Quiet Plain { w with heap := w.heap.set r { node with attrs } } where
  provider := rfl
  permanent := rfl
  releases := rfl
  generation := rfl
  observed := rfl
  size_le := by simp [Heap.size, Heap.set]
  old := fun r' body h => (set_bodyAt hnode attrs r').trans h
  new := fun r' body h => .inl ((set_bodyAt hnode attrs r').symm.trans h)

end World.Quiet

namespace World

variable {B : Type}

theorem attrAt_of_get? {w : World B} {r : Ref} {node : Node B} (h : w.heap.get? r = some node)
    (name : String) : w.attrAt r name = node.attrs.get? name := by
  rw [attrAt, h]
  rfl

/-- Attributes are found on objects that are there. -/
theorem lt_size_of_attrAt {w : World B} {r : Ref} {name : String} {value : Ref}
    (h : w.attrAt r name = some value) : r.id < w.heap.size := by
  obtain ⟨node, hnode, -⟩ := Option.bind_eq_some_iff.mp h
  exact Heap.lt_size_of_get? hnode

theorem lt_size_of_bodyAt {w : World B} {r : Ref} {body : B} (h : w.bodyAt r = some body) :
    r.id < w.heap.size := by
  obtain ⟨node, hnode, -⟩ := Option.map_eq_some_iff.mp h
  exact Heap.lt_size_of_get? hnode

/-- The attributes of an object after a change of them. -/
theorem set_attrAt {w : World B} {r : Ref} {node : Node B} (hnode : w.heap.get? r = some node)
    (attrs : Table String Ref) (r' : Ref) (name : String) :
    World.attrAt { w with heap := w.heap.set r { node with attrs } } r' name =
      if r' = r then attrs.get? name else w.attrAt r' name := by
  show ((w.heap.set r { node with attrs }).get? r').bind _ = _
  rw [Heap.get?_set hnode]
  split
  · rfl
  · rfl

/-- What is found after an attribute was assigned was assigned or was there. -/
theorem attrAt_of_insert {w : World B} {obj value : Ref} {node : Node B} {name : String}
    (hnode : w.heap.get? obj = some node) {r found : Ref} {name' : String}
    (h : World.attrAt
      { w with heap := w.heap.set obj { node with attrs := node.attrs.insert name value } }
      r name' = some found) :
    (r = obj ∧ name' = name ∧ found = value) ∨ w.attrAt r name' = some found := by
  rw [set_attrAt hnode] at h
  split at h
  · rename_i hr
    rw [Table.get?_insert] at h
    split at h
    · rename_i hsame
      exact .inl ⟨hr, hsame, (Option.some.inj h).symm⟩
    · right
      rw [hr, attrAt_of_get? hnode]
      exact h
  · exact .inr h

/-- An attribute that is removed is no longer there. -/
theorem removeAttr_attrAt [ObjectBody B] (w : World B) (obj : Ref) (name : String) :
    (w.removeAttr obj name).attrAt obj name = none := by
  have hcollect : ∀ w : World B, w.attrAt obj name = none → w.collect.attrAt obj name = none :=
    collect_within (R := fun w w' => w.attrAt obj name = none → w'.attrAt obj name = none)
      (fun _ h => h) (fun h h' hnone => h' (h hnone)) fun w r _ _ hnone =>
        Option.eq_none_iff_forall_ne_some.mpr fun value hvalue => by
          rw [attrAt_of_discard hvalue] at hnone
          exact absurd hnone (by simp)
  unfold removeAttr
  split
  · rename_i hgone
    rw [attrAt, hgone]
    rfl
  · rename_i node hnode
    refine hcollect _ ?_
    rw [set_attrAt hnode, if_pos rfl, Table.get?_erase, if_pos rfl]

/-- A new object has the attributes it comes with. -/
theorem alloc_attrAt (w : World B) (node : Node B) {r : Ref} {name : String} {value : Ref}
    (h : World.attrAt { w with heap := (w.heap.alloc node).2 } r name = some value) :
    w.attrAt r name = some value ∨
      r = (w.heap.alloc node).1 ∧ node.attrs.get? name = some value := by
  change ((w.heap.alloc node).2.get? r).bind _ = some value at h
  rw [Heap.get?_alloc] at h
  split at h
  · rename_i hr
    exact .inr ⟨hr, h⟩
  · exact .inl h

end World

namespace World.Hushed

variable {B : Type} {Plain : B → Prop} {Free : String → Prop} {w w₁ : World B}

theorem refl (w : World B) : w.Hushed Plain Free w :=
  ⟨.refl w, fun _ _ _ h => h, fun _ _ _ _ h => h, rfl⟩

/-- A hushed change in which other bodies come. -/
theorem ofBodies {Other : B → Prop} (h : w.Hushed Plain Free w₁)
    (hplain : ∀ body, Plain body → Other body) : w.Hushed Other Free w₁ :=
  ⟨h.toQuiet.mono hplain, h.back, h.attrs, h.registry⟩

/-- What lies beside the heap, the provider, the releases and the registered types can change. -/
theorem beside (hheap : w₁.heap = w.heap) (hprovider : w₁.provider = w.provider)
    (hpermanent : w₁.permanent = w.permanent) (hreleases : w₁.releases = w.releases)
    (hgeneration : w₁.bridge.generation = w.bridge.generation)
    (hobserved : w₁.bridge.observed = w.bridge.observed)
    (hregistry : w₁.bridge.registry = w.bridge.registry) : w.Hushed Plain Free w₁ where
  toQuiet := .beside hheap hprovider hpermanent hreleases hgeneration hobserved
  back := fun r body _ h => by rwa [bodyAt, hheap] at h
  attrs := fun r name value _ h => by
    unfold attrAt at h ⊢
    rwa [hheap] at h
  registry := hregistry

/-- An object with a plain body and without attributes comes. -/
theorem alloc (w : World B) {body : B} (h : Plain body) :
    w.Hushed Plain Free { w with heap := (w.heap.alloc ⟨.empty, body⟩).2 } where
  toQuiet := .alloc w h
  back := fun r body hlt h => by
    rw [bodyAt] at h ⊢
    rwa [Heap.get?_alloc_of_lt hlt] at h
  attrs := fun r name value _ hvalue => by
    rcases alloc_attrAt w _ hvalue with hold | ⟨-, hnew⟩
    · exact hold
    · exact absurd hnew (by simp)
  registry := rfl

/-- An attribute with a free name changes. -/
theorem insert {r : Ref} {node : Node B} (hnode : w.heap.get? r = some node) {name : String}
    (hname : Free name) (value : Ref) :
    w.Hushed Plain Free
      { w with heap := w.heap.set r { node with attrs := node.attrs.insert name value } } where
  toQuiet := .set hnode _
  back := fun r' body _ h => (set_bodyAt hnode _ r').symm.trans h
  attrs := fun r' name' value' hwatched h => by
    rw [set_attrAt hnode] at h
    split at h
    · rename_i hr
      rw [Table.get?_insert, if_neg (fun he : name' = name => hwatched (he.symm ▸ hname))] at h
      rw [hr, attrAt_of_get? hnode]
      exact h
    · exact h
  registry := rfl

/-- An attribute goes. -/
theorem erase {r : Ref} {node : Node B} (hnode : w.heap.get? r = some node) (name : String) :
    w.Hushed Plain Free
      { w with heap := w.heap.set r { node with attrs := node.attrs.erase name } } where
  toQuiet := .set hnode _
  back := fun r' body _ h => (set_bodyAt hnode _ r').symm.trans h
  attrs := fun r' name' value' _ h => by
    rw [set_attrAt hnode] at h
    split at h
    · rename_i hr
      rw [hr, attrAt_of_get? hnode]
      rw [Table.get?_erase] at h
      split at h
      · exact absurd h (by simp)
      · exact h
    · exact h
  registry := rfl

end World.Hushed

namespace World.Still

variable {B : Type} {Plain : B → Prop} {Free : String → Prop} {w w₁ : World B}

theorem refl (w : World B) : w.Still Plain Free w := ⟨.refl w, rfl, rfl⟩

theorem ofBodies {Other : B → Prop} (h : w.Still Plain Free w₁)
    (hplain : ∀ body, Plain body → Other body) : w.Still Other Free w₁ :=
  ⟨h.toHushed.ofBodies hplain, h.callbacks, h.pending⟩

/-- What lies beside the heap, the provider, the releases, the registered types, the callbacks and
the notifications can change. -/
theorem beside (hheap : w₁.heap = w.heap) (hprovider : w₁.provider = w.provider)
    (hpermanent : w₁.permanent = w.permanent) (hreleases : w₁.releases = w.releases)
    (hgeneration : w₁.bridge.generation = w.bridge.generation)
    (hobserved : w₁.bridge.observed = w.bridge.observed)
    (hregistry : w₁.bridge.registry = w.bridge.registry)
    (hcallbacks : w₁.bridge.callbacks = w.bridge.callbacks)
    (hpending : w₁.bridge.pending = w.bridge.pending) : w.Still Plain Free w₁ :=
  ⟨.beside hheap hprovider hpermanent hreleases hgeneration hobserved hregistry, hcallbacks,
    hpending⟩

theorem alloc (w : World B) {body : B} (h : Plain body) :
    w.Still Plain Free { w with heap := (w.heap.alloc ⟨.empty, body⟩).2 } :=
  ⟨.alloc w h, rfl, rfl⟩

theorem insert {r : Ref} {node : Node B} (hnode : w.heap.get? r = some node) {name : String}
    (hname : Free name) (value : Ref) :
    w.Still Plain Free
      { w with heap := w.heap.set r { node with attrs := node.attrs.insert name value } } :=
  ⟨.insert hnode hname value, rfl, rfl⟩

theorem erase {r : Ref} {node : Node B} (hnode : w.heap.get? r = some node) (name : String) :
    w.Still Plain Free
      { w with heap := w.heap.set r { node with attrs := node.attrs.erase name } } :=
  ⟨.erase hnode name, rfl, rfl⟩

end World.Still

/-! ## Steady relations -/

namespace World.Steady

variable {B : Type} [ObjectBody B] {Plain : B → Prop} {Free : String → Prop}
variable {R : World B → World B → Prop}

theorem refl (hR : Steady Plain Free R) (w : World B) : R w w := hR.quiet (.refl w)

/-- A relation that allows for more bodies allows for fewer. -/
theorem mono {Fewer : B → Prop} (hR : Steady Plain Free R)
    (hplain : ∀ body, Fewer body → Plain body) : Steady Fewer Free R where
  trans := hR.trans
  quiet := fun h => hR.quiet (h.ofBodies hplain)
  discard := hR.discard

/-- A change of what the running operations hold. -/
theorem handling (hR : Steady Plain Free R) (w : World B) (pinned kept : List Ref) (mark : Nat) :
    R w { w with pinned, kept, mark } :=
  hR.quiet (.beside rfl rfl rfl rfl rfl rfl rfl rfl rfl)

/-- Hushed changes belong to the relation if callbacks and notifications do not matter to it. -/
theorem hushed (hR : Steady Plain Free R) (hN : Noted R) {w w' : World B}
    (h : w.Hushed Plain Free w') : R w w' := by
  have hstill : w.Still Plain Free { w' with
      bridge := { w'.bridge with
        callbacks := w.bridge.callbacks
        pending := w.bridge.pending } } :=
    ⟨{ h with }, rfl, rfl⟩
  exact hR.trans (hR.quiet hstill) (hN _ w'.bridge.callbacks w'.bridge.pending)

theorem collect (hR : Steady Plain Free R) (w : World B) : R w w.collect :=
  World.collect_within (hR.refl) hR.trans (fun _ _ => hR.discard) w

theorem collectAll (hR : Steady Plain Free R) (w : World B) : R w w.collectAll :=
  hR.trans (hR.trans (hR.handling w _ _ _) (hR.collect _)) (hR.handling _ _ _ _)

/-- An assignment to an object that is there, and what it frees. -/
theorem storeAttr_of_insert (hR : Steady Plain Free R) {w : World B} {obj value : Ref} {name : String}
    (hinsert : ∀ node, w.heap.get? obj = some node → R w
      { w with heap := w.heap.set obj { node with attrs := node.attrs.insert name value } }) :
    R w (w.storeAttr obj name value) := by
  unfold World.storeAttr
  split
  · exact hR.refl w
  · rename_i node hnode
    dsimp only
    split
    · exact hR.trans (hinsert node hnode) (hR.collect _)
    · exact hinsert node hnode

theorem storeAttr (hR : Steady Plain Free R) (w : World B) (obj : Ref) {name : String}
    (hname : Free name) (value : Ref) : R w (w.storeAttr obj name value) :=
  hR.storeAttr_of_insert fun _ hnode => hR.quiet (.insert hnode hname value)

theorem removeAttr (hR : Steady Plain Free R) (w : World B) (obj : Ref) (name : String) :
    R w (w.removeAttr obj name) := by
  unfold World.removeAttr
  split
  · exact hR.refl w
  · rename_i node hnode
    exact hR.trans (hR.quiet (.erase hnode name)) (hR.collect _)

end World.Steady

/-! ## Actions -/

namespace Action

variable {B ε δ α β : Type} [ObjectBody B] {Plain : B → Prop} {Free : String → Prop}
variable {R : World B → World B → Prop}

omit [ObjectBody B] in
theorem WithinAt.of_rel {x : Action B ε α} {w : World B} (h : R w (x.apply w).2) :
    x.WithinAt R w :=
  fun _ => h

omit [ObjectBody B] in
/-- One action after another, from a certain world: the second carries on from where the first one
led. -/
theorem WithinAt.bind_from {x : Action B ε α} {f : α → Action B ε β} {w : World B}
    (hx : x.WithinAt R w)
    (hf : ∀ a w₁, x.apply w = (.ok a, w₁) → R w w₁ → (f a).WithinAt (fun _ => R w) w₁) :
    (x >>= f).WithinAt R w := by
  unfold WithinAt
  rw [apply_bind]
  unfold WithinAt at hx
  rcases hrun : x.apply w with ⟨stop | a, w₁⟩ <;> rw [hrun] at hx
  · intro hends
    exact hx fun h => hends (by rw [Except.error.inj h])
  · exact hf a w₁ hrun (hx nofun)

omit [ObjectBody B] in
/-- One action after another, from a certain world, if the relation composes. -/
theorem WithinAt.bind_of_trans (htrans : ∀ {w w₁ w₂}, R w w₁ → R w₁ w₂ → R w w₂)
    {x : Action B ε α} {f : α → Action B ε β} {w : World B} (hx : x.WithinAt R w)
    (hf : ∀ a w₁, x.apply w = (.ok a, w₁) → (f a).WithinAt R w₁) : (x >>= f).WithinAt R w :=
  hx.bind_from fun a w₁ hrun hR hends => htrans hR (hf a w₁ hrun hends)

theorem WithinAt.bind (hR : World.Steady Plain Free R) {x : Action B ε α} {f : α → Action B ε β}
    {w : World B} (hx : x.WithinAt R w)
    (hf : ∀ a w₁, x.apply w = (.ok a, w₁) → (f a).WithinAt R w₁) : (x >>= f).WithinAt R w :=
  WithinAt.bind_of_trans (R := R) hR.trans hx hf

omit [ObjectBody B] in
theorem WithinAt.attempt {x : Action B ε α} {w : World B} (hx : x.WithinAt R w) :
    (x.attempt : Action B δ (Except ε α)).WithinAt R w := by
  unfold WithinAt at hx ⊢
  rw [apply_attempt]
  rcases hrun : x.apply w with ⟨(error | _) | a, w₁⟩ <;> rw [hrun] at hx
  · exact fun _ => hx (by simp)
  · exact fun hends => absurd rfl hends
  · exact fun _ => hx (by simp)

omit [ObjectBody B] in
theorem WithinAt.mapError {f : ε → δ} {x : Action B ε α} {w : World B} (hx : x.WithinAt R w) :
    (x.mapError f).WithinAt R w := by
  unfold WithinAt at hx ⊢
  rw [apply_mapError]
  rcases hrun : x.apply w with ⟨(error | _) | a, w₁⟩ <;> rw [hrun] at hx
  · exact fun _ => hx (by simp)
  · exact fun hends => absurd rfl hends
  · exact fun _ => hx (by simp)

theorem WithinAt.andThen (hR : World.Steady Plain Free R) {x : Action B ε α}
    {f : World B → World B} {w : World B} (hx : x.WithinAt R w) (hf : ∀ w, R w (f w)) :
    (x.andThen f).WithinAt R w :=
  fun hends => hR.trans (hx hends) (hf _)

/-- What is pinned does not matter to the relation, only to what happens meanwhile. -/
theorem WithinAt.pinning (hR : World.Steady Plain Free R) {refs : List Ref} {x : Action B ε α} {w : World B}
    (hx : x.WithinAt R { w with pinned := refs ++ w.pinned }) :
    (Action.pinning refs x).WithinAt R w := by
  unfold WithinAt
  rw [apply_pinning]
  exact fun hends =>
    hR.trans (hR.trans (hR.handling w _ _ _) (hx hends)) (hR.handling _ _ _ _)

theorem WithinAt.holding (hR : World.Steady Plain Free R) {refs : List Ref} {x : Action B ε α}
    {w : World B} (hx : x.WithinAt R { w with pinned := refs ++ w.pinned }) :
    (Action.holding refs x).WithinAt R w :=
  .andThen hR (.pinning hR hx) hR.collectAll

namespace Within

theorem pure (hR : World.Steady Plain Free R) (a : α) : Within R (Pure.pure a : Action B ε α) :=
  fun w _ => hR.refl w

theorem bind (hR : World.Steady Plain Free R) {x : Action B ε α} {f : α → Action B ε β}
    (hx : Within R x) (hf : ∀ a, Within R (f a)) : Within R (x >>= f) :=
  fun w => .bind hR (hx w) fun a w₁ _ => hf a w₁

omit [ObjectBody B] in
/-- What follows may depend on the world in which it happens. -/
theorem world {f : World B → Action B ε β} (hf : ∀ w, (f w).WithinAt R w) :
    Within R (Action.world >>= f) := by
  intro w
  unfold WithinAt
  rw [apply_bind_of_ok (apply_world w)]
  exact hf w

omit [ObjectBody B] in
theorem change {f : World B → World B} (hf : ∀ w, R w (f w)) :
    Within R (Action.change f : Action B ε Unit) :=
  fun w _ => hf w

theorem raise (hR : World.Steady Plain Free R) (error : ε) :
    Within R (Action.raise error : Action B ε α) :=
  fun w _ => hR.refl w

omit [ObjectBody B] in
/-- What does not come to an end is not asked for anything. -/
theorem never : Within R (Action.never : Action B ε α) := fun _ hends => absurd rfl hends

theorem alloc (hR : World.Steady Plain Free R) {body : B} (h : Plain body) :
    Within R (Action.alloc body : Action B ε Ref) :=
  fun w _ => hR.quiet (.alloc w h)

theorem ofExcept (hR : World.Steady Plain Free R) (r : Except ε α) :
    Within R (Action.ofExcept r : Action B ε α) := by
  cases r with
  | ok a => exact pure hR a
  | error error => exact raise hR error

omit [ObjectBody B] in
theorem attempt {x : Action B ε α} (hx : Within R x) :
    Within R (x.attempt : Action B δ (Except ε α)) :=
  fun w => (hx w).attempt

omit [ObjectBody B] in
theorem mapError {f : ε → δ} {x : Action B ε α} (hx : Within R x) : Within R (x.mapError f) :=
  fun w => (hx w).mapError

omit [ObjectBody B] in
/-- A host operation inside a bridge operation. -/
theorem lift {x : HostAction B α} (hx : Within R x) : Within R (liftM x : BridgeAction B α) :=
  hx.mapError

omit [ObjectBody B] in
/-- A host operation inside a step. -/
theorem liftHost {x : HostAction B α} (hx : Within R x) : Within R (liftM x : StepAction B α) :=
  hx.mapError

omit [ObjectBody B] in
/-- A bridge operation inside a step. -/
theorem liftBridge {x : BridgeAction B α} (hx : Within R x) :
    Within R (liftM x : StepAction B α) :=
  hx.mapError

theorem pinning (hR : World.Steady Plain Free R) {refs : List Ref} {x : Action B ε α}
    (hx : Within R x) : Within R (Action.pinning refs x) :=
  fun _ => .pinning hR (hx _)

theorem holding (hR : World.Steady Plain Free R) {refs : List Ref} {x : Action B ε α}
    (hx : Within R x) : Within R (Action.holding refs x) :=
  fun _ => .holding hR (hx _)

theorem framed (hR : World.Steady Plain Free R) {x : Action B ε α} (hx : Within R x) :
    Within R x.framed := by
  refine world fun before => ?_
  refine .bind hR (.of_rel (hR.handling before _ _ _)) fun _ w _ => ?_
  refine .andThen hR (hx w) fun w => ?_
  exact hR.trans (hR.trans (hR.handling w _ _ _) (hR.collectAll _)) (hR.handling _ _ _ _)

theorem pin (hR : World.Steady Plain Free R) (r : Ref) : Within R (Action.pin r : Action B ε Unit) :=
  change fun w => hR.handling w _ _ _

theorem keeping (hR : World.Steady Plain Free R) {x : Action B ε Ref} (hx : Within R x) :
    Within R (Action.keeping x) :=
  bind hR hx fun r => bind hR (pin hR r) fun _ => pure hR r

/-- What follows an action that may be left out. -/
theorem ite_bind (hR : World.Steady Plain Free R) {c : Prop} [Decidable c] {x : Action B ε PUnit}
    {f : PUnit → Action B ε β} (hx : Within R x) (hf : ∀ a, Within R (f a)) :
    Within R (if c then x >>= f else f ⟨⟩) := by
  split
  · exact bind hR hx hf
  · exact hf ⟨⟩

theorem mapM (hR : World.Steady Plain Free R) {f : α → Action B ε β} (hf : ∀ a, Within R (f a))
    (as : List α) : Within R (as.mapM f) := by
  induction as with
  | nil => exact pure hR []
  | cons a rest ih =>
      rw [List.mapM_cons]
      exact bind hR (hf a) fun b => bind hR ih fun bs => pure hR (b :: bs)

theorem foldlM (hR : World.Steady Plain Free R) {f : β → α → Action B ε β}
    (hf : ∀ b a, Within R (f b a)) (as : List α) (b : β) : Within R (as.foldlM f b) := by
  induction as generalizing b with
  | nil => exact pure hR b
  | cons a rest ih =>
      rw [List.foldlM_cons]
      exact bind hR (hf b a) ih

/-- A loop over a list. -/
theorem forIn (hR : World.Steady Plain Free R) {f : α → β → Action B ε (ForInStep β)}
    {as : List α} (hf : ∀ a ∈ as, ∀ b, Within R (f a b)) (b : β) :
    Within R (ForIn.forIn as b f) := by
  induction as generalizing b with
  | nil => exact pure hR b
  | cons a rest ih =>
      obtain ⟨ha, hrest⟩ := List.forall_mem_cons.mp hf
      rw [List.forIn_cons]
      refine bind hR (ha b) fun step => ?_
      cases step with
      | done b => exact pure hR b
      | yield b => exact ih hrest b

end Within

omit [ObjectBody B] in
/-- What fails after something else happened. What happened before and what is asked of the failure
may be two relations. -/
theorem FailsWithin.bind_of_comp {S : World B → World B → Prop} (hfirst : ∀ {w w'}, R w w' → S w w')
    (hcomp : ∀ {w w₁ w₂}, R w w₁ → S w₁ w₂ → S w w₂) {x : Action B ε α} {f : α → Action B ε β}
    (hx : Within R x) (hf : ∀ a, FailsWithin S (f a)) : FailsWithin S (x >>= f) := by
  intro w error w' h
  rw [apply_bind] at h
  have hw := hx w
  unfold WithinAt at hw
  rcases hrun : x.apply w with ⟨stop | a, w₁⟩ <;> rw [hrun] at h hw
  · cases h
    exact hfirst (hw (by simp))
  · exact hcomp (hw (by simp)) (hf a w₁ error w' h)

theorem FailsWithin.bind (hR : World.Steady Plain Free R) {x : Action B ε α} {f : α → Action B ε β}
    (hx : Within R x) (hf : ∀ a, FailsWithin R (f a)) : FailsWithin R (x >>= f) :=
  FailsWithin.bind_of_comp (R := R) (S := R) id hR.trans hx hf

end Action

end DdsBridge
