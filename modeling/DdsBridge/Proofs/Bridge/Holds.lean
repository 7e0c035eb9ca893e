import DdsBridge.Proofs.Host.Within
import DdsBridge.Proofs.Provider.Holds

/-!
# Holds on entities

A capsule is the bridge's hold on an entity. What happens to a world is followed as a trail of small
changes, on which capsules are made for new entities and go when nothing refers to them. Along a
trail the books balance: each hold is taken once, it is given back once when its capsule goes, and
an entity that is alive has one holder as long as there is a capsule for it and none afterwards.

* **`Hold`**, **`Deal`** — holds, and what becomes of capsules.
* **`World.Trail`** — what happens to a world, with the deals made on the way.
* **`World.Balanced`** — the books of all deals so far.
* **`World.Trail.balanced`** — they balance along every trail.
-/

namespace DdsBridge

open Provider (State)

/-- A hold on an entity: the bridge that took it, by its number, and the entity. -/
structure Hold where
  generation : Nat
  entity : Handle
  deriving DecidableEq, Repr

/-- The hold that a capsule is, unless it belongs to no bridge. -/
def Capsule.hold? (capsule : Capsule) : Option Hold :=
  match capsule.owner with
  | .bridge generation _ => some ⟨generation, capsule.handle⟩
  | .loose => none

/-- What becomes of a capsule. -/
inductive Deal where
  /-- It is made for a new entity. -/
  | made (capsule : Capsule)
  /-- It goes, and the hold that it is is given back. -/
  | gone (capsule : Capsule)
  deriving DecidableEq, Repr

namespace Deal

/-- Whether a deal takes a hold. -/
def takes (k : Hold) : Deal → Bool
  | .made capsule => capsule.hold? == some k
  | .gone _ => false

/-- Whether a deal gives a hold back. -/
def givesBack (k : Hold) : Deal → Bool
  | .made _ => false
  | .gone capsule => capsule.hold? == some k

/-- What the observer is told of a deal. -/
def note : Deal → List Release
  | .made _ => []
  | .gone capsule => World.noteOf capsule

variable (deals : List Deal) (capsule : Capsule) (k : Hold)

theorem countP_takes_made : (deals ++ [made capsule]).countP (takes k) =
    deals.countP (takes k) + if capsule.hold? = some k then 1 else 0 := by
  simp [takes, List.countP_append, List.countP_singleton]

theorem countP_takes_gone : (deals ++ [gone capsule]).countP (takes k) = deals.countP (takes k) := by
  simp [takes, List.countP_append]

theorem countP_givesBack_made :
    (deals ++ [made capsule]).countP (givesBack k) = deals.countP (givesBack k) := by
  simp [givesBack, List.countP_append]

theorem countP_givesBack_gone : (deals ++ [gone capsule]).countP (givesBack k) =
    deals.countP (givesBack k) + if capsule.hold? = some k then 1 else 0 := by
  simp [givesBack, List.countP_append, List.countP_singleton]

end Deal

theorem Capsule.hold?_eq_some_iff {capsule : Capsule} {k : Hold} :
    capsule.hold? = some k ↔
      World.HeldBy k.generation capsule ∧ capsule.handle = k.entity := by
  obtain ⟨kind, handle, owner⟩ := capsule
  obtain ⟨generation, entity⟩ := k
  cases owner with
  | loose => simp [hold?, World.HeldBy]
  | «bridge» number observed => simp [hold?, World.HeldBy]

namespace World

variable {B : Type} [ObjectBody B]

/-- The capsule with a reference. -/
def capsuleAt (w : World B) (r : Ref) : Option Capsule := (w.bodyAt r).bind ObjectBody.capsule?

/-- An object is a hold on an entity. -/
def Holds (w : World B) (k : Hold) (r : Ref) : Prop := (w.capsuleAt r).bind Capsule.hold? = some k

/-- There is a capsule for an entity. -/
def Held (w : World B) (k : Hold) : Prop := ∃ r, w.Holds k r

/-- Bodies that are no hold of a bridge. -/
def NoHold (body : B) : Prop := (ObjectBody.capsule? body).bind Capsule.hold? = none

/-! ## Small changes -/

/-- The objects and what was told of them stay. -/
structure SameObjects (w w' : World B) : Prop where
  heap : w'.heap = w.heap
  permanent : w'.permanent = w.permanent
  releases : w'.releases = w.releases

/-- The provider goes on: no entity comes, and no hold on one is given back. -/
structure Turns (w w' : World B) : Prop extends SameObjects w w' where
  generation : w'.bridge.generation = w.bridge.generation
  provider : w.provider.Rests w'.provider

/-- A new bridge with a new provider. -/
structure Rebuilds (w w' : World B) : Prop extends SameObjects w w' where
  generation : w'.bridge.generation = w.bridge.generation + 1
  provider : ∀ e, w'.provider.entities.get? e = none

/-- The provider makes a new entity for a capsule, which is not an object yet. -/
structure Owes (w : World B) (capsule : Capsule) (w' : World B) : Prop
    extends SameObjects w w' where
  generation : w'.bridge.generation = w.bridge.generation
  owner : HeldBy w.bridge.generation capsule
  provider : w.provider.Gains capsule.handle w'.provider

/-- What happens to a world, with the deals made on the way. A capsule is made right after its
entity, and goes when nothing refers to it. -/
inductive Trail (w : World B) : List Deal → World B → Prop where
  | start : Trail w [] w
  | quiet {deals : List Deal} {w₁ w₂ : World B} :
    Trail w deals w₁ → w₁.Quiet NoHold w₂ → Trail w deals w₂
  | turn {deals : List Deal} {w₁ w₂ : World B} :
    Trail w deals w₁ → w₁.Turns w₂ → Trail w deals w₂
  | rebuild {deals : List Deal} {w₁ w₂ : World B} :
    Trail w deals w₁ → w₁.Rebuilds w₂ → Trail w deals w₂
  | made {deals : List Deal} {w₁ w₂ : World B} {capsule : Capsule} {node : Node B} :
    Trail w deals w₁ → w₁.Owes capsule w₂ → ObjectBody.capsule? node.body = some capsule →
      Trail w (deals ++ [.made capsule]) { w₂ with heap := (w₂.heap.alloc node).2 }
  | lost {deals : List Deal} {w₁ : World B} {r : Ref} :
    Trail w deals w₁ → w₁.permanent ≤ r.id → r ∉ w₁.references → w₁.capsuleAt r = none →
      Trail w deals (w₁.discard r)
  | gone {deals : List Deal} {w₁ : World B} {r : Ref} {capsule : Capsule} :
    Trail w deals w₁ → w₁.permanent ≤ r.id → r ∉ w₁.references → w₁.capsuleAt r = some capsule →
      Trail w (deals ++ [.gone capsule]) (w₁.discard r)

namespace Trail

variable {w w₁ w₂ : World B} {deals more : List Deal}

theorem append (h : w.Trail deals w₁) (h' : w₁.Trail more w₂) : w.Trail (deals ++ more) w₂ := by
  induction h' with
  | start => exact (List.append_nil deals).symm ▸ h
  | quiet _ hq ih => exact .quiet ih hq
  | turn _ ht ih => exact .turn ih ht
  | rebuild _ hb ih => exact .rebuild ih hb
  | made _ howes hbody ih => exact List.append_assoc .. ▸ .made ih howes hbody
  | lost _ hpermanent hfree hnone ih => exact .lost ih hpermanent hfree hnone
  | gone _ hpermanent hfree hsome ih =>
      exact List.append_assoc .. ▸ .gone ih hpermanent hfree hsome

end Trail

/-! ## Capsules after a change -/

theorem capsuleAt_of_get? {w : World B} {r : Ref} {node : Node B} (h : w.heap.get? r = some node) :
    w.capsuleAt r = ObjectBody.capsule? node.body := by
  rw [capsuleAt, bodyAt, h]
  rfl

theorem capsuleAt_congr {w w' : World B} (h : w'.heap = w.heap) (r : Ref) :
    w'.capsuleAt r = w.capsuleAt r := by
  rw [capsuleAt, bodyAt, h]
  rfl

theorem discard_capsuleAt (w : World B) (r r' : Ref) :
    (w.discard r).capsuleAt r' = if r' = r then none else w.capsuleAt r' := by
  rw [capsuleAt, bodyAt, discard_get?]
  split
  · rfl
  · rfl

/-- An object that comes last. -/
theorem alloc_capsuleAt (w : World B) (node : Node B) (r : Ref) :
    World.capsuleAt { w with heap := (w.heap.alloc node).2 } r =
      if r = ⟨w.heap.size⟩ then ObjectBody.capsule? node.body else w.capsuleAt r := by
  rw [capsuleAt, bodyAt, Heap.get?_alloc]
  split
  · rfl
  · rfl

theorem Quiet.holds_iff {w w' : World B} (h : w.Quiet NoHold w') {k : Hold} {r : Ref} :
    w'.Holds k r ↔ w.Holds k r := by
  unfold Holds capsuleAt
  constructor
  · intro hk
    cases hbody : w'.bodyAt r with
    | none => rw [hbody] at hk; exact absurd hk (by simp)
    | some body =>
        rcases h.new r body hbody with hold | hnone
        · rw [hold]
          rwa [hbody] at hk
        · rw [hbody, Option.bind_some, show _ = none from hnone] at hk
          exact absurd hk (by simp)
  · intro hk
    cases hbody : w.bodyAt r with
    | none => rw [hbody] at hk; exact absurd hk (by simp)
    | some body =>
        rw [h.old r body hbody]
        rwa [hbody] at hk

theorem SameObjects.holds_iff {w w' : World B} (h : w.SameObjects w') {k : Hold} {r : Ref} :
    w'.Holds k r ↔ w.Holds k r := by
  rw [Holds, capsuleAt_congr h.heap]
  rfl

theorem discard_holds_iff {w : World B} {k : Hold} {r r' : Ref} :
    (w.discard r).Holds k r' ↔ w.Holds k r' ∧ r' ≠ r := by
  rw [Holds, discard_capsuleAt]
  split
  · rename_i he
    simp [he]
  · rename_i hne
    exact ⟨fun h => ⟨h, hne⟩, fun h => h.1⟩

/-- What is no capsule goes without notice. -/
theorem discard_lost {w : World B} {r : Ref} (h : w.capsuleAt r = none) :
    (w.discard r).provider = w.provider ∧
      (w.discard r).bridge.generation = w.bridge.generation ∧
      (w.discard r).releases = w.releases := by
  cases hget : w.heap.get? r with
  | none =>
      rw [discard_of_gone hget]
      exact ⟨rfl, rfl, rfl⟩
  | some node =>
      rw [capsuleAt_of_get? hget] at h
      rw [discard_of_get? hget, h]
      exact ⟨rfl, rfl, rfl⟩

/-- A capsule that goes is noted, and the entity that it was a hold on has one holder less. -/
theorem discard_gone {w : World B} {r : Ref} {capsule : Capsule}
    (h : w.capsuleAt r = some capsule) :
    (w.discard r).bridge.generation = w.bridge.generation ∧
      (w.discard r).releases = w.releases ++ noteOf capsule ∧
      (w.discard r).provider.lastId = w.provider.lastId ∧
      ∀ e record, (w.discard r).provider.entities.get? e = some record →
        ∃ before, w.provider.entities.get? e = some before ∧
          record.refs =
            if capsule.hold? = some ⟨w.bridge.generation, e⟩ then before.refs - 1
            else before.refs := by
  obtain ⟨body, hbody, hcapsule⟩ := Option.bind_eq_some_iff.mp h
  obtain ⟨node, hget, rfl⟩ := Option.map_eq_some_iff.mp hbody
  obtain ⟨provider, callbacks, pending, events, waits, heq, -, hprovider⟩ :=
    releaseCapsule_eq { w with heap := w.heap.erase r } capsule
  rw [discard_of_get? hget, hcapsule]
  dsimp only
  rw [heq]
  refine ⟨rfl, rfl, ?_⟩
  show provider.lastId = w.provider.lastId ∧ ∀ e record, provider.entities.get? e = some record → _
  -- a capsule of the present generation gives its reference back, an older one nothing
  rcases hprovider with ⟨hcurrent, ended, rfl⟩ | ⟨hpast, rfl⟩
  · refine ⟨(State.leaveAll_lastId _ ended).trans (State.release_lastId _ _), ?_⟩
    intro e record hrecord
    rw [State.leaveAll_entities] at hrecord
    obtain ⟨before, hbefore, hrefs⟩ := State.release_refs hrecord
    refine ⟨before, hbefore, hrefs.trans (ite_congr (propext ?_) (fun _ => rfl) fun _ => rfl)⟩
    rw [Capsule.hold?_eq_some_iff, eq_comm]
    exact ⟨fun he => ⟨hcurrent, he⟩, fun he => he.2⟩
  · refine ⟨rfl, fun e record hrecord => ⟨record, hrecord, ?_⟩⟩
    rw [if_neg]
    intro he
    exact hpast (Capsule.hold?_eq_some_iff.mp he).1

omit [ObjectBody B] in
/-- The hold that is taken on a new entity. -/
theorem Owes.hold {w w' : World B} {capsule : Capsule} (h : w.Owes capsule w') :
    capsule.hold? = some ⟨w.bridge.generation, capsule.handle⟩ :=
  Capsule.hold?_eq_some_iff.mpr ⟨h.owner, rfl⟩

theorem Owes.holds_iff {w w' : World B} {capsule : Capsule} {node : Node B}
    (h : w.Owes capsule w') (hbody : ObjectBody.capsule? node.body = some capsule) {k : Hold}
    {r : Ref} :
    World.Holds { w' with heap := (w'.heap.alloc node).2 } k r ↔
      w.Holds k r ∨ k = ⟨w.bridge.generation, capsule.handle⟩ ∧ r = ⟨w.heap.size⟩ := by
  rw [Holds, alloc_capsuleAt, congrArg Heap.size h.heap]
  split
  · rename_i hr
    rw [hbody, Option.bind_some, h.hold, Option.some.injEq]
    refine ⟨fun hk => .inr ⟨hk.symm, hr⟩, fun hk => ?_⟩
    rcases hk with hold | ⟨hk, -⟩
    · -- beyond the end of the heap there was nothing
      unfold Holds capsuleAt bodyAt at hold
      cases hget : w.heap.get? r with
      | none => rw [hget] at hold; exact absurd hold (by simp)
      | some found =>
          have hlt := Heap.lt_size_of_get? hget
          rw [hr] at hlt
          exact absurd hlt (Nat.lt_irrefl _)
    · exact hk.symm
  · rename_i hr
    rw [capsuleAt_congr h.heap]
    exact ⟨.inl, fun hk => hk.resolve_right fun hk => hr hk.2⟩

theorem Owes.held_iff {w w' : World B} {capsule : Capsule} {node : Node B}
    (h : w.Owes capsule w') (hbody : ObjectBody.capsule? node.body = some capsule) {k : Hold} :
    World.Held { w' with heap := (w'.heap.alloc node).2 } k ↔
      w.Held k ∨ k = ⟨w.bridge.generation, capsule.handle⟩ := by
  constructor
  · rintro ⟨r, hr⟩
    exact ((h.holds_iff hbody).mp hr).imp (fun hr => ⟨r, hr⟩) And.left
  · rintro (⟨r, hr⟩ | hk)
    · exact ⟨r, (h.holds_iff hbody).mpr (.inl hr)⟩
    · exact ⟨_, (h.holds_iff hbody).mpr (.inr ⟨hk, rfl⟩)⟩

/-! ## The books -/

/-- The books of all deals so far. A hold is taken once; it is given back when it is no longer
there; an entity of the present bridge has one holder as long as it is held and none afterwards. -/
structure Balanced (deals : List Deal) (w : World B) : Prop where
  permanent_le : w.permanent ≤ w.heap.size
  /-- Capsules are not permanent. -/
  permanent_le_id : ∀ {k r}, w.Holds k r → w.permanent ≤ r.id
  /-- Two capsules are not the same hold. -/
  unique : ∀ {k r r'}, w.Holds k r → w.Holds k r' → r = r'
  /-- A hold was taken by this bridge or an earlier one, on an entity that exists or existed. -/
  known : ∀ {k deal}, deal ∈ deals → deal.takes k = true →
    k.generation < w.bridge.generation ∨
      k.generation = w.bridge.generation ∧ k.entity.id ≤ w.provider.lastId
  once : ∀ k, deals.countP (Deal.takes k) ≤ 1
  held : ∀ {k}, w.Held k → deals.countP (Deal.takes k) = deals.countP (Deal.givesBack k) + 1
  free : ∀ {k}, ¬w.Held k → deals.countP (Deal.takes k) = deals.countP (Deal.givesBack k)
  /-- A hold was taken on every entity that is alive. -/
  alive : ∀ {e record}, w.provider.entities.get? e = some record →
    ∃ deal ∈ deals, deal.takes ⟨w.bridge.generation, e⟩ = true
  /-- An entity that is held has one holder. -/
  refs_held : ∀ {e record}, w.provider.entities.get? e = some record →
    w.Held ⟨w.bridge.generation, e⟩ → record.refs = 1
  /-- An entity that is not held any more has none. -/
  refs_free : ∀ {e record}, w.provider.entities.get? e = some record →
    ¬w.Held ⟨w.bridge.generation, e⟩ → record.refs = 0

namespace Balanced

variable {w w' : World B} {deals : List Deal}

/-- What is held was taken. -/
theorem taken (h : w.Balanced deals) {k : Hold} (hk : w.Held k) :
    ∃ deal ∈ deals, deal.takes k = true := by
  have hcount := h.held hk
  refine List.countP_pos_iff.mp ?_
  omega

/-- Holders that stay as they are keep the books in balance while the provider rests. -/
theorem of_holds_iff (h : w.Balanced deals) (hpermanent : w'.permanent = w.permanent)
    (hsize : w.heap.size ≤ w'.heap.size) (hgeneration : w'.bridge.generation = w.bridge.generation)
    (hholds : ∀ {k r}, w'.Holds k r ↔ w.Holds k r) (hrests : w.provider.Rests w'.provider) :
    w'.Balanced deals := by
  have hheld : ∀ {k}, w'.Held k ↔ w.Held k := exists_congr fun r => hholds
  exact
    { permanent_le := by
        have hle := h.permanent_le
        omega
      permanent_le_id := fun hk => hpermanent ▸ h.permanent_le_id (hholds.mp hk)
      unique := fun hk hk' => h.unique (hholds.mp hk) (hholds.mp hk')
      known := fun hdeal htakes => by
        rw [hgeneration]
        exact (h.known hdeal htakes).imp_right fun hknown =>
          ⟨hknown.1, Nat.le_trans hknown.2 hrests.lastId_le⟩
      once := h.once
      held := fun hk => h.held (hheld.mp hk)
      free := fun hk => h.free fun hk' => hk (hheld.mpr hk')
      alive := fun {e record} hrecord => by
        obtain ⟨before, hbefore, -⟩ := hrests.refs e record hrecord
        exact hgeneration ▸ h.alive hbefore
      refs_held := fun {e record} hrecord hk => by
        rw [hgeneration, hheld] at hk
        obtain ⟨before, hbefore, heq⟩ := hrests.refs e record hrecord
        exact heq.trans (h.refs_held hbefore hk)
      refs_free := fun {e record} hrecord hk => by
        rw [hgeneration, hheld] at hk
        obtain ⟨before, hbefore, heq⟩ := hrests.refs e record hrecord
        exact heq.trans (h.refs_free hbefore hk) }

theorem quiet (h : w.Balanced deals) (hq : w.Quiet NoHold w') : w'.Balanced deals :=
  h.of_holds_iff hq.permanent hq.size_le hq.generation hq.holds_iff
    (hq.provider.symm ▸ .refl w.provider)

theorem turn (h : w.Balanced deals) (ht : w.Turns w') : w'.Balanced deals :=
  h.of_holds_iff ht.permanent (Nat.le_of_eq (congrArg Heap.size ht.heap.symm)) ht.generation
    ht.holds_iff ht.provider

/-- No hold was taken by a new bridge. -/
theorem rebuild (h : w.Balanced deals) (hb : w.Rebuilds w') : w'.Balanced deals := by
  have hheld : ∀ {k}, w'.Held k ↔ w.Held k := exists_congr fun r => hb.holds_iff
  have hnone : ∀ {e record}, w'.provider.entities.get? e = some record → False := by
    intro e record hrecord
    rw [hb.provider e] at hrecord
    exact absurd hrecord (by simp)
  exact
    { permanent_le := by
        rw [hb.permanent, hb.heap]
        exact h.permanent_le
      permanent_le_id := fun hk => hb.permanent ▸ h.permanent_le_id (hb.holds_iff.mp hk)
      unique := fun hk hk' => h.unique (hb.holds_iff.mp hk) (hb.holds_iff.mp hk')
      known := fun {k deal} hdeal htakes => by
        have hgeneration := hb.generation
        rcases h.known hdeal htakes with hlt | ⟨heq, -⟩
        · exact .inl (by omega)
        · exact .inl (by omega)
      once := h.once
      held := fun hk => h.held (hheld.mp hk)
      free := fun hk => h.free fun hk' => hk (hheld.mpr hk')
      alive := fun hrecord => (hnone hrecord).elim
      refs_held := fun hrecord _ => (hnone hrecord).elim
      refs_free := fun hrecord _ => (hnone hrecord).elim }

/-- An object that is no hold goes. -/
theorem lost (h : w.Balanced deals) {r : Ref} (hnone : w.capsuleAt r = none) :
    (w.discard r).Balanced deals := by
  have hsame := discard_lost hnone
  refine h.of_holds_iff (discard_permanent w r) ?_ hsame.2.1 ?_
    (hsame.1.symm ▸ .refl w.provider)
  · have hsize : (w.discard r).heap.size = w.heap.size := by
      rw [discard_heap, Heap.size, Heap.size, Heap.erase, Array.size_setIfInBounds]
    exact Nat.le_of_eq hsize.symm
  · intro k r'
    rw [discard_holds_iff, and_iff_left_iff_imp]
    intro hk he
    rw [Holds, he, hnone] at hk
    exact absurd hk (by simp)

/-- The hold on a new entity was never taken before. -/
theorem fresh (h : w.Balanced deals) {capsule : Capsule} (howes : w.Owes capsule w') :
    deals.countP (Deal.takes ⟨w.bridge.generation, capsule.handle⟩) = 0 := by
  refine List.countP_eq_zero.mpr fun deal hdeal htaken => ?_
  have hlt := howes.provider.fresh
  rcases h.known hdeal htaken with hgeneration | ⟨-, hle⟩
  · exact absurd hgeneration (Nat.lt_irrefl _)
  · simp only at hle
    omega

/-- A new entity gets its capsule. -/
theorem made (h : w.Balanced deals) {capsule : Capsule} {node : Node B}
    (howes : w.Owes capsule w') (hbody : ObjectBody.capsule? node.body = some capsule) :
    World.Balanced (deals ++ [.made capsule]) { w' with heap := (w'.heap.alloc node).2 } := by
  obtain ⟨new, hnew⟩ : ∃ k : Hold, k = ⟨w.bridge.generation, capsule.handle⟩ := ⟨_, rfl⟩
  have hgains := howes.provider
  have hfresh := h.fresh howes
  have hhold := howes.hold
  have hholds := fun {k r} => howes.holds_iff hbody (k := k) (r := r)
  have hheld := fun {k} => howes.held_iff hbody (k := k)
  rw [← hnew] at hfresh hhold hholds hheld
  have hunheld : ¬w.Held new := fun hk => by
    have htaken := h.held hk
    omega
  have hother : ∀ {e}, e ≠ capsule.handle → (⟨w.bridge.generation, e⟩ : Hold) ≠ new := by
    rintro e he rfl
    exact he (congrArg Hold.entity hnew)
  have hpermanent := h.permanent_le
  exact
    { permanent_le := by
        show w'.permanent ≤ (w'.heap.alloc node).2.size
        have hmore : (w'.heap.alloc node).2.size = w'.heap.size + 1 := Array.size_push _
        have hsize := congrArg Heap.size howes.heap
        rw [howes.permanent]
        omega
      permanent_le_id := fun {k r} hk => by
        show w'.permanent ≤ r.id
        rw [howes.permanent]
        rcases hholds.mp hk with hold | ⟨-, rfl⟩
        · exact h.permanent_le_id hold
        · exact hpermanent
      unique := fun {k r r'} hk hk' => by
        -- no capsule was a hold on the new entity, so the old and the new ones do not mix
        rcases hholds.mp hk with hold | ⟨hnew, hr⟩ <;>
          rcases hholds.mp hk' with hold' | ⟨hnew', hr'⟩
        · exact h.unique hold hold'
        · exact absurd ⟨r, hnew' ▸ hold⟩ hunheld
        · exact absurd ⟨r', hnew ▸ hold'⟩ hunheld
        · exact hr.trans hr'.symm
      known := fun {k deal} hdeal htaken => by
        show k.generation < w'.bridge.generation ∨
          k.generation = w'.bridge.generation ∧ k.entity.id ≤ w'.provider.lastId
        rw [howes.generation]
        rcases List.mem_append.mp hdeal with hold | hlast
        · refine (h.known hold htaken).imp_right fun hknown => ⟨hknown.1, ?_⟩
          have hlt := hgains.fresh
          have hle := hgains.issued
          omega
        · rw [List.mem_singleton.mp hlast, Deal.takes, hhold, beq_iff_eq, Option.some.injEq] at htaken
          rw [← htaken, hnew]
          exact .inr ⟨rfl, hgains.issued⟩
      once := fun k => by
        have honce := h.once k
        rw [Deal.countP_takes_made, hhold]
        split
        · rename_i hk
          have hnone : deals.countP (Deal.takes k) = 0 := Option.some.inj hk ▸ hfresh
          omega
        · exact honce
      held := fun {k} hk => by
        rw [Deal.countP_takes_made, Deal.countP_givesBack_made, hhold]
        split
        · rename_i hsame
          rw [← Option.some.inj hsame, ← h.free hunheld, hfresh]
        · rename_i hdiffers
          exact h.held ((hheld.mp hk).resolve_right fun hk => hdiffers (congrArg some hk.symm))
      free := fun {k} hk => by
        rw [hheld, not_or] at hk
        rw [Deal.countP_takes_made, Deal.countP_givesBack_made, hhold,
          if_neg fun hsame => hk.2 (Option.some.inj hsame).symm]
        exact h.free hk.1
      alive := fun {e record} hrecord => by
        rw [show (World.bridge _).generation = w.bridge.generation from howes.generation]
        by_cases he : e = capsule.handle
        · refine ⟨.made capsule, List.mem_append_right _ (List.mem_singleton.mpr rfl), ?_⟩
          rw [he, ← hnew, Deal.takes, hhold]
          exact beq_self_eq_true _
        · obtain ⟨before, hbefore, -⟩ := hgains.others e he record hrecord
          obtain ⟨deal, hdeal, htaken⟩ := h.alive hbefore
          exact ⟨deal, List.mem_append_left _ hdeal, htaken⟩
      refs_held := fun {e record} hrecord hk => by
        by_cases he : e = capsule.handle
        · obtain ⟨found, hfound, hone⟩ := hgains.alive
          rw [he, hfound] at hrecord
          exact Option.some.inj hrecord ▸ hone
        · obtain ⟨before, hbefore, heq⟩ := hgains.others e he record hrecord
          rw [show (World.bridge _).generation = w.bridge.generation from howes.generation] at hk
          exact heq.trans (h.refs_held hbefore ((hheld.mp hk).resolve_right (hother he)))
      refs_free := fun {e record} hrecord hk => by
        rw [show (World.bridge _).generation = w.bridge.generation from howes.generation] at hk
        rw [hheld, not_or] at hk
        have he : e ≠ capsule.handle := fun he => hk.2 (by rw [hnew, he])
        obtain ⟨before, hbefore, heq⟩ := hgains.others e he record hrecord
        exact heq.trans (h.refs_free hbefore hk.1) }

/-- A capsule goes. -/
theorem gone (h : w.Balanced deals) {r : Ref} {capsule : Capsule}
    (hsome : w.capsuleAt r = some capsule) :
    World.Balanced (deals ++ [.gone capsule]) (w.discard r) := by
  have hheld : ∀ {k}, (w.discard r).Held k ↔ w.Held k ∧ capsule.hold? ≠ some k := by
    intro k
    constructor
    · rintro ⟨r', hr'⟩
      obtain ⟨hr', hne⟩ := discard_holds_iff.mp hr'
      refine ⟨⟨r', hr'⟩, fun hk => hne (h.unique hr' ?_)⟩
      rw [Holds, hsome]
      exact hk
    · rintro ⟨⟨r', hr'⟩, hk⟩
      refine ⟨r', discard_holds_iff.mpr ⟨hr', fun he => hk ?_⟩⟩
      rw [he, Holds, hsome] at hr'
      exact hr'
  obtain ⟨hgeneration, -, hlast, hrefs⟩ := discard_gone hsome
  exact
    { permanent_le := by
        rw [discard_permanent, discard_heap, Heap.size, Heap.erase, Array.size_setIfInBounds]
        exact h.permanent_le
      permanent_le_id := fun hk => by
        rw [discard_permanent]
        exact h.permanent_le_id (discard_holds_iff.mp hk).1
      unique := fun hk hk' => h.unique (discard_holds_iff.mp hk).1 (discard_holds_iff.mp hk').1
      known := fun {k deal} hdeal htaken => by
        rw [hgeneration, hlast]
        rcases List.mem_append.mp hdeal with hold | hnew
        · exact h.known hold htaken
        · rw [List.mem_singleton.mp hnew] at htaken
          exact absurd htaken (by simp [Deal.takes])
      once := fun k => by
        rw [Deal.countP_takes_gone]
        exact h.once k
      held := fun {k} hk => by
        obtain ⟨hold, hother⟩ := hheld.mp hk
        rw [Deal.countP_takes_gone, Deal.countP_givesBack_gone, if_neg hother]
        exact h.held hold
      free := fun {k} hk => by
        rw [Deal.countP_takes_gone, Deal.countP_givesBack_gone]
        split
        · rename_i hsame
          -- the capsule that goes was the hold
          exact h.held ⟨r, by rw [Holds, hsome]; exact hsame⟩
        · rename_i hother
          exact h.free fun hold => hk (hheld.mpr ⟨hold, hother⟩)
      alive := fun {e record} hrecord => by
        obtain ⟨before, hbefore, -⟩ := hrefs e record hrecord
        obtain ⟨deal, hdeal, htaken⟩ := h.alive hbefore
        exact ⟨deal, List.mem_append_left _ hdeal, hgeneration ▸ htaken⟩
      refs_held := fun {e record} hrecord hk => by
        rw [hgeneration] at hk
        obtain ⟨hold, hother⟩ := hheld.mp hk
        obtain ⟨before, hbefore, heq⟩ := hrefs e record hrecord
        rw [if_neg hother] at heq
        exact heq.trans (h.refs_held hbefore hold)
      refs_free := fun {e record} hrecord hk => by
        rw [hgeneration] at hk
        obtain ⟨before, hbefore, heq⟩ := hrefs e record hrecord
        split at heq
        · rename_i hsame
          rw [heq, h.refs_held hbefore ⟨r, by rw [Holds, hsome]; exact hsame⟩]
        · rename_i hother
          exact heq.trans (h.refs_free hbefore fun hold => hk (hheld.mpr ⟨hold, hother⟩)) }

end Balanced

/-- The books balance along a trail. -/
theorem Trail.balanced {w w' : World B} {past deals : List Deal} (hpast : w.Balanced past)
    (h : w.Trail deals w') : w'.Balanced (past ++ deals) := by
  induction h with
  | start => exact (List.append_nil past).symm ▸ hpast
  | quiet _ hq ih => exact ih.quiet hq
  | turn _ ht ih => exact ih.turn ht
  | rebuild _ hb ih => exact ih.rebuild hb
  | made _ howes hbody ih => exact List.append_assoc .. ▸ ih.made howes hbody
  | lost _ _ _ hnone ih => exact ih.lost hnone
  | gone _ _ _ hsome ih => exact List.append_assoc .. ▸ ih.gone hsome

/-- The observer is told of every capsule that goes, and of nothing else. -/
theorem Trail.releases {w w' : World B} {deals : List Deal} (h : w.Trail deals w') :
    w'.releases = w.releases ++ deals.flatMap Deal.note := by
  induction h with
  | start => exact (List.append_nil _).symm
  | quiet _ hq ih => exact hq.releases.trans ih
  | turn _ ht ih => exact ht.releases.trans ih
  | rebuild _ hb ih => exact hb.releases.trans ih
  | made _ howes _ ih =>
      rw [List.flatMap_append]
      exact (howes.releases.trans ih).trans (by simp [Deal.note])
  | @lost deals w₁ r _ _ _ hnone ih => exact (discard_lost hnone).2.2.trans ih
  | gone _ _ _ hsome ih =>
      rw [List.flatMap_append, ← List.append_assoc, ← ih]
      exact (discard_gone hsome).2.1.trans (by simp [Deal.note])

end World

end DdsBridge
