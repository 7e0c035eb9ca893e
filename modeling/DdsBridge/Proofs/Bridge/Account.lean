import DdsBridge.Proofs.Bridge.Course
import DdsBridge.Proofs.Bridge.Holds

/-!
# The account of one capsule

A capsule that was just made is the only hold on its entity. While nothing is made for other
entities, it is followed on a trail on which capsules only go: as long as it is there the entity has
one holder, and once it is gone the entity has none and the hold was given back once.

* **`World.Trail.comes`** — an entity that comes on a trail is taken hold of there.
* **`World.Sheds`** — nothing is dealt but that capsules go.
* **`World.Account`** — what is known of one capsule and its entity.
* **`World.sheds_steady`**, **`World.accounts_steady`** — both are kept by everything that steady
  relations allow for.
-/

namespace DdsBridge

namespace Deal

variable {capsule : Capsule} {gone : List Capsule} {k : Hold}

/-- Capsules that go take no hold. -/
theorem not_takes_gone {deal : Deal} (h : deal ∈ gone.map Deal.gone) : deal.takes k = false := by
  obtain ⟨capsule, -, rfl⟩ := List.mem_map.mp h
  rfl

/-- Where one capsule is made and others go, no hold is taken but the one that this capsule is. -/
theorem takes_made_only (hcapsule : capsule.hold? = some k) {k' : Hold} {deal : Deal}
    (hdeal : deal ∈ .made capsule :: gone.map Deal.gone) (htaken : deal.takes k' = true) :
    k' = k := by
  rcases List.mem_cons.mp hdeal with rfl | hgone
  · rw [takes, hcapsule, beq_iff_eq] at htaken
    exact (Option.some.inj htaken).symm
  · exact absurd htaken (by rw [not_takes_gone hgone]; decide)

end Deal

namespace World

variable {B : Type} [ObjectBody B] {w w' : World B} {deals : List Deal}

/-- An entity that is there after a trail was there before it, or was taken hold of on it. -/
theorem Trail.comes (h : w.Trail deals w') {e : Handle} {record : Provider.Record}
    (hrecord : w'.provider.entities.get? e = some record) :
    (∃ before, w.provider.entities.get? e = some before) ∨
      ∃ deal ∈ deals, deal.takes ⟨w'.bridge.generation, e⟩ = true := by
  -- an entity that is there in the end is followed back to where the trail starts
  induction h generalizing record with
  | start => exact .inl ⟨record, hrecord⟩
  | quiet _ hq ih =>
      rw [hq.provider] at hrecord
      exact hq.generation ▸ ih hrecord
  | turn _ ht ih =>
      obtain ⟨before, hbefore, -⟩ := ht.provider.refs e record hrecord
      exact ht.generation ▸ ih hbefore
  | rebuild _ hb =>
      rw [hb.provider e] at hrecord
      exact absurd hrecord (by simp)
  | @made deals w₁ w₂ capsule node _ howes _ ih =>
      change _ ∨ ∃ deal ∈ _, Deal.takes ⟨w₂.bridge.generation, e⟩ deal = true
      rw [howes.generation]
      by_cases he : e = capsule.handle
      · refine .inr ⟨.made capsule, List.mem_append_right _ (List.mem_singleton.mpr rfl), ?_⟩
        rw [Deal.takes, howes.hold, he]
        exact beq_self_eq_true _
      · obtain ⟨before, hbefore, -⟩ := howes.provider.others e he record hrecord
        refine (ih hbefore).imp_right ?_
        rintro ⟨deal, hdeal, htaken⟩
        exact ⟨deal, List.mem_append_left _ hdeal, htaken⟩
  | lost _ _ _ hnone ih =>
      obtain ⟨hprovider, hgeneration, -⟩ := discard_lost hnone
      rw [hprovider] at hrecord
      exact hgeneration ▸ ih hrecord
  | gone _ _ _ hsome ih =>
      obtain ⟨hgeneration, -, -, hrefs⟩ := discard_gone hsome
      obtain ⟨before, hbefore, -⟩ := hrefs e record hrecord
      rw [hgeneration]
      refine (ih hbefore).imp_right ?_
      rintro ⟨deal, hdeal, htaken⟩
      exact ⟨deal, List.mem_append_left _ hdeal, htaken⟩

/-! ## Trails on which capsules only go -/

/-- What happens to a world is followed on a trail on which capsules go and none is made. -/
def Sheds (w w' : World B) : Prop := ∃ gone : List Capsule, w.Trail (gone.map Deal.gone) w'

theorem Sheds.trans {w₁ w₂ : World B} (h : w.Sheds w₁) (h' : w₁.Sheds w₂) : w.Sheds w₂ := by
  obtain ⟨gone, htrail⟩ := h
  obtain ⟨more, hmore⟩ := h'
  exact ⟨gone ++ more, List.map_append ▸ htrail.append hmore⟩

theorem sheds_steady : World.Steady NoHold AnyName (Sheds : World B → World B → Prop) where
  trans := Sheds.trans
  quiet h := ⟨[], .quiet .start h.toQuiet⟩
  discard {w r} hpermanent hfree := by
    cases hcapsule : w.capsuleAt r with
    | none => exact ⟨[], .lost .start hpermanent hfree hcapsule⟩
    | some capsule => exact ⟨[capsule], .gone .start hpermanent hfree hcapsule⟩

theorem Sheds.turn (h : w.Turns w') : w.Sheds w' := ⟨[], .turn .start h⟩

/-- No entity comes. -/
theorem Sheds.before (h : w.Sheds w') {e : Handle} {record : Provider.Record}
    (hrecord : w'.provider.entities.get? e = some record) :
    ∃ before, w.provider.entities.get? e = some before := by
  obtain ⟨gone, htrail⟩ := h
  refine (htrail.comes hrecord).resolve_right ?_
  rintro ⟨deal, hdeal, htaken⟩
  exact absurd htaken (by rw [Deal.not_takes_gone hdeal]; decide)

/-! ## Accounts -/

/-- A hold on an entity was taken once and given back once, and nobody holds the entity, which is
there. -/
structure GivenUp (deals : List Deal) (k : Hold) (w : World B) : Prop where
  taken : deals.countP (Deal.takes k) = 1
  givenBack : deals.countP (Deal.givesBack k) = 1
  refs : ∃ record, w.provider.entities.get? k.entity = some record ∧ record.refs = 0

/-- What is known of a hold, the one object that can be this hold, and the entity, which is no
participant, after some deals. -/
structure Account (kind : EntityKind) (k : Hold) (r : Ref) (deals : List Deal) (w : World B) :
    Prop where
  generation : w.bridge.generation = k.generation
  only : ∀ {r'}, w.Holds k r' → r' = r
  entity : ∃ record, w.provider.entities.get? k.entity = some record ∧ record.kind = kind ∧
    (w.Holds k r → record.refs = 1) ∧ (¬w.Holds k r → record.refs = 0)
  held : w.Holds k r → deals.countP (Deal.givesBack k) = 0
  free : ¬w.Holds k r → deals.countP (Deal.givesBack k) = 1

variable {kind : EntityKind} {k : Hold} {r : Ref}

/-- Nothing happens to the hold and to the entity. -/
theorem Account.of_holds_iff (h : w.Account kind k r deals)
    (hgeneration : w'.bridge.generation = w.bridge.generation)
    (hholds : ∀ {r'}, w'.Holds k r' ↔ w.Holds k r')
    (hentity : w'.provider.entities.get? k.entity = w.provider.entities.get? k.entity) :
    w'.Account kind k r deals where
  generation := hgeneration.trans h.generation
  only hk := h.only (hholds.mp hk)
  entity := by
    rw [hentity, hholds]
    exact h.entity
  held hk := h.held (hholds.mp hk)
  free hk := h.free fun hk' => hk (hholds.mpr hk')

/-- An object that is no capsule goes. -/
theorem Account.lost (h : w.Account kind k r deals) {x : Ref} (hnone : w.capsuleAt x = none) :
    (w.discard x).Account kind k r deals := by
  obtain ⟨hprovider, hgeneration, -⟩ := discard_lost hnone
  refine h.of_holds_iff hgeneration (fun {r'} => ?_) (by rw [hprovider])
  rw [discard_holds_iff, and_iff_left_iff_imp]
  rintro hk rfl
  rw [Holds, hnone] at hk
  exact absurd hk (by simp)

/-- A capsule goes: another one, or the one that is the hold. -/
theorem Account.gone (h : w.Account kind k r deals) (hkind : kind ≠ .participant) {x : Ref}
    {capsule : Capsule} (hsome : w.capsuleAt x = some capsule) :
    (w.discard x).Account kind k r (deals ++ [.gone capsule]) := by
  have hx : w.Holds k x ↔ capsule.hold? = some k := by
    rw [Holds, hsome]
    rfl
  obtain ⟨record, hrecord, hrecordKind, hrefsHeld, hrefsFree⟩ := h.entity
  obtain ⟨hgeneration, -, -, hless⟩ := discard_gone hsome
  obtain ⟨record', hrecord', hsameKind⟩ :=
    (w.discard_idles x).stays hrecord (hrecordKind ▸ hkind)
  obtain ⟨before, hbefore, hrefs⟩ := hless _ _ hrecord'
  cases hrecord.symm.trans hbefore
  rw [h.generation] at hrefs
  by_cases hhold : capsule.hold? = some k
  · -- the object that goes is the hold, so no object is it any more
    have hheld := hx.mpr hhold
    cases h.only hheld
    have hnone : ¬(w.discard r).Holds k r := fun hk => (discard_holds_iff.mp hk).2 rfl
    refine ⟨hgeneration.trans h.generation, fun hk => h.only (discard_holds_iff.mp hk).1,
      ⟨record', hrecord', hsameKind.trans hrecordKind, fun hk => absurd hk hnone, fun _ => ?_⟩,
      fun hk => absurd hk hnone, fun _ => ?_⟩
    · rw [hrefs, if_pos hhold, hrefsHeld hheld]
    · rw [Deal.countP_givesBack_gone, if_pos hhold, h.held hheld]
  · -- the object that goes is no hold of this entity, so nothing counts for it
    have hholds : ∀ {r'}, (w.discard x).Holds k r' ↔ w.Holds k r' := by
      intro r'
      rw [discard_holds_iff, and_iff_left_iff_imp]
      rintro hk rfl
      exact hhold (hx.mp hk)
    rw [if_neg hhold] at hrefs
    refine ⟨hgeneration.trans h.generation, fun hk => h.only (hholds.mp hk),
      ⟨record', hrecord', hsameKind.trans hrecordKind, ?_, ?_⟩, ?_, ?_⟩
    · rw [hholds, hrefs]
      exact hrefsHeld
    · rw [hholds, hrefs]
      exact hrefsFree
    · rw [hholds, Deal.countP_givesBack_gone, if_neg hhold]
      exact h.held
    · rw [hholds, Deal.countP_givesBack_gone, if_neg hhold]
      exact h.free

/-- What happens is followed on a trail on which capsules go, and the account is kept along it. -/
def Accounts (kind : EntityKind) (k : Hold) (r : Ref) (w w' : World B) : Prop :=
  ∀ deals, w.Account kind k r deals →
    ∃ gone : List Capsule, w.Trail (gone.map Deal.gone) w' ∧
      w'.Account kind k r (deals ++ gone.map Deal.gone)

theorem accounts_steady (hkind : kind ≠ .participant) :
    World.Steady NoHold AnyName (Accounts kind k r : World B → World B → Prop) where
  trans h h' deals haccount := by
    obtain ⟨gone, htrail, hmiddle⟩ := h deals haccount
    obtain ⟨more, hmore, hlast⟩ := h' _ hmiddle
    refine ⟨gone ++ more, List.map_append ▸ htrail.append hmore, ?_⟩
    rwa [List.map_append, ← List.append_assoc]
  quiet h deals haccount := by
    refine ⟨[], .quiet .start h.toQuiet, ?_⟩
    rw [List.map_nil, List.append_nil]
    exact haccount.of_holds_iff h.generation h.holds_iff (by rw [h.provider])
  discard {w x} hpermanent hfree deals haccount := by
    cases hcapsule : w.capsuleAt x with
    | none =>
        refine ⟨[], .lost .start hpermanent hfree hcapsule, ?_⟩
        rw [List.map_nil, List.append_nil]
        exact haccount.lost hcapsule
    | some capsule =>
        exact ⟨[capsule], .gone .start hpermanent hfree hcapsule, haccount.gone hkind hcapsule⟩

/-- The account of a capsule that was just made, if no object was this hold before. -/
theorem Owes.account {capsule : Capsule} {node : Node B} (howes : w.Owes capsule w')
    (hbody : ObjectBody.capsule? node.body = some capsule)
    (hfresh : ¬w.Held ⟨w.bridge.generation, capsule.handle⟩)
    (hkind : ∀ record, w'.provider.entities.get? capsule.handle = some record →
      record.kind = kind) :
    World.Account kind ⟨w.bridge.generation, capsule.handle⟩ ⟨w.heap.size⟩ [.made capsule]
      { w' with heap := (w'.heap.alloc node).2 } := by
  have hholds := fun {r} => howes.holds_iff hbody
    (k := ⟨w.bridge.generation, capsule.handle⟩) (r := r)
  have hheld := hholds.mpr (.inr ⟨rfl, rfl⟩)
  obtain ⟨record, hrecord, hone⟩ := howes.provider.alive
  refine ⟨howes.generation, fun hk => ?_,
    ⟨record, hrecord, hkind record hrecord, fun _ => hone, fun hk => absurd hheld hk⟩, fun _ => rfl,
    fun hk => absurd hheld hk⟩
  rcases hholds.mp hk with hold | ⟨-, hr⟩
  · exact absurd ⟨_, hold⟩ hfresh
  · exact hr

/-- Once a capsule that was made is gone, its hold is given up. -/
theorem Account.givenUp {capsule : Capsule} {gone : List Capsule}
    (hcapsule : capsule.hold? = some k)
    (h : w.Account kind k r (.made capsule :: gone.map Deal.gone)) (hfree : ¬w.Holds k r) :
    w.GivenUp (.made capsule :: gone.map Deal.gone) k where
  taken := by
    have hrest : (gone.map Deal.gone).countP (Deal.takes k) = 0 :=
      List.countP_eq_zero.mpr fun _ hdeal => by
        rw [Deal.not_takes_gone hdeal]
        decide
    rw [List.countP_cons, hrest, Deal.takes, hcapsule, beq_self_eq_true]
    rfl
  givenBack := h.free hfree
  refs := by
    obtain ⟨record, hrecord, -, -, hrefs⟩ := h.entity
    exact ⟨record, hrecord, hrefs hfree⟩

end World

end DdsBridge
