import DdsBridge.Proofs.Provider.Conditions

/-!
# Topics and registered types

A topic is checked once, when it is created: its type has to be registered on the participant, and
no other topic of the participant may have the same name and another type. Nothing checks this
again. It stays true because no operation takes a registered type back, and because the only other
way for an entity to come in is as something that is no topic.

* **`State.Retains`** — an entity that is still there, with what is registered on it.
* **`State.Admits`**, **`perform_admits`** — how entities come and go.
* **`State.Enrolled`**, **`enrolled_of_reachable`** — every topic has a registered type, and one
  name has one type.
-/

namespace DdsBridge.Provider

/-- The type names registered on a participant. -/
def Body.types : Body → List String
  | .participant _ types => types
  | _ => []

/-- What an entity is and the type names it has registered. -/
def Record.entry (r : Record) : Profile × List String := (r.profile, r.body.types)

namespace State

variable {s s' s₁ : State}

theorem typesOf_eq (s : State) (p : Handle) :
    s.typesOf p = ((s.entities.get? p).map fun r => r.body.types).getD [] := by
  unfold typesOf
  cases hr : s.entities.get? p with
  | none => rfl
  | some r =>
      obtain ⟨_, _, _, _, _, _, body⟩ := r
      cases body <;> rfl

/-! ## Registered types are never lost -/

theorem entry_ignoresTraffic : IgnoresTraffic Record.entry := by
  refine ⟨fun _ _ => ⟨rfl, rfl⟩, fun r x _ hx => ?_, fun r w _ hw => ?_, fun r x _ hx => ?_⟩
  · simp [Record.entry, Record.profile, hx, Body.role, Body.types]
  · simp [Record.entry, Record.profile, hw, Body.role, Body.types]
  · simp [Record.entry, Record.profile, hx, Body.role, Body.types]

/-- If an entity is there afterwards, it was there before as what it is now, and the type names
registered on it are registered still. -/
def Retains (s s' : State) (h : Handle) : Prop :=
  ∀ r', s'.entities.get? h = some r' →
    ∃ r, s.entities.get? h = some r ∧ r'.profile = r.profile ∧ r.body.types ⊆ r'.body.types

/-- An entity was there before, or it is the new one; if it is a new topic, its type is registered
and its participant has no topic of that name with another type. -/
def Admits (s s' : State) : Prop :=
  ∀ h, s.Retains s' h ∨ (h = s.next ∧ ∀ p g name typeName,
    s'.profile h = some ⟨p, g, .topic name typeName⟩ →
      typeName ∈ s.typesOf p ∧ s.topicClashes p name typeName = false)

theorem Agree.retains (ha : Agree Record.entry s s') (h : Handle) : s.Retains s' h := by
  intro r' hr'
  have hlook := ha.look h
  rw [hr', Option.map_some] at hlook
  obtain ⟨r, hr, hsame⟩ := Option.map_eq_some_iff.mp hlook.symm
  obtain ⟨hprofile, htypes⟩ := Prod.mk.inj hsame
  exact ⟨r, hr, hprofile.symm, fun _ hmem => htypes ▸ hmem⟩

theorem Retains.refl (s : State) (h : Handle) : s.Retains s h := (Agree.refl _ s).retains h

theorem Retains.trans {h : Handle} (hr : s.Retains s₁ h) (hr' : s₁.Retains s' h) :
    s.Retains s' h := by
  intro r' hfound'
  obtain ⟨r₁, hfound₁, hprofile', htypes'⟩ := hr' r' hfound'
  obtain ⟨r, hfound, hprofile, htypes⟩ := hr r₁ hfound₁
  exact ⟨r, hfound, hprofile'.trans hprofile, fun _ hmem => htypes' (htypes hmem)⟩

theorem Retains.removed (s : State) (gone : List Handle) (h : Handle) :
    s.Retains (gone.foldl remove s) h := by
  intro r' hr'
  rw [foldl_remove_get?] at hr'
  split at hr'
  · cases hr'
  · exact ⟨r', hr', rfl, fun _ hmem => hmem⟩

namespace Admits

theorem of_retains (hr : ∀ h, s.Retains s' h) : s.Admits s' := fun h => .inl (hr h)

theorem of_agree (ha : Agree Record.entry s s') : s.Admits s' := of_retains ha.retains

theorem of_entities (he : s'.entities = s.entities) : s.Admits s' :=
  of_retains fun _ r' hr' => ⟨r', he ▸ hr', rfl, fun _ hmem => hmem⟩

theorem refl (s : State) : s.Admits s := of_retains (.refl s)

/-- A new entity; what is asked of a new topic is asked of its role. -/
theorem insert (kind : EntityKind) (participant parent : Option Handle) {body : Body}
    (htopic : ∀ name typeName, body.role = .topic name typeName →
      typeName ∈ s.typesOf (participant.getD s.next) ∧
        s.topicClashes (participant.getD s.next) name typeName = false) :
    s.Admits (s.insert kind participant parent body).2 := by
  intro h
  by_cases hnew : h = s.next
  · refine .inr ⟨hnew, fun p g name typeName hp => ?_⟩
    rw [insert_profile, if_pos hnew] at hp
    simp only [Option.some.injEq, Profile.mk.injEq] at hp
    obtain ⟨rfl, -, hrole⟩ := hp
    exact htopic name typeName hrole
  · refine .inl fun r' hr' => ⟨r', ?_, rfl, fun _ hmem => hmem⟩
    rw [insert_get?, if_neg hnew] at hr'
    exact hr'

/-- What is created that is no endpoint. -/
theorem created {operation : Operation} {p : Option Handle} {body : Body}
    (hcreates : s.Creates operation p body) : s.Admits (s.insert body.kind p p body).2 := by
  refine insert body.kind p p fun name typeName hrole => ?_
  cases hcreates with
  | topic hget hregistered hclash =>
      obtain ⟨rfl, rfl⟩ := Role.topic.inj hrole
      exact ⟨hregistered, hclash⟩
  | _ => cases hrole

theorem then_agree (h : s.Admits s₁) (ha : Agree Record.entry s₁ s') : s.Admits s' := by
  intro k
  rcases h k with hretains | ⟨hnew, htopic⟩
  · exact .inl (hretains.trans (ha.retains k))
  · refine .inr ⟨hnew, fun p g name typeName hp => htopic p g name typeName ?_⟩
    exact ((ha.map Prod.fst).look k).symm.trans hp

theorem joined (s : State) (side : Side) (p g t : Handle) (qos : EndpointQos) :
    s.Admits ((s.withEndpoint side p g t qos).discover s.next) := by
  have hnew : s.Admits (s.withEndpoint side p g t qos) :=
    insert side.kind (some p) (some g) fun name typeName hrole => by cases side <;> cases hrole
  exact hnew.then_agree (agree_discover entry_ignoresTraffic _ _)

theorem deleteAll (s : State) (doomed : List Handle) : s.Admits (s.deleteAll doomed) :=
  of_retains fun h =>
    ((agree_unmatchAll entry_ignoresTraffic s doomed doomed).retains h).trans (.removed _ doomed h)

theorem release (s : State) (h : Handle) : s.Admits (s.release h) := by
  unfold State.release
  split
  · exact refl s
  · have hgiven : Agree Record.entry s
        (s.modifyEntity h fun r => { r with refs := r.refs - 1 }) :=
      agree_modifyEntity s h fun _ => rfl
    dsimp only
    split
    · exact of_retains fun k => (hgiven.retains k).trans (.removed _ [h] k)
    · exact of_agree hgiven

theorem register (s : State) (p : Handle) (typeName : String) :
    s.Admits (s.modifyEntity p (Record.register typeName)) := by
  refine of_retains fun h r' hr' => ?_
  rw [modifyEntity_get?] at hr'
  split at hr'
  · obtain ⟨r, hr, rfl⟩ := Option.map_eq_some_iff.mp hr'
    refine ⟨r, hr, ?_⟩
    obtain ⟨_, _, _, _, _, _, body⟩ := r
    cases body with
    | participant domain types =>
        exact ⟨rfl, fun _ hmem => List.mem_insert_of_mem hmem⟩
    | _ => exact ⟨rfl, fun _ hmem => hmem⟩
  · exact ⟨r', hr', rfl, fun _ hmem => hmem⟩

theorem statusCondition {e : Handle} {c : ConditionId}
    (hok : s.statusCondition e = (.ok c, s')) : s.Admits s' := by
  rcases statusCondition_eq_ok hok with ⟨-, rfl⟩ | ⟨-, -, -, rfl⟩
  · exact refl _
  · have hmod : Agree Record.entry s (s.modifyEntity e fun r => { r with condition := some c }) :=
      agree_modifyEntity s e fun _ => rfl
    exact of_retains hmod.retains

end Admits

/-- No operation makes a participant lose a registered type, and a topic is created only if its
type is registered and agrees with the topics of the same name. -/
theorem perform_admits (isFile : String → Bool) (s : State) (operation : Operation) :
    s.Admits (s.perform isFile operation).2 := by
  by_cases hbeside : operation.isBeside = true
  · exact .of_entities (perform_beside hbeside isFile s).1
  · have hcase := perform_cases isFile s operation
    generalize s.perform isFile operation = result at hcase ⊢
    cases hcase with
    | refused => exact .refl s
    | created hready hcreates => exact .created hcreates
    | joined => exact .joined s _ _ _ _ _
    | cleared => exact .deleteAll s _
    | registered => exact .register s _ _
    | wrote hok =>
        refine .of_agree (agree_write_of entry_ignoresTraffic.raised entry_ignoresTraffic.queue
          (fun r x history hx => ?_) hok)
        simp [Record.entry, Record.profile, hx, Body.role, Body.types]
    | took r =>
        exact .of_agree (agree_take entry_ignoresTraffic.raised entry_ignoresTraffic.queue s r)
    | asked hok => exact .statusCondition hok
    | @listened h =>
        refine .of_agree (agree_modifyReader s h fun r x hx => ?_)
        simp [Record.entry, Record.profile, hx, Body.role, Body.types]
    | released h => exact .release s h
    | relisted order => exact .of_agree (agree_relist _ s order)
    | _ => exact absurd rfl hbeside

/-! ## Topics and their types -/

/-- Every topic has a type that is registered on its participant, and topics of one participant
with one name have one type. -/
structure Enrolled (s : State) : Prop where
  registered : ∀ {h p g name typeName}, s.profile h = some ⟨p, g, .topic name typeName⟩ →
    typeName ∈ s.typesOf p
  oneType : ∀ {h k p g g' name typeName typeName'},
    s.profile h = some ⟨p, g, .topic name typeName⟩ →
    s.profile k = some ⟨p, g', .topic name typeName'⟩ → typeName = typeName'

/-- A participant that stays keeps its registered types. -/
theorem Admits.typesOf (ha : s.Admits s') (hwf : s.WellFormed) {p : Handle} {pr pr' : Profile}
    (hp : s.profile p = some pr) (hp' : s'.profile p = some pr') :
    s.typesOf p ⊆ s'.typesOf p := by
  rcases ha p with hretains | ⟨hnew, -⟩
  · obtain ⟨r', hr', -⟩ := profile_eq_some_iff.mp hp'
    obtain ⟨r, hr, -, htypes⟩ := hretains r' hr'
    rw [typesOf_eq, typesOf_eq, hr, hr']
    exact htypes
  · exact absurd hnew (hwf.ne_fresh hp)

theorem Retains.profile {h : Handle} {pr : Profile} (hr : s.Retains s' h)
    (hp : s'.profile h = some pr) : s.profile h = some pr := by
  obtain ⟨r', hr', rfl⟩ := profile_eq_some_iff.mp hp
  obtain ⟨r, hr, hsame, -⟩ := hr r' hr'
  exact profile_eq_some_iff.mpr ⟨r, hr, hsame.symm⟩

/-- The check for another type of the same name looks at all topics of the participant. -/
theorem topicClashes_eq_false {p h : Handle} {g : Option Handle} {name typeName typeName' : String}
    (hclash : s.topicClashes p name typeName = false)
    (hh : s.profile h = some ⟨p, g, .topic name typeName'⟩) : typeName = typeName' := by
  obtain ⟨r, hr, hpr⟩ := profile_eq_some_iff.mp hh
  obtain ⟨_, participant, parent, _, _, _, body⟩ := r
  have hentry := List.any_eq_false.mp hclash _ (Table.mem_entries_iff.mpr hr)
  cases body with
  | topic name' typeName'' =>
      simp only [Record.profile, Body.role, Profile.mk.injEq, Role.topic.injEq] at hpr
      obtain ⟨rfl, -, rfl, rfl⟩ := hpr
      have hsame : typeName'' = typeName := by simpa using hentry
      exact hsame.symm
  | _ => simp [Record.profile, Body.role] at hpr

theorem Enrolled.admits (he : s.Enrolled) (hwf : s.WellFormed) (hwf' : s'.WellFormed)
    (ha : s.Admits s') : s'.Enrolled := by
  constructor
  · intro h p g name typeName hh
    obtain ⟨-, d', hp'⟩ := hwf'.of_topic hh
    have hbefore : typeName ∈ s.typesOf p := by
      rcases ha h with hretains | ⟨-, htopic⟩
      · exact he.registered (hretains.profile hh)
      · exact (htopic p g name typeName hh).1
    -- something is registered on the participant, so it was there before
    have hlive : ∃ pr, s.profile p = some pr := by
      cases hr : s.entities.get? p with
      | none => simp [typesOf_eq, hr] at hbefore
      | some r => exact ⟨r.profile, profile_of_get? hr⟩
    obtain ⟨pr, hp⟩ := hlive
    exact ha.typesOf hwf hp hp' hbefore
  · intro h k p g g' name typeName typeName' hh hk
    rcases ha h with hretains | ⟨rfl, htopic⟩
    · have hh₀ := hretains.profile hh
      rcases ha k with hretains' | ⟨-, htopic'⟩
      · exact he.oneType hh₀ (hretains'.profile hk)
      · exact (topicClashes_eq_false (htopic' _ _ _ _ hk).2 hh₀).symm
    · rcases ha k with hretains' | ⟨rfl, -⟩
      · exact topicClashes_eq_false (htopic _ _ _ _ hh).2 (hretains'.profile hk)
      · rw [hh] at hk
        simp only [Option.some.injEq, Profile.mk.injEq, Role.topic.injEq] at hk
        exact hk.2.2.2

theorem enrolled_of_reachable {isFile : String → Bool} (hreach : Reachable isFile s) :
    s.Enrolled := by
  induction hreach with
  | new maxSamples => constructor <;> intros <;> simp_all [State.profile, State.new]
  | step before operation ih =>
      have hwf := wellFormed_of_reachable before
      exact ih.admits hwf (wellFormed_perform hwf isFile operation)
        (perform_admits isFile _ operation)

end State

end DdsBridge.Provider
