import DdsBridge.Proofs.Provider.Views

/-!
# What never changes about an entity

An entity is created with a participant, a parent and a role, and keeps them until it goes. Its
matched peers come and go; together with the profile they are all that the matching of endpoints
is about. No status, sample, listener, condition or reference count is part of either.

* **`Profile`**, **`State.profile`** — the fixed part of a live entity.
* **`Record.stem`** — profile and stored kind: all that is fixed.
* **`Record.outline`** — stem and matched peers, the view that matching depends on.
* **`Record.core`** — all of a record but what neither matching nor delivery looks at.
* **`writer?_of_profile`**, **`reader?_of_profile`** — live endpoints are known by their profiles.
* **`insert_profile`**, **`State.Sheds`** — entities that come and go.
-/

namespace DdsBridge.Provider

/-- What an entity is created as. -/
inductive Role where
  | participant (domain : DomainId)
  | topic (name typeName : String)
  | publisher (partition : List String)
  | subscriber (partition : List String)
  | writer (topic : Handle) (qos : EndpointQos)
  | reader (topic : Handle) (qos : EndpointQos)
  deriving DecidableEq

/-- The role of a body: the body without what changes while the entity lives. -/
def Body.role : Body → Role
  | .participant domain _ => .participant domain
  | .topic name typeName => .topic name typeName
  | .publisher partition => .publisher partition
  | .subscriber partition => .subscriber partition
  | .writer w => .writer w.topic w.qos
  | .reader r => .reader r.topic r.qos

/-- The kind of an entity with a role. -/
def Role.kind : Role → EntityKind
  | .participant _ => .participant
  | .topic .. => .topic
  | .publisher _ => .publisher
  | .subscriber _ => .subscriber
  | .writer .. => .writer
  | .reader .. => .reader

theorem Body.role_kind (body : Body) : body.role.kind = body.kind := by
  cases body <;> rfl

/-- The topic that a role refers to. -/
def Role.topic? : Role → Option Handle
  | .writer t _ => some t
  | .reader t _ => some t
  | _ => none

/-- The endpoints that a body is matched with. -/
def Body.matched : Body → List Handle
  | .writer w => w.matched
  | .reader r => r.matched
  | _ => []

/-- The fixed part of an entity. -/
structure Profile where
  participant : Handle
  parent : Option Handle
  role : Role
  deriving DecidableEq

/-- The fixed part of a record. -/
def Record.profile (r : Record) : Profile := ⟨r.participant, r.parent, r.body.role⟩

/-- The fixed part of a record with the kind that is stored beside its body. -/
def Record.stem (r : Record) : EntityKind × Profile := (r.kind, r.profile)

/-- All that is fixed about a record, with the endpoints it is matched with. -/
def Record.outline (r : Record) : (EntityKind × Profile) × List Handle := (r.stem, r.body.matched)

/-- A body without the registered types and the listener. -/
def Body.core : Body → Body
  | .participant domain _ => .participant domain []
  | .reader r => .reader { r with listener := none }
  | body => body

/-- A record without its holders, its status condition, its registered types and its listener. No
sample and no match depends on these. -/
def Record.core (r : Record) : Record := { r with refs := 0, condition := none, body := r.body.core }

@[simp] theorem Record.outline_core (r : Record) : r.core.outline = r.outline := by
  obtain ⟨_, _, _, _, _, _, body⟩ := r
  cases body <;> rfl

namespace State

/-- States that agree in the core agree in every view of the core. -/
theorem Agree.of_core {β : Type} {view : Record → β} {s s' : State} (ha : Agree Record.core s s')
    (hv : ∀ r : Record, view r.core = view r) : Agree view s s' := by
  have hcomp : view ∘ Record.core = view := funext hv
  exact hcomp ▸ ha.map view

/-- The fixed part of a live entity. -/
def profile (s : State) (h : Handle) : Option Profile := (s.entities.get? h).map Record.profile

theorem profile_eq_some_iff {s : State} {h : Handle} {p : Profile} :
    s.profile h = some p ↔ ∃ r, s.entities.get? h = some r ∧ r.profile = p := by
  rw [profile, Option.map_eq_some_iff]

theorem profile_of_get? {s : State} {h : Handle} {r : Record}
    (hr : s.entities.get? h = some r) : s.profile h = some r.profile :=
  profile_eq_some_iff.mpr ⟨r, hr, rfl⟩

/-- A live entity has a profile. -/
theorem isAlive_iff_profile {s : State} {e : Handle} :
    s.isAlive e = true ↔ ∃ p, s.profile e = some p := by
  rw [← Option.isSome_iff_exists, profile, Option.isSome_map]
  rfl

theorem matchedWith_eq (s : State) (h : Handle) :
    s.matchedWith h = ((s.entities.get? h).map fun r => r.body.matched).getD [] := by
  unfold matchedWith
  cases hr : s.entities.get? h with
  | none => rfl
  | some r =>
      obtain ⟨_, _, _, _, _, _, body⟩ := r
      cases body <;> rfl

theorem matchedWith_of_get? {s : State} {h : Handle} {r : Record}
    (hr : s.entities.get? h = some r) : s.matchedWith h = r.body.matched := by
  rw [matchedWith_eq, hr]
  rfl

/-- What is seen of an entity whose body is known. -/
theorem exists_profile_of_body {s : State} {h : Handle} {r : Record} {body : Body}
    (hr : s.entities.get? h = some r) (hbody : r.body = body) :
    ∃ p g, s.profile h = some ⟨p, g, body.role⟩ ∧ s.matchedWith h = body.matched := by
  subst hbody
  exact ⟨r.participant, r.parent, profile_of_get? hr, matchedWith_of_get? hr⟩

/-- Agreement in all that is fixed. -/
theorem Agree.stem {s s' : State} (ha : Agree Record.outline s s') : Agree Record.stem s s' :=
  ha.map Prod.fst

theorem Agree.profile_of_stem {s s' : State} (ha : Agree Record.stem s s') :
    Agree Record.profile s s' := ha.map Prod.snd

theorem Agree.profile {s s' : State} (ha : Agree Record.outline s s') (h : Handle) :
    s'.profile h = s.profile h := ha.stem.profile_of_stem.look h

theorem Agree.matchedWith {s s' : State} (ha : Agree Record.outline s s') (h : Handle) :
    s'.matchedWith h = s.matchedWith h := by
  rw [matchedWith_eq, matchedWith_eq]
  exact congrArg (fun o => Option.getD o []) ((ha.map Prod.snd).look h)

/-! ## Writers and readers by their profiles -/

theorem writer?_eq_some_iff {s : State} {h : Handle} {w : Writer} :
    s.writer? h = some w ↔ ∃ r, s.entities.get? h = some r ∧ r.body = .writer w := by
  unfold writer?
  cases hr : s.entities.get? h with
  | none => simp only [Option.map_none, reduceCtorEq, false_and, exists_false]
  | some r =>
      obtain ⟨_, _, _, _, _, _, body⟩ := r
      cases body <;> simp only [Option.map_some, Option.some.injEq, exists_eq_left', reduceCtorEq,
        Body.writer.injEq]

theorem reader?_eq_some_iff {s : State} {h : Handle} {x : Reader} :
    s.reader? h = some x ↔ ∃ r, s.entities.get? h = some r ∧ r.body = .reader x := by
  unfold reader?
  cases hr : s.entities.get? h with
  | none => simp only [Option.map_none, reduceCtorEq, false_and, exists_false]
  | some r =>
      obtain ⟨_, _, _, _, _, _, body⟩ := r
      cases body <;> simp only [Option.map_some, Option.some.injEq, exists_eq_left', reduceCtorEq,
        Body.reader.injEq]

theorem body_of_writer? {s : State} {h : Handle} {w : Writer} {r : Record}
    (hw : s.writer? h = some w) (hr : s.entities.get? h = some r) : r.body = .writer w := by
  obtain ⟨r', hr', hbody⟩ := writer?_eq_some_iff.mp hw
  obtain rfl := Option.some.inj (hr.symm.trans hr')
  exact hbody

theorem body_of_reader? {s : State} {h : Handle} {x : Reader} {r : Record}
    (hx : s.reader? h = some x) (hr : s.entities.get? h = some r) : r.body = .reader x := by
  obtain ⟨r', hr', hbody⟩ := reader?_eq_some_iff.mp hx
  obtain rfl := Option.some.inj (hr.symm.trans hr')
  exact hbody

/-- Writers are no readers. -/
theorem reader?_eq_none_of_writer? {s : State} {h : Handle} {w : Writer}
    (hw : s.writer? h = some w) : s.reader? h = none := by
  obtain ⟨r, hr, hbody⟩ := writer?_eq_some_iff.mp hw
  simp [reader?, hr, hbody]

theorem Body.role_eq_writer {b : Body} {t : Handle} {q : EndpointQos} (h : b.role = .writer t q) :
    ∃ w, b = .writer w ∧ w.topic = t ∧ w.qos = q := by
  cases b with
  | writer w =>
      simp only [Body.role, Role.writer.injEq] at h
      exact ⟨w, rfl, h⟩
  | _ => simp [Body.role] at h

theorem Body.role_eq_reader {b : Body} {t : Handle} {q : EndpointQos} (h : b.role = .reader t q) :
    ∃ x, b = .reader x ∧ x.topic = t ∧ x.qos = q := by
  cases b with
  | reader x =>
      simp only [Body.role, Role.reader.injEq] at h
      exact ⟨x, rfl, h⟩
  | _ => simp [Body.role] at h

/-- A live writer is an entity with the role of a writer. -/
theorem writer?_profile {s : State} {h : Handle} {w : Writer} (hw : s.writer? h = some w) :
    ∃ p g, s.profile h = some ⟨p, g, .writer w.topic w.qos⟩ ∧ s.matchedWith h = w.matched := by
  obtain ⟨r, hr, hbody⟩ := writer?_eq_some_iff.mp hw
  exact exists_profile_of_body hr hbody

theorem reader?_profile {s : State} {h : Handle} {x : Reader} (hx : s.reader? h = some x) :
    ∃ p g, s.profile h = some ⟨p, g, .reader x.topic x.qos⟩ ∧ s.matchedWith h = x.matched := by
  obtain ⟨r, hr, hbody⟩ := reader?_eq_some_iff.mp hx
  exact exists_profile_of_body hr hbody

theorem writer?_of_profile {s : State} {h p : Handle} {g : Option Handle} {t : Handle}
    {q : EndpointQos} (hp : s.profile h = some ⟨p, g, .writer t q⟩) :
    ∃ w, s.writer? h = some w ∧ w.topic = t ∧ w.qos = q ∧ s.matchedWith h = w.matched := by
  obtain ⟨r, hr, hpr⟩ := profile_eq_some_iff.mp hp
  obtain ⟨w, hb, ht, hq⟩ := Body.role_eq_writer (congrArg Profile.role hpr)
  have hm : s.matchedWith h = w.matched := by
    rw [matchedWith_of_get? hr, hb]
    rfl
  exact ⟨w, writer?_eq_some_iff.mpr ⟨r, hr, hb⟩, ht, hq, hm⟩

theorem reader?_of_profile {s : State} {h p : Handle} {g : Option Handle} {t : Handle}
    {q : EndpointQos} (hp : s.profile h = some ⟨p, g, .reader t q⟩) :
    ∃ x, s.reader? h = some x ∧ x.topic = t ∧ x.qos = q ∧ s.matchedWith h = x.matched := by
  obtain ⟨r, hr, hpr⟩ := profile_eq_some_iff.mp hp
  obtain ⟨x, hb, ht, hq⟩ := Body.role_eq_reader (congrArg Profile.role hpr)
  have hm : s.matchedWith h = x.matched := by
    rw [matchedWith_of_get? hr, hb]
    rfl
  exact ⟨x, reader?_eq_some_iff.mpr ⟨r, hr, hb⟩, ht, hq, hm⟩

/-! ## Updates that leave the outline alone -/

theorem outline_ignoresRaised : IgnoresRaised Record.outline := fun _ _ => ⟨rfl, rfl⟩

theorem outline_ignoresQueue : IgnoresQueue Record.outline := by
  intro r x queue hx
  simp [Record.outline, Record.stem, Record.profile, hx, Body.role, Body.matched]

/-! ## New entities -/

/-- A new entity has the profile it was given, and no other entity changes. -/
theorem insert_profile (s : State) (kind : EntityKind) (participant parent : Option Handle)
    (body : Body) (k : Handle) :
    (s.insert kind participant parent body).2.profile k =
      if k = s.next then some ⟨participant.getD s.next, parent, body.role⟩
      else s.profile k := by
  unfold State.profile
  rw [insert_get?]
  split <;> rfl

theorem insert_matchedWith (s : State) (kind : EntityKind) (participant parent : Option Handle)
    (body : Body) (k : Handle) :
    (s.insert kind participant parent body).2.matchedWith k =
      if k = s.next then body.matched else s.matchedWith k := by
  rw [matchedWith_eq, matchedWith_eq, insert_get?]
  split <;> rfl

/-! ## Entities that go -/

/-- Removing some entities removes exactly these. -/
theorem foldl_remove_get? (s : State) (doomed : List Handle) (k : Handle) :
    (doomed.foldl remove s).entities.get? k =
      if k ∈ doomed then none else s.entities.get? k := by
  induction doomed generalizing s with
  | nil => simp
  | cons gone rest ih =>
      rw [List.foldl_cons, ih (s.remove gone), remove_get?]
      by_cases hk : k = gone <;> simp [hk]

theorem foldl_remove_matchedWith (s : State) (doomed : List Handle) (k : Handle) :
    (doomed.foldl remove s).matchedWith k = if k ∈ doomed then [] else s.matchedWith k := by
  rw [matchedWith_eq, matchedWith_eq, foldl_remove_get?]
  split <;> rfl

@[simp] theorem foldl_remove_maxSamples (s : State) (doomed : List Handle) :
    (doomed.foldl remove s).maxSamples = s.maxSamples := by
  induction doomed generalizing s with
  | nil => rfl
  | cons gone rest ih => rw [List.foldl_cons, ih, remove_maxSamples]

@[simp] theorem foldl_remove_lastId (s : State) (doomed : List Handle) :
    (doomed.foldl remove s).lastId = s.lastId := by
  induction doomed generalizing s with
  | nil => rfl
  | cons gone rest ih => rw [List.foldl_cons, ih, remove_lastId]

/-- What is removed leaves the stem of the rest as it was. -/
structure Sheds (s s' : State) (doomed : List Handle) : Prop where
  look : ∀ k, (s'.entities.get? k).map Record.stem =
    if k ∈ doomed then none else (s.entities.get? k).map Record.stem
  lastId_le : s.lastId ≤ s'.lastId

theorem Sheds.profile {s s' : State} {doomed : List Handle} (hsheds : s.Sheds s' doomed)
    (k : Handle) : s'.profile k = if k ∈ doomed then none else s.profile k := by
  have hlook := congrArg (Option.map Prod.snd) (hsheds.look k)
  rw [apply_ite (Option.map Prod.snd), Option.map_map, Option.map_map] at hlook
  exact hlook

theorem foldl_remove_sheds (s : State) (doomed : List Handle) :
    s.Sheds (doomed.foldl remove s) doomed where
  look k := by
    rw [foldl_remove_get?]
    split <;> rfl
  lastId_le := Nat.le_of_eq (foldl_remove_lastId s doomed).symm

/-- Agreement before and after a removal. -/
theorem Sheds.of_agree {s s₁ s₂ s' : State} {doomed : List Handle} (hbefore : Agree Record.stem s s₁)
    (hsheds : s₁.Sheds s₂ doomed) (hafter : Agree Record.stem s₂ s') : s.Sheds s' doomed where
  look k := by rw [hafter.look, hsheds.look, hbefore.look]
  lastId_le := Nat.le_trans hbefore.lastId_le (Nat.le_trans hsheds.lastId_le hafter.lastId_le)

end State

end DdsBridge.Provider
