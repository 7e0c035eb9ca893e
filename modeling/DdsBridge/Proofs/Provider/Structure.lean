import DdsBridge.Proofs.Provider.Profile
import DdsBridge.Provider.Operation

/-!
# The tree of entities

Every entity but a participant refers to other entities: to its participant, to the entity it was
created on, and an endpoint to its topic. None of these references ever dangles, and all of them
stay within one participant. This is why a look-up of a topic, of a group or of a participant
cannot fail half-way through an operation on a live endpoint. The kind that is stored with an entity
is the kind of its body, so a look-up by kind finds what the body says.

* **`State.Placed`**, **`State.WellFormed`** — what an entity refers to is live and its own.
* **`State.EndpointAt`** — a live endpoint with its domain, topic, partition and policies, all of
  which `WellFormed` provides.
* **`WellFormed.of_agree`**, **`WellFormed.insert`**, **`WellFormed.delete`** — it survives what keeps
  the stems, a new entity that fits, and the removal of a closed part.
-/

namespace DdsBridge.Provider

/-- The two ends of a match. -/
inductive Side where
  | writer
  | reader
  deriving DecidableEq

/-- The role of the group that endpoints of a side are created on. -/
def Side.group : Side → List String → Role
  | .writer => .publisher
  | .reader => .subscriber

/-- The kind of that group. -/
def Side.groupKind : Side → EntityKind
  | .writer => .publisher
  | .reader => .subscriber

/-- The kind of endpoints of a side. -/
def Side.kind : Side → EntityKind
  | .writer => .writer
  | .reader => .reader

/-- The role of an endpoint. -/
def Side.endpoint : Side → Handle → EndpointQos → Role
  | .writer => .writer
  | .reader => .reader

/-- The body of a new endpoint. -/
def Side.newBody : Side → Handle → EndpointQos → Body
  | .writer, topic, qos => .writer ⟨topic, qos, [], []⟩
  | .reader, topic, qos => .reader ⟨topic, qos, [], [], none⟩

/-- The operation that creates an endpoint. -/
def Side.create : Side → Handle → Handle → EndpointQos → Operation
  | .writer => .createWriter
  | .reader => .createReader

@[simp] theorem Side.newBody_role (side : Side) (t : Handle) (q : EndpointQos) :
    (side.newBody t q).role = side.endpoint t q := by
  cases side <;> rfl

@[simp] theorem Side.newBody_kind (side : Side) (t : Handle) (q : EndpointQos) :
    (side.newBody t q).kind = side.kind := by
  cases side <;> rfl

@[simp] theorem Side.newBody_matched (side : Side) (t : Handle) (q : EndpointQos) :
    (side.newBody t q).matched = [] := by
  cases side <;> rfl

/-- Where an endpoint stands, and what it offers or requests. -/
structure Site where
  domain : DomainId
  topicName : String
  typeName : String
  partition : List String
  qos : EndpointQos
  deriving DecidableEq

/-- The handles that an entity refers to. -/
def Profile.refersTo (p : Profile) : List Handle :=
  p.participant :: (p.parent.toList ++ p.role.topic?.toList)

@[simp] theorem Side.endpoint_kind (side : Side) (t : Handle) (qos : EndpointQos) :
    (side.endpoint t qos).kind = side.kind := by
  cases side <;> rfl

theorem Side.endpoint_inj {a b : Side} {t u : Handle} {q r : EndpointQos}
    (h : a.endpoint t q = b.endpoint u r) : a = b ∧ t = u ∧ q = r := by
  cases a <;> cases b <;> simp_all [Side.endpoint]

theorem Side.group_inj {a : Side} {l m : List String} (h : a.group l = a.group m) : l = m := by
  cases a <;> simp_all [Side.group]

namespace State

/-- An entity with this profile fits into the tree: what it refers to is live, of the right kind
and belongs to the same participant. An endpoint also has a history policy that makes sense. -/
inductive Placed (s : State) : Handle → Profile → Prop where
  | participant (h : Handle) (domain : DomainId) : Placed s h ⟨h, none, .participant domain⟩
  | topic {p : Handle} {domain : DomainId} (h : Handle) (name typeName : String)
      (hp : s.profile p = some ⟨p, none, .participant domain⟩) :
      Placed s h ⟨p, some p, .topic name typeName⟩
  | group {p : Handle} {domain : DomainId} (h : Handle) (side : Side) (partition : List String)
      (hp : s.profile p = some ⟨p, none, .participant domain⟩) :
      Placed s h ⟨p, some p, side.group partition⟩
  | endpoint {p g t : Handle} {domain : DomainId} {partition : List String}
      {name typeName : String} (h : Handle) (side : Side) (qos : EndpointQos)
      (hp : s.profile p = some ⟨p, none, .participant domain⟩)
      (hg : s.profile g = some ⟨p, some p, side.group partition⟩)
      (ht : s.profile t = some ⟨p, some p, .topic name typeName⟩)
      (hqos : qos.history.isConsistent = true) :
      Placed s h ⟨p, some g, side.endpoint t qos⟩

/-- Every handle of a live entity was issued, every live entity fits into the tree, and the kind
stored with it is that of its body. -/
structure WellFormed (s : State) : Prop where
  issued : ∀ {h p}, s.profile h = some p → h.id ≤ s.lastId
  placed : ∀ {h p}, s.profile h = some p → s.Placed h p
  sorted : ∀ {h r}, s.entities.get? h = some r → r.kind = r.body.kind

/-- A live endpoint stands at a site. -/
def EndpointAt (s : State) (side : Side) (h : Handle) (site : Site) : Prop :=
  ∃ p g t, s.profile h = some ⟨p, some g, side.endpoint t site.qos⟩ ∧
    s.profile p = some ⟨p, none, .participant site.domain⟩ ∧
    s.profile g = some ⟨p, some p, side.group site.partition⟩ ∧
    s.profile t = some ⟨p, some p, .topic site.topicName site.typeName⟩

/-! ## Endpoints and their sites -/

/-- An endpoint is of one side and stands at one site. -/
theorem EndpointAt.unique {s : State} {a b : Side} {h : Handle} {x y : Site}
    (hx : s.EndpointAt a h x) (hy : s.EndpointAt b h y) : a = b ∧ x = y := by
  obtain ⟨p, g, t, hh, hp, hg, ht⟩ := hx
  obtain ⟨p', g', t', hh', hp', hg', ht'⟩ := hy
  rw [hh] at hh'
  simp only [Option.some.injEq, Profile.mk.injEq] at hh'
  obtain ⟨rfl, rfl, hend⟩ := hh'
  obtain ⟨rfl, rfl, hqos⟩ := Side.endpoint_inj hend
  rw [hp] at hp'
  rw [hg] at hg'
  rw [ht] at ht'
  simp only [Option.some.injEq, Profile.mk.injEq, true_and, Role.participant.injEq] at hp'
  simp only [Option.some.injEq, Profile.mk.injEq, true_and] at hg'
  simp only [Option.some.injEq, Profile.mk.injEq, true_and, Role.topic.injEq] at ht'
  have hpart := Side.group_inj hg'
  refine ⟨rfl, ?_⟩
  cases x
  cases y
  simp_all

/-- What is known of the live entities stays known while none of them goes. -/
theorem EndpointAt.mono {s s' : State} {side : Side} {h : Handle} {site : Site}
    (hkeep : ∀ k p, s.profile k = some p → s'.profile k = some p)
    (hat : s.EndpointAt side h site) : s'.EndpointAt side h site := by
  obtain ⟨p, g, t, hh, hp, hg, ht⟩ := hat
  exact ⟨p, g, t, hkeep _ _ hh, hkeep _ _ hp, hkeep _ _ hg, hkeep _ _ ht⟩

/-- Where an endpoint stands depends on itself and on what it refers to. -/
theorem endpointAt_congr {s s' : State} {side : Side} {h : Handle} {site : Site}
    (hself : s'.profile h = s.profile h)
    (href : ∀ pr, s.profile h = some pr → ∀ k ∈ pr.refersTo, s'.profile k = s.profile k) :
    s'.EndpointAt side h site ↔ s.EndpointAt side h site := by
  have hrefers : ∀ {p g t}, s.profile h = some ⟨p, some g, side.endpoint t site.qos⟩ →
      s'.profile p = s.profile p ∧ s'.profile g = s.profile g ∧ s'.profile t = s.profile t := by
    intro p g t hh
    refine ⟨href _ hh p ?_, href _ hh g ?_, href _ hh t ?_⟩ <;>
      cases side <;> simp [Profile.refersTo, Side.endpoint, Role.topic?]
  constructor
  · rintro ⟨p, g, t, hh, hp, hg, ht⟩
    rw [hself] at hh
    obtain ⟨hp', hg', ht'⟩ := hrefers hh
    exact ⟨p, g, t, hh, hp' ▸ hp, hg' ▸ hg, ht' ▸ ht⟩
  · rintro ⟨p, g, t, hh, hp, hg, ht⟩
    obtain ⟨hp', hg', ht'⟩ := hrefers hh
    exact ⟨p, g, t, hself.trans hh, hp'.trans hp, hg'.trans hg, ht'.trans ht⟩

/-- A live endpoint has a participant, a group and a topic, so it stands at a site. -/
theorem WellFormed.endpointAt {s : State} (hwf : s.WellFormed) {side : Side} {h p : Handle}
    {g : Option Handle} {t : Handle} {q : EndpointQos}
    (hh : s.profile h = some ⟨p, g, side.endpoint t q⟩) :
    ∃ site, s.EndpointAt side h site ∧ site.qos = q ∧ q.history.isConsistent = true := by
  have hplaced := hwf.placed hh
  generalize hpr : (⟨p, g, side.endpoint t q⟩ : Profile) = pr at hplaced
  cases hplaced with
  | participant _ domain => cases side <;> simp [Side.endpoint] at hpr
  | topic _ name typeName hp => cases side <;> simp [Side.endpoint] at hpr
  | group _ side' partition hp => cases side <;> cases side' <;> simp [Side.endpoint, Side.group] at hpr
  | endpoint _ side' qos hp hg ht hqos =>
      rename_i p' g' t' domain partition name typeName
      simp only [Profile.mk.injEq] at hpr
      obtain ⟨rfl, rfl, hend⟩ := hpr
      obtain ⟨rfl, rfl, rfl⟩ := Side.endpoint_inj hend
      exact ⟨⟨domain, name, typeName, partition, q⟩, ⟨p, g', t, hh, hp, hg, ht⟩, rfl, hqos⟩

theorem WellFormed.writerAt {s : State} (hwf : s.WellFormed) {h : Handle} {w : Writer}
    (hw : s.writer? h = some w) :
    ∃ site, s.EndpointAt .writer h site ∧ site.qos = w.qos ∧
      w.qos.history.isConsistent = true := by
  obtain ⟨p, g, hh, -⟩ := writer?_profile hw
  have hprofile : s.profile h = some ⟨p, g, Side.writer.endpoint w.topic w.qos⟩ := hh
  exact hwf.endpointAt hprofile

theorem WellFormed.readerAt {s : State} (hwf : s.WellFormed) {h : Handle} {x : Reader}
    (hx : s.reader? h = some x) :
    ∃ site, s.EndpointAt .reader h site ∧ site.qos = x.qos ∧
      x.qos.history.isConsistent = true := by
  obtain ⟨p, g, hh, -⟩ := reader?_profile hx
  have hprofile : s.profile h = some ⟨p, g, Side.reader.endpoint x.topic x.qos⟩ := hh
  exact hwf.endpointAt hprofile

/-- What a reader was created on is a live subscriber. -/
theorem WellFormed.subscriber_of_reader {s : State} (hwf : s.WellFormed) {h g : Handle}
    {r : Record} {x : Reader} (hr : s.entities.get? h = some r) (hx : r.body = .reader x)
    (hg : r.parent = some g) :
    ∃ rg partition, s.entities.get? g = some rg ∧ rg.body = .subscriber partition := by
  obtain ⟨site, ⟨p, g', t, hself, -, hgroup, -⟩, -⟩ :=
    hwf.readerAt (reader?_eq_some_iff.mpr ⟨r, hr, hx⟩)
  -- the site names the group by its handle, which is the parent of the record
  have hparent : r.parent = some g' := by
    obtain ⟨r', hr', hpr⟩ := profile_eq_some_iff.mp hself
    obtain rfl := Option.some.inj (hr.symm.trans hr')
    exact congrArg Profile.parent hpr
  obtain rfl := Option.some.inj (hg.symm.trans hparent)
  obtain ⟨rg, hrg, hpg⟩ := profile_eq_some_iff.mp hgroup
  obtain ⟨_, _, _, _, _, _, body⟩ := rg
  have hrole : body.role = .subscriber site.partition := congrArg Profile.role hpg
  cases body with
  | subscriber partition => exact ⟨_, partition, hrg, rfl⟩
  | _ => simp [Body.role] at hrole

/-! ## References -/

theorem Placed.mono {s s' : State} {h : Handle} {pr : Profile}
    (hkeep : ∀ k ∈ pr.refersTo, ∀ p, s.profile k = some p → s'.profile k = some p)
    (hplaced : s.Placed h pr) : s'.Placed h pr := by
  cases hplaced with
  | participant _ domain => exact .participant h domain
  | topic _ name typeName hp =>
      exact .topic h name typeName (hkeep _ (by simp [Profile.refersTo]) _ hp)
  | group _ side partition hp =>
      exact .group h side partition (hkeep _ (by simp [Profile.refersTo]) _ hp)
  | endpoint _ side qos hp hg ht hqos =>
      refine .endpoint h side qos (hkeep _ (by simp [Profile.refersTo]) _ hp)
        (hkeep _ (by simp [Profile.refersTo]) _ hg) (hkeep _ ?_ _ ht) hqos
      cases side <;> simp [Profile.refersTo, Side.endpoint, Role.topic?]

/-- What an entity refers to is live and belongs to the participant that the entity belongs to. -/
theorem Placed.refersTo {s : State} {h : Handle} {pr : Profile} (hplaced : s.Placed h pr)
    (hh : s.profile h = some pr) {k : Handle} (hk : k ∈ pr.refersTo) :
    ∃ p, s.profile k = some p ∧ p.participant = pr.participant := by
  cases hplaced with
  | participant _ domain =>
      simp only [Profile.refersTo, Role.topic?, Option.toList_none, List.append_nil,
        List.mem_singleton] at hk
      exact ⟨_, hk ▸ hh, rfl⟩
  | topic _ name typeName hp =>
      rename_i p domain
      have hk : k = p := by simpa [Profile.refersTo, Role.topic?] using hk
      subst hk
      exact ⟨_, hp, rfl⟩
  | group _ side partition hp =>
      rename_i p domain
      have hk : k = p := by cases side <;> simpa [Profile.refersTo, Side.group, Role.topic?] using hk
      subst hk
      exact ⟨_, hp, rfl⟩
  | endpoint _ side qos hp hg ht hqos =>
      rename_i p g t domain partition name typeName
      have hk : k = p ∨ k = g ∨ k = t := by
        cases side <;> simpa [Profile.refersTo, Side.endpoint, Role.topic?] using hk
      rcases hk with rfl | rfl | rfl
      · exact ⟨_, hp, rfl⟩
      · exact ⟨_, hg, rfl⟩
      · exact ⟨_, ht, rfl⟩

/-- Nothing that stays refers to something in the list. -/
def Closed (s : State) (doomed : List Handle) : Prop :=
  ∀ h pr, s.profile h = some pr → h ∉ doomed → ∀ k ∈ pr.refersTo, k ∉ doomed

theorem mem_contained {s : State} {p h : Handle} :
    h ∈ s.contained p ↔ h ≠ p ∧ ∃ pr, s.profile h = some pr ∧ pr.participant = p := by
  unfold contained State.profile
  rw [List.mem_filter, Table.mem_keys_iff]
  cases hr : s.entities.get? h with
  | none => simp
  | some r => simp [Record.profile]

/-- References stay within a participant, so nothing outside refers to what it contains. -/
theorem WellFormed.closed_contained {s : State} (hwf : s.WellFormed) {p : Handle}
    {domain : DomainId} (hp : s.profile p = some ⟨p, none, .participant domain⟩) :
    s.Closed (s.contained p) := by
  intro h pr hh hstays k hk hdoomed
  obtain ⟨hne, prk, hkp, hkpart⟩ := mem_contained.mp hdoomed
  by_cases hhp : h = p
  · subst hhp
    rw [hp] at hh
    obtain rfl := Option.some.inj hh
    simp [Profile.refersTo, Role.topic?] at hk
    exact hne hk
  · obtain ⟨prk', hkp', hsame⟩ := (hwf.placed hh).refersTo hh hk
    rw [hkp] at hkp'
    obtain rfl := Option.some.inj hkp'
    exact hstays (mem_contained.mpr ⟨hhp, pr, hh, hsame.symm.trans hkpart⟩)

/-- Nothing refers to a participant that contains nothing, itself excepted. -/
theorem WellFormed.closed_singleton {s : State} (hwf : s.WellFormed) {p : Handle}
    {domain : DomainId} (hp : s.profile p = some ⟨p, none, .participant domain⟩)
    (hempty : s.contained p = []) : s.Closed [p] := by
  intro h pr hh hstays k hk hdoomed
  obtain rfl := List.mem_singleton.mp hdoomed
  obtain ⟨prk, hkp, hsame⟩ := (hwf.placed hh).refersTo hh hk
  rw [hp] at hkp
  obtain rfl := Option.some.inj hkp
  have hmem : h ∈ s.contained k :=
    mem_contained.mpr ⟨fun e => hstays (e ▸ List.mem_singleton_self h), pr, hh, hsame.symm⟩
  simp [hempty] at hmem

/-! ## What keeps the tree well-formed -/

/-- A record that has the stem of one whose kind is that of its body is such a record too. -/
theorem Record.sorted_of_stem {r r₀ : Record} (h : r₀.kind = r₀.body.kind)
    (hstem : r.stem = r₀.stem) : r.kind = r.body.kind := by
  obtain ⟨hkind, hprofile⟩ := Prod.mk.inj hstem
  have hrole : r.body.role = r₀.body.role := congrArg Profile.role hprofile
  rw [hkind, h, ← Body.role_kind, ← Body.role_kind, hrole]

theorem WellFormed.of_stem_eq {s s' : State} (hwf : s.WellFormed)
    (hstem : ∀ h, (s'.entities.get? h).map Record.stem = (s.entities.get? h).map Record.stem)
    (hid : s.lastId ≤ s'.lastId) : s'.WellFormed := by
  have hsame : ∀ k, s'.profile k = s.profile k := fun k => by
    have hprofile := congrArg (Option.map Prod.snd) (hstem k)
    rw [Option.map_map, Option.map_map] at hprofile
    exact hprofile
  constructor
  · intro h p hh
    rw [hsame] at hh
    exact Nat.le_trans (hwf.issued hh) hid
  · intro h p hh
    rw [hsame] at hh
    exact (hwf.placed hh).mono fun k _ pr hk => (hsame k).trans hk
  · intro h r hr
    have hlook := hstem h
    rw [hr, Option.map_some] at hlook
    obtain ⟨r₀, hr₀, hstem⟩ := Option.map_eq_some_iff.mp hlook.symm
    exact Record.sorted_of_stem (hwf.sorted hr₀) hstem.symm

theorem WellFormed.of_agree {s s' : State} (hwf : s.WellFormed) (ha : Agree Record.stem s s') :
    s'.WellFormed := hwf.of_stem_eq ha.look ha.lastId_le

/-- The next number names nothing yet. -/
theorem WellFormed.fresh {s : State} (hwf : s.WellFormed) : s.profile s.next = none := by
  cases hp : s.profile s.next with
  | none => rfl
  | some p => exact absurd (hwf.issued hp) (Nat.not_succ_le_self _)

theorem WellFormed.ne_fresh {s : State} (hwf : s.WellFormed) {h : Handle} {p : Profile}
    (hh : s.profile h = some p) : h ≠ s.next := by
  rintro rfl
  rw [hwf.fresh] at hh
  exact absurd hh (by simp)

/-- A new entity is listed last. -/
theorem WellFormed.insert_keys {s : State} (hwf : s.WellFormed) (kind : EntityKind)
    (participant parent : Option Handle) (body : Body) :
    (s.insert kind participant parent body).2.entities.keys = s.entities.keys ++ [s.next] :=
  Table.keys_insert (Option.map_eq_none_iff.mp hwf.fresh) _

theorem WellFormed.insert {s : State} (hwf : s.WellFormed) {kind : EntityKind}
    {participant parent : Option Handle} {body : Body} (hkind : kind = body.kind)
    (hplaced : s.Placed s.next ⟨participant.getD s.next, parent, body.role⟩) :
    (s.insert kind participant parent body).2.WellFormed := by
  have hkeep : ∀ k p, s.profile k = some p →
      (s.insert kind participant parent body).2.profile k = some p := by
    intro k p hk
    rw [insert_profile, if_neg (hwf.ne_fresh hk), hk]
  constructor
  · intro h p hh
    rw [insert_profile] at hh
    rw [insert_lastId]
    split at hh
    · rename_i hnew
      subst hnew
      exact Nat.le_refl _
    · exact Nat.le_succ_of_le (hwf.issued hh)
  · intro h p hh
    rw [insert_profile] at hh
    split at hh
    · rename_i hnew
      obtain rfl := Option.some.inj hh
      rw [hnew]
      exact hplaced.mono fun k _ => hkeep k
    · exact (hwf.placed hh).mono fun k _ => hkeep k
  · intro h r hr
    rw [insert_get?] at hr
    split at hr
    · cases hr
      exact hkind
    · exact hwf.sorted hr

theorem WellFormed.delete {s s' : State} (hwf : s.WellFormed) {doomed : List Handle}
    (hclosed : s.Closed doomed) (hsheds : s.Sheds s' doomed) : s'.WellFormed := by
  have hgone := hsheds.profile
  have hid := hsheds.lastId_le
  constructor
  · intro h p hh
    rw [hgone] at hh
    split at hh
    · exact absurd hh (by simp)
    · exact Nat.le_trans (hwf.issued hh) hid
  · intro h p hh
    rw [hgone] at hh
    split at hh
    · exact absurd hh (by simp)
    · rename_i hstays
      refine (hwf.placed hh).mono fun k hk pr hkp => ?_
      rw [hgone, if_neg (hclosed h p hh hstays k hk), hkp]
  · intro h r hr
    have hlook := hsheds.look h
    rw [hr, Option.map_some] at hlook
    split at hlook
    · cases hlook
    · obtain ⟨r₀, hr₀, hstem⟩ := Option.map_eq_some_iff.mp hlook.symm
      exact Record.sorted_of_stem (hwf.sorted hr₀) hstem.symm

/-! ## A new endpoint -/

/-- The state with a new endpoint that has not met its peers yet. -/
def withEndpoint (s : State) (side : Side) (p g t : Handle) (qos : EndpointQos) : State :=
  (s.insert side.kind (some p) (some g) (side.newBody t qos)).2

section NewEndpoint

variable {s : State} {side : Side} {p g t : Handle} {qos : EndpointQos}

theorem withEndpoint_profile (s : State) (side : Side) (p g t : Handle) (qos : EndpointQos)
    (k : Handle) :
    (s.withEndpoint side p g t qos).profile k =
      if k = s.next then some ⟨p, some g, side.endpoint t qos⟩ else s.profile k := by
  refine (insert_profile ..).trans ?_
  rw [Side.newBody_role]
  rfl

theorem withEndpoint_matchedWith (s : State) (side : Side) (p g t : Handle) (qos : EndpointQos)
    (k : Handle) :
    (s.withEndpoint side p g t qos).matchedWith k =
      if k = s.next then [] else s.matchedWith k := by
  refine (insert_matchedWith ..).trans ?_
  rw [Side.newBody_matched]

theorem WellFormed.withEndpoint (hwf : s.WellFormed)
    (hplaced : s.Placed s.next ⟨p, some g, side.endpoint t qos⟩) :
    (s.withEndpoint side p g t qos).WellFormed := by
  refine hwf.insert (side.newBody_kind t qos).symm ?_
  rw [Side.newBody_role]
  exact hplaced

/-- A new endpoint stands at a site before it meets its peers. -/
theorem WellFormed.newEndpointAt (hwf : s.WellFormed)
    (hplaced : s.Placed s.next ⟨p, some g, side.endpoint t qos⟩) :
    ∃ site, (s.withEndpoint side p g t qos).EndpointAt side s.next site := by
  have hprofile := (withEndpoint_profile s side p g t qos s.next).trans (if_pos rfl)
  obtain ⟨site, hat, -⟩ := (hwf.withEndpoint hplaced).endpointAt hprofile
  exact ⟨site, hat⟩

end NewEndpoint

/-! ## What keeps the sites of endpoints -/

theorem WellFormed.endpointAt_insert {s : State} (hwf : s.WellFormed) {kind : EntityKind}
    {participant parent : Option Handle} {body : Body} {side : Side} {h : Handle} {site : Site}
    (hold : h ≠ s.next) :
    (s.insert kind participant parent body).2.EndpointAt side h site ↔
      s.EndpointAt side h site := by
  refine endpointAt_congr ?_ fun pr hh k hk => ?_
  · rw [insert_profile, if_neg hold]
  · obtain ⟨prk, hkp, -⟩ := (hwf.placed hh).refersTo hh hk
    rw [insert_profile, if_neg (hwf.ne_fresh hkp)]

theorem endpointAt_delete {s s' : State} {doomed : List Handle} (hclosed : s.Closed doomed)
    (hgone : ∀ k, s'.profile k = if k ∈ doomed then none else s.profile k) {side : Side}
    {h : Handle} {site : Site} :
    s'.EndpointAt side h site ↔ h ∉ doomed ∧ s.EndpointAt side h site := by
  by_cases hh : h ∈ doomed
  · refine iff_of_false ?_ fun hat => hat.1 hh
    rintro ⟨p, g, t, hself, -⟩
    rw [hgone, if_pos hh] at hself
    exact absurd hself (by simp)
  · have hself : s'.profile h = s.profile h := by rw [hgone, if_neg hh]
    have href : ∀ pr, s.profile h = some pr → ∀ k ∈ pr.refersTo, s'.profile k = s.profile k := by
      intro pr hpr k hk
      rw [hgone, if_neg (hclosed h pr hpr hh k hk)]
    exact (endpointAt_congr hself href).trans (and_iff_right hh).symm

end State

end DdsBridge.Provider
