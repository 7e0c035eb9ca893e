import DdsBridge.Proofs.Provider.Holds

/-!
# Type names of entities

A topic has a type name, and a writer or reader has that of its topic. An entity keeps its kind and
its type name until it goes, and its number is not used again, so what was found out about them is
true of that entity for good.

* **`State.HasTypeName`** — a live entity has a type name.
* **`State.Precedes`**, **`State.Goes`** — what is there was as it is, or has come since.
* **`State.Kinded`**, **`State.Typed`** — an entity has no other kind and no other type name than the
  given ones, as long as it is there.
* **`perform_goes`**, **`Evolves.profile_stays`**, **`Typed.mono`** — operations of the provider, and
  what they leave.
* **`createTopic_typed`**, **`createWriter_typed`**, … — the type names of new entities.
* **`State.Adds`** — an operation makes an entity of a kind.
* **`State.Calm`** — operations that neither create an entity nor give a hold back.
-/

namespace DdsBridge.Provider

/-- The kind of the entity that an operation makes. -/
def Operation.madeKind? : Operation → Option EntityKind
  | .createParticipant _ => some .participant
  | .createTopic .. => some .topic
  | .createPublisher .. => some .publisher
  | .createSubscriber .. => some .subscriber
  | .createWriter .. => some .writer
  | .createReader .. => some .reader
  | _ => none

namespace State

/-- The type name of a live topic, or of the topic of a live endpoint. -/
inductive HasTypeName (s : State) (e : Handle) (typeName : String) : Prop where
  | topic {p : Handle} {g : Option Handle} {name : String}
      (h : s.profile e = some ⟨p, g, .topic name typeName⟩) : HasTypeName s e typeName
  | endpoint {side : Side} {site : Site} (hat : s.EndpointAt side e site)
      (hname : site.typeName = typeName) : HasTypeName s e typeName

/-- What is there in the later state and has a number that was issued in the earlier one was there
already, with the same profile. -/
structure Precedes (s s' : State) : Prop where
  lastId_le : s.lastId ≤ s'.lastId
  profile : ∀ {e p}, e.id ≤ s.lastId → s'.profile e = some p → s.profile e = some p

/-- The provider goes on to another state, in which again no reference dangles. -/
def Goes (s s' : State) : Prop := s.WellFormed → s'.WellFormed ∧ s.Precedes s'

/-- An entity that was created is of this kind, if it is there. -/
structure Kinded (s : State) (e : Handle) (kind : EntityKind) : Prop where
  issued : e.id ≤ s.lastId
  kind : ∀ {p}, s.profile e = some p → p.role.kind = kind

/-- An entity that was created is of this kind, if it is there, and has this type name, if it has
one. -/
structure Typed (s : State) (e : Handle) (kind : EntityKind) (typeName : String) : Prop
    extends s.Kinded e kind where
  only : ∀ {found}, s.HasTypeName e found → found = typeName

variable {s s' s'' : State}

/-! ## Earlier and later states -/

theorem Precedes.refl (s : State) : s.Precedes s := ⟨Nat.le_refl _, fun _ h => h⟩

theorem Precedes.trans (h : s.Precedes s') (h' : s'.Precedes s'') : s.Precedes s'' :=
  ⟨Nat.le_trans h.lastId_le h'.lastId_le, fun hissued hp =>
    h.profile hissued (h'.profile (Nat.le_trans hissued h.lastId_le) hp)⟩

theorem Precedes.of_profile_eq (h : ∀ e, s'.profile e = s.profile e) (hid : s.lastId ≤ s'.lastId) :
    s.Precedes s' :=
  ⟨hid, fun _ hp => (h _).symm.trans hp⟩

/-- A new entity has a number that was not issued. -/
theorem Precedes.of_new {e : Handle} {p : Profile} (hnew : e = s.next)
    (h : ∀ k, s'.profile k = if k = e then some p else s.profile k) (hid : s.lastId ≤ s'.lastId) :
    s.Precedes s' := by
  refine ⟨hid, fun {k found} hissued hk => ?_⟩
  have hne : k ≠ e := by
    rintro rfl
    rw [hnew] at hissued
    exact absurd hissued (Nat.not_succ_le_self _)
  rw [h k, if_neg hne] at hk
  exact hk

theorem Precedes.of_removed {gone : List Handle}
    (h : ∀ k, s'.profile k = if k ∈ gone then none else s.profile k) (hid : s.lastId ≤ s'.lastId) :
    s.Precedes s' := by
  refine ⟨hid, fun {k found} _ hk => ?_⟩
  rw [h k] at hk
  split at hk
  · exact absurd hk (by simp)
  · exact hk

theorem Goes.refl (s : State) : s.Goes s := fun hwf => ⟨hwf, .refl s⟩

theorem Goes.trans (h : s.Goes s') (h' : s'.Goes s'') : s.Goes s'' := fun hwf =>
  let ⟨hwf', hprecedes⟩ := h hwf
  let ⟨hwf'', hprecedes'⟩ := h' hwf'
  ⟨hwf'', hprecedes.trans hprecedes'⟩

theorem profile_of_entities (he : s'.entities = s.entities) (e : Handle) :
    s'.profile e = s.profile e := by
  unfold State.profile
  rw [he]

/-- Nothing happens to the entities. -/
theorem Precedes.of_entities (he : s'.entities = s.entities) (hid : s.lastId ≤ s'.lastId) :
    s.Precedes s' :=
  .of_profile_eq (profile_of_entities he) hid

theorem Goes.of_entities (he : s'.entities = s.entities) (hid : s.lastId ≤ s'.lastId) :
    s.Goes s' :=
  fun hwf => ⟨hwf.of_stem_eq (fun _ => by rw [he]) hid, .of_entities he hid⟩

theorem Evolves.precedes {operation : Operation} {reply : Reply}
    (hstep : s.Evolves operation (reply, s')) : s.Precedes s' := by
  have hid := hstep.lastId_le
  cases hstep with
  | quiet hquiet hagree => exact .of_profile_eq (hagree.of_core Record.outline_core).profile hid
  | wrote hok => exact .of_profile_eq (agree_write hok).profile hid
  | took r =>
      exact .of_profile_eq (agree_take outline_ignoresRaised outline_ignoresQueue s r).profile hid
  | created hquiet hside hplaced => exact .of_new rfl (fun k => insert_profile ..) hid
  | @joined side p g t qos hplaced =>
      -- the new endpoint comes first, and meeting its peers leaves all profiles
      have hmet := agree_discover profile_ignoresTraffic (s.withEndpoint side p g t qos) s.next
      have hnew : s.Precedes (s.withEndpoint side p g t qos) :=
        .of_new rfl (withEndpoint_profile s side p g t qos) (Nat.le_succ _)
      exact hnew.trans (.of_profile_eq hmet.look hmet.lastId_le)
  | cleared hp => exact .of_removed (deleteAll_profile s _) hid
  | released hp hempty hagree => exact .of_removed hagree.remove_profile hid

/-- An entity that is no participant stays, unless a participant is cleaned up. -/
theorem Evolves.profile_stays {operation : Operation} {reply : Reply}
    (hstep : s.Evolves operation (reply, s')) (hwf : s.WellFormed)
    (hclears : ∀ participant, operation ≠ .deleteContained participant) {e : Handle} {p : Profile}
    (hp : s.profile e = some p) (hrole : p.role.kind ≠ .participant) : s'.profile e = some p := by
  have hold := hwf.ne_fresh hp
  cases hstep with
  | quiet hquiet hagree => exact ((hagree.of_core Record.outline_core).profile e).trans hp
  | wrote hok => exact ((agree_write hok).profile e).trans hp
  | took r =>
      exact ((agree_take outline_ignoresRaised outline_ignoresQueue s r).profile e).trans hp
  | created hquiet hside hplaced => exact (insert_profile ..).trans ((if_neg hold).trans hp)
  | @joined side g g' t qos hplaced =>
      have hmet := agree_discover profile_ignoresTraffic (s.withEndpoint side g g' t qos) s.next
      refine (hmet.look e).trans ?_
      exact (withEndpoint_profile s side g g' t qos e).trans ((if_neg hold).trans hp)
  | cleared hparticipant => exact absurd rfl (hclears _)
  | released hparticipant hempty hagree =>
      refine (hagree.remove_profile e).trans ((if_neg fun hmem => ?_).trans hp)
      rw [List.mem_singleton.mp hmem, hparticipant] at hp
      exact hrole (congrArg (Role.kind ∘ Profile.role) (Option.some.inj hp)).symm

/-- Every operation of the provider. -/
theorem perform_goes (isFile : String → Bool) (operation : Operation) (s : State) :
    s.Goes (s.perform isFile operation).2 := fun hwf =>
  ⟨wellFormed_perform hwf isFile operation, (perform_evolves hwf isFile operation).precedes⟩

/-- What follows a list of operations comes after the state before them. -/
theorem precedes_run (isFile : String → Bool) (hwf : s.WellFormed) (operations : List Operation) :
    s.Precedes (s.run isFile operations) := by
  induction operations generalizing s with
  | nil => exact .refl s
  | cons operation rest ih =>
      obtain ⟨hwf', hprecedes⟩ := perform_goes isFile operation s hwf
      exact hprecedes.trans (ih hwf')

/-! ## Type names -/

/-- An endpoint stood where it stands, because what it refers to was there as long as it was. -/
theorem EndpointAt.before {side : Side} {e : Handle} {site : Site} (hat : s'.EndpointAt side e site)
    (hwf : s.WellFormed) (hprecedes : s.Precedes s') (hissued : e.id ≤ s.lastId) :
    s.EndpointAt side e site := by
  obtain ⟨p, g, t, he, hp, hg, ht⟩ := hat
  have hbefore := hprecedes.profile hissued he
  obtain ⟨⟨_, _, _, _, _⟩, ⟨p', g', t', he', hp', hg', ht'⟩, -⟩ := hwf.endpointAt hbefore
  rw [hbefore] at he'
  simp only [Option.some.injEq, Profile.mk.injEq] at he'
  obtain ⟨rfl, rfl, hend⟩ := he'
  obtain ⟨-, rfl, -⟩ := Side.endpoint_inj hend
  exact ⟨p, g, t, hbefore, hprecedes.profile (hwf.issued hp') hp,
    hprecedes.profile (hwf.issued hg') hg, hprecedes.profile (hwf.issued ht') ht⟩

/-- A type name that is found later was there before. -/
theorem HasTypeName.before {e : Handle} {typeName : String} (h : s'.HasTypeName e typeName)
    (hwf : s.WellFormed) (hprecedes : s.Precedes s') (hissued : e.id ≤ s.lastId) :
    s.HasTypeName e typeName := by
  cases h with
  | topic h => exact .topic (hprecedes.profile hissued h)
  | endpoint hat hname => exact .endpoint (hat.before hwf hprecedes hissued) hname

theorem Kinded.mono {e : Handle} {kind : EntityKind} (h : s.Kinded e kind)
    (hprecedes : s.Precedes s') : s'.Kinded e kind :=
  ⟨Nat.le_trans h.issued hprecedes.lastId_le, fun hp => h.kind (hprecedes.profile h.issued hp)⟩

theorem Typed.mono {e : Handle} {kind : EntityKind} {typeName : String}
    (h : s.Typed e kind typeName) (hwf : s.WellFormed) (hprecedes : s.Precedes s') :
    s'.Typed e kind typeName :=
  ⟨h.toKinded.mono hprecedes, fun hfound => h.only (hfound.before hwf hprecedes h.issued)⟩

/-- A live entity of the kind of an endpoint stands at a site, and its topic has the type name. -/
theorem Typed.endpointAt {e : Handle} {side : Side} {typeName : String}
    (h : s.Typed e side.kind typeName) (hwf : s.WellFormed) (halive : s.isAlive e = true) :
    ∃ site, s.EndpointAt side e site ∧ site.typeName = typeName := by
  obtain ⟨record, hrecord⟩ := Option.isSome_iff_exists.mp halive
  obtain ⟨⟨p, g, role⟩, hprofile⟩ : ∃ profile, s.profile e = some profile :=
    ⟨record.profile, congrArg (Option.map Record.profile) hrecord⟩
  obtain ⟨t, qos, rfl⟩ : ∃ t qos, role = side.endpoint t qos := by
    have hkind : role.kind = side.kind := h.kind hprofile
    cases role <;> cases side <;> first | exact ⟨_, _, rfl⟩ | cases hkind
  obtain ⟨site, hat, -⟩ := hwf.endpointAt hprofile
  exact ⟨site, hat, h.only (.endpoint hat rfl)⟩

/-! ## New entities -/

theorem insert_kinded (s : State) (kind : EntityKind) (participant parent : Option Handle) (body : Body) :
    (s.insert kind participant parent body).2.Kinded s.next body.role.kind := by
  have hprofile := (insert_profile s kind participant parent body s.next).trans (if_pos rfl)
  refine ⟨Nat.le_refl _, fun hp => ?_⟩
  exact (congrArg (Role.kind ∘ Profile.role) (Option.some.inj (hprofile.symm.trans hp))).symm

/-- A new topic has the type name it was created with, and a new participant, publisher or
subscriber has none. -/
theorem insert_typed (s : State) (kind : EntityKind) (participant parent : Option Handle) {body : Body}
    {typeName : String} (hrole : body.role.topic? = none)
    (hname : ∀ name found, body.role = .topic name found → found = typeName) :
    (s.insert kind participant parent body).2.Typed s.next body.role.kind typeName := by
  have hprofile := (insert_profile s kind participant parent body s.next).trans (if_pos rfl)
  refine ⟨insert_kinded s kind participant parent body, fun hfound => ?_⟩
  cases hfound with
  | topic h =>
      exact hname _ _ (congrArg Profile.role (Option.some.inj (hprofile.symm.trans h)))
  | @endpoint side site hat _ =>
      obtain ⟨_, _, t, he, -⟩ := hat
      have hsame := congrArg Profile.role (Option.some.inj (hprofile.symm.trans he))
      exact absurd hsame (role_ne_endpoint hrole side t _)

theorem createTopic_typed {p e : Handle} {name typeName : String}
    (hok : s.createTopic p name typeName = (.ok e, s')) : s'.Typed e .topic typeName := by
  obtain ⟨-, -, -, -, rfl, rfl⟩ := createTopic_eq_ok hok
  exact insert_typed s _ (some p) (some p) rfl fun _ _ h => (Role.topic.inj h).2.symm

/-- The profile of a new endpoint, and that the provider goes on with it. -/
theorem joined_precedes (s : State) (side : Side) (p g t : Handle) (qos : EndpointQos) :
    s.Precedes ((s.withEndpoint side p g t qos).discover s.next) ∧
      ((s.withEndpoint side p g t qos).discover s.next).profile s.next =
        some ⟨p, some g, side.endpoint t qos⟩ := by
  have hmet := agree_discover profile_ignoresTraffic (s.withEndpoint side p g t qos) s.next
  have hnew : s.Precedes (s.withEndpoint side p g t qos) :=
    .of_new rfl (withEndpoint_profile s side p g t qos) (Nat.le_succ _)
  refine ⟨hnew.trans (.of_profile_eq hmet.look hmet.lastId_le), (hmet.look s.next).trans ?_⟩
  exact (withEndpoint_profile s side p g t qos s.next).trans (if_pos rfl)

theorem joined_kinded (s : State) (side : Side) (p g t : Handle) (qos : EndpointQos) :
    ((s.withEndpoint side p g t qos).discover s.next).Kinded s.next side.kind := by
  obtain ⟨-, hprofile⟩ := joined_precedes s side p g t qos
  have hmet := agree_discover profile_ignoresTraffic (s.withEndpoint side p g t qos) s.next
  refine ⟨hmet.lastId_le, fun hp => ?_⟩
  rw [← Option.some.inj (hprofile.symm.trans hp)]
  exact side.endpoint_kind t qos

/-- Meeting its peers leaves the kind that a new endpoint is stored with. -/
theorem joined_sorted (s : State) (side : Side) (p g t : Handle) (qos : EndpointQos) {r : Record}
    (hr : ((s.withEndpoint side p g t qos).discover s.next).entities.get? s.next = some r) :
    r.kind = side.kind := by
  have hmet := (agree_discover stem_ignoresTraffic (s.withEndpoint side p g t qos) s.next).look s.next
  rw [hr, State.withEndpoint, insert_get?, if_pos rfl] at hmet
  exact congrArg Prod.fst (Option.some.inj hmet)

/-- A new endpoint has the type name of its topic. -/
theorem joined_typed (s : State) (side : Side) (p g : Handle) {t : Handle}
    (qos : EndpointQos) {kind : EntityKind} {typeName : String} (htopic : s.Typed t kind typeName) :
    ((s.withEndpoint side p g t qos).discover s.next).Typed s.next side.kind typeName := by
  obtain ⟨hprecedes, hprofile⟩ := joined_precedes s side p g t qos
  refine ⟨joined_kinded s side p g t qos, fun hfound => ?_⟩
  cases hfound with
  | topic h =>
      have hrole := congrArg Profile.role (Option.some.inj (hprofile.symm.trans h))
      exact absurd hrole.symm (role_ne_endpoint rfl side t qos)
  | @endpoint side' site hat hname =>
      obtain ⟨p', g', t', he, hp', hg', ht'⟩ := hat
      have hsame := Option.some.inj (hprofile.symm.trans he)
      simp only [Profile.mk.injEq] at hsame
      obtain ⟨-, rfl, -⟩ := Side.endpoint_inj hsame.2.2
      exact hname ▸ htopic.only (.topic (hprecedes.profile htopic.issued ht'))

theorem createWriter_typed {g t e : Handle} {qos : EndpointQos} {kind : EntityKind}
    {typeName : String} (hok : s.createWriter g t qos = (.ok e, s'))
    (htopic : s.Typed t kind typeName) : s'.Typed e .writer typeName := by
  obtain ⟨-, -, p, -, rfl, rfl⟩ := createWriter_eq_ok hok
  exact joined_typed s .writer p g qos htopic

theorem createReader_typed {g t e : Handle} {qos : EndpointQos} {kind : EntityKind}
    {typeName : String} (hok : s.createReader g t qos = (.ok e, s'))
    (htopic : s.Typed t kind typeName) : s'.Typed e .reader typeName := by
  obtain ⟨-, -, p, -, rfl, rfl⟩ := createReader_eq_ok hok
  exact joined_typed s .reader p g qos htopic

/-! ## Operations that create -/

/-- One entity comes, of a kind, and the provider goes on. -/
structure Adds (s : State) (kind : EntityKind) (e : Handle) (s' : State) : Prop
    extends s.Gains e s' where
  goes : s.Goes s'
  kinded : s'.Kinded e kind
  sorted : ∀ {r}, s'.entities.get? e = some r → r.kind = kind

theorem Creates.madeKind?_eq {operation : Operation} {p : Option Handle} {body : Body}
    (h : s.Creates operation p body) : operation.madeKind? = some body.role.kind := by
  cases h <;> rfl

/-- An entity is what an operation answers with only if the operation made it. -/
theorem perform_adds {isFile : String → Bool} {operation : Operation} {e : Handle}
    (hmade : s.perform isFile operation = (.entity e, s')) :
    ∃ kind, operation.madeKind? = some kind ∧ s.Adds kind e s' := by
  have hgains := perform_gains hmade
  have hgoes := perform_goes isFile operation s
  have hcase := perform_cases isFile s operation
  rw [hmade] at hgoes hcase
  generalize hresult : (Reply.entity e, s') = result at hcase
  cases hcase with
  | @created _ p body _ hcreates =>
      cases hresult
      refine ⟨_, hcreates.madeKind?_eq, hgains, hgoes, insert_kinded s body.kind p p body,
        fun {r} hr => ?_⟩
      rw [insert_get?, if_pos rfl] at hr
      cases hr
      exact body.role_kind.symm
  | @joined side p g t qos =>
      cases hresult
      refine ⟨side.kind, ?_, hgains, hgoes, joined_kinded s side p g t qos,
        joined_sorted s side p g t qos⟩
      cases side <;> rfl
  | took r => cases h : (s.take r).1 <;> rw [h] at hresult <;> cases hresult
  | _ => cases hresult

/-- An attempt to create an entity of a kind: the entity comes, or nothing happens. -/
structure Makes (s : State) (kind : EntityKind) (result : Result Handle) : Prop where
  keeps : s.Keeps result
  adds : ∀ {e s'}, result = (.ok e, s') → s.Adds kind e s'

/-- What an operation makes as such, it makes in the course of a bridge operation. -/
theorem makes_of_keeps (operation : Operation) {kind : EntityKind} {x : Result Handle}
    (hkeeps : s.Keeps x) (hkind : operation.madeKind? = some kind)
    (hperform : s.perform (fun _ => true) operation = x.settleWith .entity) : s.Makes kind x := by
  refine ⟨hkeeps, fun hok => ?_⟩
  rw [hok] at hperform
  obtain ⟨_, hkind', hadds⟩ := perform_adds hperform
  cases hkind.symm.trans hkind'
  exact hadds

theorem createParticipant_makes (s : State) (domain : DomainId) :
    s.Makes .participant (s.createParticipant domain) :=
  makes_of_keeps (.createParticipant domain) (s.createParticipant_keeps domain) rfl rfl

theorem createTopic_makes (s : State) (p : Handle) (name typeName : String) :
    s.Makes .topic (s.createTopic p name typeName) :=
  makes_of_keeps (.createTopic p name typeName) (s.createTopic_keeps p name typeName) rfl rfl

theorem createPublisher_makes (s : State) (p : Handle) (partition : List String) :
    s.Makes .publisher (s.createPublisher p partition) :=
  makes_of_keeps (.createPublisher p partition) (s.createPublisher_keeps p partition) rfl rfl

theorem createSubscriber_makes (s : State) (p : Handle) (partition : List String) :
    s.Makes .subscriber (s.createSubscriber p partition) :=
  makes_of_keeps (.createSubscriber p partition) (s.createSubscriber_keeps p partition) rfl rfl

theorem createWriter_makes (s : State) (g t : Handle) (qos : EndpointQos) :
    s.Makes .writer (s.createWriter g t qos) :=
  makes_of_keeps (.createWriter g t qos) (s.createWriter_keeps g t qos) rfl rfl

theorem createReader_makes (s : State) (g t : Handle) (qos : EndpointQos) :
    s.Makes .reader (s.createReader g t qos) :=
  makes_of_keeps (.createReader g t qos) (s.createReader_keeps g t qos) rfl rfl

/-! ## Operations that neither create nor give back -/

/-- No entity comes, those that stay have as many holders as before, and the provider goes on. -/
structure Calm (s s' : State) : Prop extends s.Rests s' where
  goes : s.Goes s'

theorem Calm.refl (s : State) : s.Calm s := ⟨.refl s, .refl s⟩

theorem Calm.trans (h : s.Calm s') (h' : s'.Calm s'') : s.Calm s'' :=
  ⟨h.toRests.trans h'.toRests, h.goes.trans h'.goes⟩

theorem Calm.of_entities (he : s'.entities = s.entities) (hid : s.lastId ≤ s'.lastId) : s.Calm s' :=
  ⟨.of_entities he hid, .of_entities he hid⟩

theorem perform_calm {operation : Operation} (hcreates : operation.creates = false)
    (hgives : operation.givesBack = false) (isFile : String → Bool) (s : State) :
    s.Calm (s.perform isFile operation).2 :=
  ⟨perform_rests hcreates hgives isFile s, perform_goes isFile operation s⟩

/-- What an operation does as such, it does in the course of a bridge operation. -/
theorem calm_after (operation : Operation) (hcreates : operation.creates = false)
    (hgives : operation.givesBack = false) (s : State) :
    s.Calm (s.perform (fun _ => true) operation).2 := perform_calm hcreates hgives _ s

theorem write_calm (s : State) (w : Handle) (payload : List UInt8) :
    s.Calm (s.write w payload).2 := calm_after (.write w payload) rfl rfl s

theorem take_calm (s : State) (r : Handle) : s.Calm (s.take r).2 := calm_after (.take r) rfl rfl s

theorem statusCondition_calm (s : State) (e : Handle) : s.Calm (s.statusCondition e).2 :=
  calm_after (.statusCondition e) rfl rfl s

theorem registerType_calm (s : State) (p : Handle) (typeName : String) :
    s.Calm (s.registerType p typeName).2 := calm_after (.registerType p typeName) rfl rfl s

theorem setListener_calm (s : State) (r : Handle) (listener : Option Listener)
    (mask : StatusMask) : s.Calm (s.setListener r listener mask).2 :=
  calm_after (.setListener r listener mask) rfl rfl s

theorem deleteContained_calm (s : State) (p : Handle) : s.Calm (s.deleteContained p).2 :=
  calm_after (.deleteContained p) rfl rfl s

/-! ## Operations on settings, conditions and wait sets -/

theorem setEnabled_calm (s : State) (condition : ConditionId) (mask : StatusMask) :
    s.Calm (s.setEnabled condition mask).2 := calm_after (.setEnabled condition mask) rfl rfl s

theorem createWaitSet_calm (s : State) : s.Calm s.createWaitSet.2 :=
  .of_entities rfl (Nat.le_succ _)

theorem deleteWaitSet_calm (s : State) (waitSet : WaitSetId) :
    s.Calm (s.deleteWaitSet waitSet).2 := calm_after (.deleteWaitSet waitSet) rfl rfl s

theorem attach_calm (s : State) (waitSet : WaitSetId) (condition : ConditionId) :
    s.Calm (s.attach waitSet condition).2 := calm_after (.attach waitSet condition) rfl rfl s

theorem detach_calm (s : State) (waitSet : WaitSetId) (condition : ConditionId) :
    s.Calm (s.detach waitSet condition).2 := calm_after (.detach waitSet condition) rfl rfl s

theorem enterWait_calm (s : State) (waitSet : WaitSetId) : s.Calm (s.enterWait waitSet).2 :=
  calm_after (.enterWait waitSet) rfl rfl s

theorem leaveWait_calm (s : State) (waitSet : WaitSetId) : s.Calm (s.leaveWait waitSet) :=
  .of_entities rfl (Nat.le_refl _)

/-- A wait that nobody disturbs touches nothing but the wait sets. -/
theorem waitAlone_calm (s : State) (waitSet : WaitSetId) (limit : Duration) :
    s.Calm (s.waitAlone waitSet limit).2 := by
  have henter := enterWait_calm s waitSet
  unfold waitAlone
  split
  · rename_i after hresult
    rw [hresult] at henter
    exact henter
  · rename_i entered hresult
    rw [hresult] at henter
    split
    · exact henter.trans (leaveWait_calm entered waitSet)
    · split
      · exact henter
      · exact henter.trans (leaveWait_calm entered waitSet)

end State

end DdsBridge.Provider
