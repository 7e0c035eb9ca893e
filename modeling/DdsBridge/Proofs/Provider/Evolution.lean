import DdsBridge.Proofs.Provider.Cases
import DdsBridge.Proofs.Provider.Effects

/-!
# What an operation does to the tree

Every operation either keeps the core of all entities, or hands samples over, or creates one
entity, or deletes a part of the tree to which the rest does not refer. Results about all runs are
proved once for each of these and not once for each operation.

* **`perform_aside`**, **`perform_beside`** — operations on settings, conditions and wait sets.
* **`State.Evolves`**, **`perform_evolves`** — the kinds of step.
* **`State.run`** — the state after a list of operations.
* **`wellFormed_perform`**, **`wellFormed_of_reachable`** — no reference ever dangles.
-/

namespace DdsBridge.Provider

/-- Operations that, if they succeed, may match endpoints, hand samples over or delete entities
that have them. -/
def Operation.moves : Operation → Bool
  | .createWriter .. | .createReader .. | .write .. | .take _ | .deleteContained _ => true
  | _ => false

/-- Operations on settings, conditions and wait sets, which are no part of the entities. -/
def Operation.isBeside : Operation → Bool
  | .init _ | .installRtps | .setEnabled .. | .createWaitSet | .deleteWaitSet _ | .attach ..
  | .detach .. | .enterWait _ | .leaveWait _ => true
  | _ => false

/-- The return code that an answer amounts to. -/
def Reply.code : Reply → ReturnCode
  | .failed code => code
  | _ => .ok

namespace State

namespace WellFormed

variable {s : State}

theorem of_participant (hwf : s.WellFormed) {h p : Handle} {g : Option Handle} {d : DomainId}
    (hh : s.profile h = some ⟨p, g, .participant d⟩) : p = h ∧ g = none := by
  have hplaced := hwf.placed hh
  generalize hpr : (⟨p, g, .participant d⟩ : Profile) = pr at hplaced
  cases hplaced with
  | participant _ domain =>
      simp only [Profile.mk.injEq] at hpr
      exact ⟨hpr.1, hpr.2.1⟩
  | topic _ name typeName hp => simp at hpr
  | group _ side partition hp => cases side <;> simp [Side.group] at hpr
  | endpoint _ side qos hp hg ht => cases side <;> simp [Side.endpoint] at hpr

theorem of_topic (hwf : s.WellFormed) {h p : Handle} {g : Option Handle} {name typeName : String}
    (hh : s.profile h = some ⟨p, g, .topic name typeName⟩) :
    g = some p ∧ ∃ d, s.profile p = some ⟨p, none, .participant d⟩ := by
  have hplaced := hwf.placed hh
  generalize hpr : (⟨p, g, .topic name typeName⟩ : Profile) = pr at hplaced
  cases hplaced with
  | participant _ domain => simp at hpr
  | topic _ name typeName hp =>
      simp only [Profile.mk.injEq] at hpr
      obtain ⟨rfl, rfl, -⟩ := hpr
      exact ⟨rfl, _, hp⟩
  | group _ side partition hp => cases side <;> simp [Side.group] at hpr
  | endpoint _ side qos hp hg ht => cases side <;> simp [Side.endpoint] at hpr

theorem of_group (hwf : s.WellFormed) {h p : Handle} {g : Option Handle} {side : Side}
    {partition : List String} (hh : s.profile h = some ⟨p, g, side.group partition⟩) :
    g = some p ∧ ∃ d, s.profile p = some ⟨p, none, .participant d⟩ := by
  have hplaced := hwf.placed hh
  generalize hpr : (⟨p, g, side.group partition⟩ : Profile) = pr at hplaced
  cases hplaced with
  | participant _ domain => cases side <;> simp [Side.group] at hpr
  | topic _ name typeName hp => cases side <;> simp [Side.group] at hpr
  | group _ side' partition hp =>
      simp only [Profile.mk.injEq] at hpr
      obtain ⟨rfl, rfl, -⟩ := hpr
      exact ⟨rfl, _, hp⟩
  | endpoint _ side' qos hp hg ht =>
      cases side <;> cases side' <;> simp [Side.group, Side.endpoint] at hpr

theorem get_participant (hwf : s.WellFormed) {p : Handle} {r : Record}
    (hget : s.get p .participant = .ok r) :
    ∃ d, s.profile p = some ⟨p, none, .participant d⟩ := by
  obtain ⟨hp, hk⟩ := hwf.profile_of_get hget
  obtain ⟨_, p', g, _, _, _, body⟩ := r
  cases body with
  | participant d types =>
      obtain ⟨rfl, rfl⟩ := hwf.of_participant hp
      exact ⟨d, hp⟩
  | _ => simp [Body.kind] at hk

theorem get_topic (hwf : s.WellFormed) {t : Handle} {r : Record}
    (hget : s.get t .topic = .ok r) :
    ∃ name typeName,
      s.profile t = some ⟨r.participant, some r.participant, .topic name typeName⟩ := by
  obtain ⟨ht, hk⟩ := hwf.profile_of_get hget
  obtain ⟨_, p, g, _, _, _, body⟩ := r
  cases body with
  | topic name typeName =>
      have hg : g = some p := (hwf.of_topic ht).1
      subst hg
      exact ⟨name, typeName, ht⟩
  | _ => simp [Body.kind] at hk

theorem get_group (hwf : s.WellFormed) {g : Handle} {r : Record} (side : Side)
    (hget : s.get g side.groupKind = .ok r) :
    ∃ partition d, s.profile g = some ⟨r.participant, some r.participant, side.group partition⟩ ∧
      s.profile r.participant = some ⟨r.participant, none, .participant d⟩ := by
  obtain ⟨hg, hk⟩ := hwf.profile_of_get hget
  obtain ⟨_, p, parent, _, _, _, body⟩ := r
  have hrole : ∃ partition, body.role = side.group partition := by
    cases side <;> cases body <;> simp_all [Body.kind, Side.groupKind, Body.role, Side.group]
  obtain ⟨partition, hrole⟩ := hrole
  rw [hrole] at hg
  obtain ⟨hparent, d, hp⟩ := hwf.of_group hg
  exact ⟨partition, d, hparent ▸ hg, hp⟩

end WellFormed

/-! ## The kinds of step -/

/-- What an operation can do to the core of the entities, with its reply: leave it, hand samples
over, create an entity, create an endpoint and match it, clean a participant up, or let go of one
that contains nothing. -/
inductive Evolves (s : State) : Operation → Reply × State → Prop where
  | quiet {operation : Operation} {reply : Reply} {s' : State}
      (hquiet : operation.moves = false ∨ ∃ code, reply = .failed code)
      (hagree : Agree Record.core s s') : Evolves s operation (reply, s')
  | wrote {w : Handle} {payload : List UInt8} {s' : State}
      (hok : s.write w payload = (.ok (), s')) : Evolves s (.write w payload) (.done, s')
  | took (r : Handle) : Evolves s (.take r) (.of .sample (s.take r).1, (s.take r).2)
  | created {operation : Operation} {participant parent : Option Handle} {body : Body}
      (hquiet : operation.moves = false)
      (hside : ∀ (side : Side) t q, body.role ≠ side.endpoint t q)
      (hplaced : s.Placed s.next ⟨participant.getD s.next, parent, body.role⟩) :
      Evolves s operation (.entity s.next, (s.insert body.kind participant parent body).2)
  | joined {side : Side} {p g t : Handle} {qos : EndpointQos}
      (hplaced : s.Placed s.next ⟨p, some g, side.endpoint t qos⟩) :
      Evolves s (side.create g t qos)
        (.entity s.next, (s.withEndpoint side p g t qos).discover s.next)
  | cleared {p : Handle} {d : DomainId}
      (hp : s.profile p = some ⟨p, none, .participant d⟩) :
      Evolves s (.deleteContained p) (.done, s.deleteAll (s.contained p))
  | released {p : Handle} {d : DomainId} {s' : State}
      (hp : s.profile p = some ⟨p, none, .participant d⟩) (hempty : s.contained p = [])
      (hagree : Agree Record.core (s.remove p) s') : Evolves s (.release p) (.done, s')

/-! ## Steps that keep the core -/

/-- All of a record but what neither matching nor delivery looks at, and how many proxies hold the
entity. -/
def coreAndRefs (r : Record) : Record × Nat := (r.core, r.refs)

/-- Asking for a status condition makes one at most. -/
theorem agree_statusCondition {s s' : State} {h : Handle} {c : ConditionId}
    (hok : s.statusCondition h = (.ok c, s')) : Agree coreAndRefs s s' := by
  rcases statusCondition_eq_ok hok with ⟨-, rfl⟩ | ⟨-, -, -, rfl⟩
  · exact .refl _ _
  · have hmod : Agree coreAndRefs s (s.modifyEntity h fun r => { r with condition := some c }) :=
      agree_modifyEntity s h fun _ => rfl
    exact ⟨hmod.look, Nat.le_succ _, rfl⟩

theorem agree_register (s : State) (p : Handle) (typeName : String) :
    Agree coreAndRefs s (s.modifyEntity p (Record.register typeName)) := by
  refine agree_modifyEntity s p fun r => ?_
  obtain ⟨_, _, _, _, _, _, body⟩ := r
  cases body <;> rfl

theorem agree_setListener (s : State) (h : Handle) (listener : Option (Listener × StatusMask)) :
    Agree coreAndRefs s (s.modifyReader h fun r => { r with listener }) := by
  refine agree_modifyReader s h fun r x hx => ?_
  simp [coreAndRefs, Record.core, hx, Body.core]

theorem agree_release (s : State) (h : Handle) :
    Agree Record.core s (s.modifyEntity h fun r => { r with refs := r.refs - 1 }) :=
  agree_modifyEntity s h fun _ => rfl

/-- The entities are as they were, though numbers may have been issued. -/
def SameEntities (s s' : State) : Prop :=
  s'.entities = s.entities ∧ s.lastId ≤ s'.lastId ∧ s'.maxSamples = s.maxSamples

/-- The entities are as they were, and nobody is called. -/
structure Aside (s s' : State) : Prop where
  entities : s.SameEntities s'
  calls : s'.calls = s.calls

/-- Operations on settings, conditions and wait sets leave the entities and call nobody. -/
theorem perform_aside {operation : Operation} (h : operation.isBeside = true)
    (isFile : String → Bool) (s : State) : s.Aside (s.perform isFile operation).2 := by
  have hsame : s.SameEntities s := ⟨rfl, Nat.le_refl _, rfl⟩
  have hcase := perform_cases isFile s operation
  generalize s.perform isFile operation = result at hcase ⊢
  cases hcase with
  | enabled hok =>
      obtain ⟨-, rfl⟩ := setEnabled_eq_ok hok
      exact ⟨hsame, rfl⟩
  | madeWaitSet => exact ⟨⟨rfl, Nat.le_succ _, rfl⟩, rfl⟩
  | droppedWaitSet hok =>
      obtain ⟨-, rfl⟩ := deleteWaitSet_eq_ok hok
      exact ⟨hsame, rfl⟩
  | created hready hcreates => cases hcreates <;> cases h
  | @joined side => cases side <;> cases h
  | refused | initialized | installed | attached | detached | apart | entered | left =>
      exact ⟨hsame, rfl⟩
  | _ => cases h

theorem perform_beside {operation : Operation} (h : operation.isBeside = true)
    (isFile : String → Bool) (s : State) : s.SameEntities (s.perform isFile operation).2 :=
  (perform_aside h isFile s).entities

/-- Removing an entity respects agreement. -/
theorem Agree.remove {β : Type} {view : Record → β} {s s' : State} (ha : Agree view s s')
    (h : Handle) : Agree view (s.remove h) (s'.remove h) := by
  refine ⟨fun k => ?_, ?_, ?_⟩
  · rw [remove_get?, remove_get?]
    split
    · rfl
    · exact ha.look k
  · rw [remove_lastId, remove_lastId]
    exact ha.lastId_le
  · rw [remove_maxSamples, remove_maxSamples]
    exact ha.maxSamples_eq

/-! ## Every step is of one of these kinds -/

/-- A body whose role is none of an endpoint's. -/
theorem role_ne_endpoint {role : Role} (hrole : role.topic? = none) (side : Side) (t : Handle)
    (q : EndpointQos) : role ≠ side.endpoint t q := by
  rintro rfl
  cases side <;> exact absurd hrole (by simp [Side.endpoint, Role.topic?])

namespace Creates

variable {s : State} {operation : Operation} {p : Option Handle} {body : Body}

theorem moves_eq (h : s.Creates operation p body) : operation.moves = false := by
  cases h <;> rfl

theorem topic?_eq_none (h : s.Creates operation p body) : body.role.topic? = none := by
  cases h <;> rfl

/-- What is created belongs into the tree. -/
theorem placed (h : s.Creates operation p body) (hwf : s.WellFormed) :
    s.Placed s.next ⟨p.getD s.next, p, body.role⟩ := by
  cases h with
  | participant domain => exact .participant _ domain
  | topic hget =>
      obtain ⟨d, hp⟩ := hwf.get_participant hget
      exact .topic _ _ _ hp
  | publisher hget =>
      obtain ⟨d, hp⟩ := hwf.get_participant hget
      exact .group _ .writer _ hp
  | subscriber hget =>
      obtain ⟨d, hp⟩ := hwf.get_participant hget
      exact .group _ .reader _ hp

end Creates

/-- A new endpoint of a group and a topic that pass the check belongs into the tree. -/
theorem placed_endpoint {s : State} (hwf : s.WellFormed) (side : Side) {g t p : Handle}
    {qos : EndpointQos} (hqos : qos.history.isConsistent = true)
    (hcommon : s.commonParticipant g side.groupKind t = .ok p) :
    s.Placed s.next ⟨p, some g, side.endpoint t qos⟩ := by
  obtain ⟨rg, rt, hg, ht, rfl, hsame⟩ := commonParticipant_eq_ok hcommon
  obtain ⟨partition, d, hgroup, hpart⟩ := hwf.get_group side hg
  obtain ⟨name, typeName, htopic⟩ := hwf.get_topic ht
  rw [hsame] at htopic
  exact .endpoint _ side qos hpart hgroup htopic hqos

theorem evolves_release {s : State} (hwf : s.WellFormed) (h : Handle) :
    s.Evolves (.release h) (.done, s.release h) := by
  unfold release
  cases hr : s.entities.get? h with
  | none => exact .quiet (.inl rfl) (.refl _ s)
  | some r =>
      have hkept := agree_release s h
      have hprofile : ∀ k, (s.modifyEntity h fun r => { r with refs := r.refs - 1 }).profile k =
          s.profile k := (hkept.of_core Record.outline_core).profile
      simp only
      split
      · rename_i hgone
        obtain ⟨-, hkind, hempty⟩ := hgone
        obtain ⟨d, hp⟩ := hwf.get_participant (get_eq_ok.mpr ⟨hr, hkind⟩)
        refine .released hp ?_ (hkept.remove h)
        refine List.eq_nil_iff_forall_not_mem.mpr fun k hk => ?_
        obtain ⟨hne, pr, hkp, hpart⟩ := mem_contained.mp hk
        have hin : k ∈ (s.modifyEntity h fun r => { r with refs := r.refs - 1 }).contained h :=
          mem_contained.mpr ⟨hne, pr, (hprofile k).trans hkp, hpart⟩
        simp [hempty] at hin
      · exact .quiet (.inl rfl) hkept

/-- Every operation, whether it succeeds or fails, is a step of one of these kinds. -/
theorem perform_evolves {s : State} (hwf : s.WellFormed) (isFile : String → Bool)
    (operation : Operation) : s.Evolves operation (s.perform isFile operation) := by
  -- settings, conditions and wait sets are beside the tree and need no cases
  by_cases hbeside : operation.isBeside = true
  · obtain ⟨he, hid, hmax⟩ := perform_beside hbeside isFile s
    refine .quiet (.inl ?_) (.of_entities he hid hmax)
    cases operation <;> first | rfl | cases hbeside
  · have hcase := perform_cases isFile s operation
    generalize s.perform isFile operation = result at hcase ⊢
    cases hcase with
    | refused => exact .quiet (.inr ⟨_, rfl⟩) (.refl _ s)
    | created hready hcreates =>
        exact .created hcreates.moves_eq (role_ne_endpoint hcreates.topic?_eq_none)
          (hcreates.placed hwf)
    | @joined side p g t qos hready hqos hcommon =>
        exact .joined (placed_endpoint hwf side hqos hcommon)
    | cleared hget =>
        obtain ⟨d, hp⟩ := hwf.get_participant hget
        exact .cleared hp
    | registered => exact .quiet (.inl rfl) ((agree_register s _ _).map Prod.fst)
    | wrote hok => exact .wrote hok
    | took r => exact .took r
    | asked hok => exact .quiet (.inl rfl) ((agree_statusCondition hok).map Prod.fst)
    | listened => exact .quiet (.inl rfl) ((agree_setListener s _ _).map Prod.fst)
    | released h => exact evolves_release hwf h
    | relisted order => exact .quiet (.inl rfl) (agree_relist _ s order)
    | _ => exact absurd rfl hbeside

/-! ## Matching alone -/

/-- A write changes statuses, queues and one history. -/
theorem agree_write_of {β : Type} {view : Record → β} (hraised : IgnoresRaised view)
    (hqueue : IgnoresQueue view)
    (hhistory : ∀ (r : Record) x history, r.body = .writer x →
      view { r with body := .writer { x with history } } = view r)
    {s s' : State} {w : Handle} {payload : List UInt8}
    (hok : s.write w payload = (.ok (), s')) : Agree view s s' := by
  obtain ⟨x, -, rfl⟩ := write_eq_ok hok
  have hkept : Agree view s (s.modifyWriter w fun w =>
      { w with history := remember w.qos s.maxSamples w.history payload }) :=
    agree_modifyWriter s w fun r x hx => hhistory r x _ hx
  exact hkept.trans (.foldl (fun s r => agree_offer hraised hqueue s r _) _ _)

theorem agree_write {s s' : State} {w : Handle} {payload : List UInt8}
    (hok : s.write w payload = (.ok (), s')) : Agree Record.outline s s' := by
  refine agree_write_of outline_ignoresRaised outline_ignoresQueue (fun r x history hx => ?_) hok
  simp [Record.outline, Record.stem, Record.profile, hx, Body.role, Body.matched]

/-! ## Runs -/

/-- The state after a list of operations. -/
def run (isFile : String → Bool) (s : State) (operations : List Operation) : State :=
  operations.foldl (fun s operation => (s.perform isFile operation).2) s

theorem reachable_run {isFile : String → Bool} {s : State} (hreach : Reachable isFile s)
    (operations : List Operation) : Reachable isFile (s.run isFile operations) := by
  induction operations generalizing s with
  | nil => exact hreach
  | cons operation rest ih => exact ih (.step hreach operation)

/-! ## References never dangle -/

/-- A participant that goes alone takes nothing with it. -/
theorem Agree.remove_sheds {s s' : State} {p : Handle}
    (hagree : Agree Record.core (s.remove p) s') : s.Sheds s' [p] :=
  .of_agree (.refl _ s) (foldl_remove_sheds s [p]) (hagree.of_core Record.outline_core).stem

theorem Agree.remove_profile {s s' : State} {p : Handle}
    (hagree : Agree Record.core (s.remove p) s') (k : Handle) :
    s'.profile k = if k ∈ [p] then none else s.profile k := hagree.remove_sheds.profile k

theorem Evolves.lastId_le {s s' : State} {operation : Operation} {reply : Reply}
    (hstep : s.Evolves operation (reply, s')) : s.lastId ≤ s'.lastId := by
  cases hstep with
  | quiet hquiet hagree => exact hagree.lastId_le
  | wrote hok => exact (agree_write hok).lastId_le
  | took r => exact (agree_take outline_ignoresRaised outline_ignoresQueue s r).lastId_le
  | created hquiet hside hplaced => exact Nat.le_succ _
  | @joined side p g t qos hplaced =>
      have hnew : s.lastId ≤ (s.withEndpoint side p g t qos).lastId := Nat.le_succ _
      exact Nat.le_trans hnew (agree_discover profile_ignoresTraffic _ _).lastId_le
  | cleared hp => exact deleteAll_lastId ..
  | released hp hempty hagree => exact (remove_lastId s _) ▸ hagree.lastId_le

theorem Evolves.maxSamples_eq {s s' : State} {operation : Operation} {reply : Reply}
    (hstep : s.Evolves operation (reply, s')) : s'.maxSamples = s.maxSamples := by
  cases hstep with
  | quiet hquiet hagree => exact hagree.maxSamples_eq
  | wrote hok => exact (agree_write hok).maxSamples_eq
  | took r => exact (agree_take outline_ignoresRaised outline_ignoresQueue s r).maxSamples_eq
  | created hquiet hside hplaced => rfl
  | joined hplaced => exact (agree_discover profile_ignoresTraffic _ _).maxSamples_eq
  | cleared hp =>
      refine (foldl_remove_maxSamples _ _).trans ?_
      exact (agree_unmatchAll profile_ignoresTraffic s _ _).maxSamples_eq
  | released hp hempty hagree => exact hagree.maxSamples_eq.trans (remove_maxSamples s _)

theorem WellFormed.evolves {s s' : State} {operation : Operation} {reply : Reply}
    (hwf : s.WellFormed) (hstep : s.Evolves operation (reply, s')) : s'.WellFormed := by
  cases hstep with
  | quiet hquiet hagree =>
      exact hwf.of_agree (hagree.of_core Record.outline_core).stem
  | wrote hok => exact hwf.of_agree (agree_write hok).stem
  | took r => exact hwf.of_agree (agree_take outline_ignoresRaised outline_ignoresQueue s r).stem
  | created hquiet hside hplaced => exact hwf.insert rfl hplaced
  | joined hplaced => exact (hwf.withEndpoint hplaced).of_agree (agree_discover stem_ignoresTraffic _ _)
  | cleared hp => exact hwf.delete (hwf.closed_contained hp) (deleteAll_sheds s _)
  | released hp hempty hagree =>
      exact hwf.delete (hwf.closed_singleton hp hempty) hagree.remove_sheds

/-- No operation leaves a dangling reference. -/
theorem wellFormed_perform {s : State} (hwf : s.WellFormed) (isFile : String → Bool)
    (operation : Operation) : (s.perform isFile operation).2.WellFormed :=
  hwf.evolves (perform_evolves hwf isFile operation)

theorem wellFormed_new (maxSamples : Nat) : (State.new maxSamples).WellFormed where
  issued h := by cases h
  placed h := by cases h
  sorted h := by cases h

theorem wellFormed_of_reachable {isFile : String → Bool} {s : State}
    (hreach : Reachable isFile s) : s.WellFormed := by
  induction hreach with
  | new maxSamples => exact wellFormed_new maxSamples
  | step _ operation ih => exact wellFormed_perform ih isFile operation

end State

end DdsBridge.Provider
