import DdsBridge.Proofs.Provider.TypeNames

/-!
# What an operation is about

Most operations of the provider are about entities, each of which has to be there and of the right
kind. The provider answers an operation on anything else with a failure and stays as it is.

* **`Operation.subjects`** — the entities that an operation is about.
* **`State.Grounded`** — all of them are there, and of the right kinds.
* **`State.perform_of_not_grounded`** — anything else is refused.
-/

namespace DdsBridge.Provider

/-- The entities that an operation is about, each with the kind that it has to be of; a status
condition may be asked of any entity. A hold is given back whether the entity is still there or
not. -/
def Operation.subjects : Operation → List (Handle × Option EntityKind)
  | .deleteContained p | .registerType p _ | .createTopic p _ _ | .createPublisher p _
  | .createSubscriber p _ => [(p, some .participant)]
  | .createWriter g t _ => [(g, some .publisher), (t, some .topic)]
  | .createReader g t _ => [(g, some .subscriber), (t, some .topic)]
  | .write w _ => [(w, some .writer)]
  | .take r | .setListener r _ _ => [(r, some .reader)]
  | .statusCondition e => [(e, none)]
  | .init _ | .installRtps | .createParticipant _ | .setEnabled .. | .createWaitSet
  | .deleteWaitSet _ | .attach .. | .detach .. | .enterWait _ | .leaveWait _ | .release _
  | .relist _ => []

namespace State

/-- There is an entity, of a kind if one is asked for. -/
def Has (s : State) (subject : Handle × Option EntityKind) : Prop :=
  ∃ record, s.entities.get? subject.1 = some record ∧ ∀ kind ∈ subject.2, record.kind = kind

/-- Every entity that an operation is about is there and of the right kind. -/
def Grounded (s : State) (operation : Operation) : Prop :=
  ∀ subject ∈ operation.subjects, s.Has subject

variable {s s' : State} {operation : Operation} {e : Handle} {kind : EntityKind}

theorem has_of_get {record : Record} (hget : s.get e kind = .ok record) : s.Has (e, some kind) := by
  obtain ⟨hrecord, hkind⟩ := get_eq_ok.mp hget
  refine ⟨record, hrecord, fun found hfound => ?_⟩
  cases hfound
  exact hkind

theorem has_of_isAlive (halive : s.isAlive e = true) : s.Has (e, none) := by
  obtain ⟨record, hrecord⟩ := Option.isSome_iff_exists.mp halive
  exact ⟨record, hrecord, fun _ hfound => absurd hfound (by simp)⟩

theorem Kinded.has (h : s.Kinded e kind) (hwf : s.WellFormed) (halive : s.isAlive e = true) :
    s.Has (e, some kind) := by
  obtain ⟨record, hrecord⟩ := Option.isSome_iff_exists.mp halive
  refine ⟨record, hrecord, fun found hfound => ?_⟩
  cases hfound
  have hprofile : s.profile e = some record.profile := congrArg (Option.map Record.profile) hrecord
  rw [hwf.sorted hrecord, ← Body.role_kind]
  exact h.kind hprofile

/-! ## Operations that are refused -/

theorem grounded_one (h : operation.subjects = [(e, some kind)]) {record : Record}
    (hget : s.get e kind = .ok record) : s.Grounded operation := by
  intro subject hmem
  rw [h] at hmem
  cases List.mem_singleton.mp hmem
  exact has_of_get hget

theorem grounded_endpoint {g t p : Handle} (h : operation.subjects = [(g, some kind), (t, some .topic)])
    (hcommon : s.commonParticipant g kind t = .ok p) : s.Grounded operation := by
  obtain ⟨_, _, hgroup, htopic, -, -⟩ := commonParticipant_eq_ok hcommon
  unfold Grounded
  rw [h]
  exact List.forall_mem_cons.mpr ⟨has_of_get hgroup, List.forall_mem_singleton.mpr (has_of_get htopic)⟩

/-- An operation on something that is not there, or not of the right kind, is refused, and nothing
changes. -/
theorem perform_of_not_grounded (hwf : s.WellFormed) (isFile : String → Bool)
    (h : ¬s.Grounded operation) :
    ∃ code, s.perform isFile operation = (.failed code, s) := by
  -- whatever succeeds has found its subjects first
  have hcase := perform_cases isFile s operation
  generalize hresult : s.perform isFile operation = result at hcase
  cases hcase with
  | refused => exact ⟨_, rfl⟩
  | created hready hcreates =>
      cases hcreates with
      | participant domain => exact absurd (fun _ hmem => absurd hmem List.not_mem_nil) h
      | topic hget => exact absurd (grounded_one rfl hget) h
      | publisher hget => exact absurd (grounded_one rfl hget) h
      | subscriber hget => exact absurd (grounded_one rfl hget) h
  | @joined side p g t qos hready hqos hcommon =>
      cases side <;> exact absurd (grounded_endpoint rfl hcommon) h
  | cleared hget => exact absurd (grounded_one rfl hget) h
  | registered hget => exact absurd (grounded_one rfl hget) h
  | wrote hok =>
      obtain ⟨x, hx, -⟩ := write_eq_ok hok
      obtain ⟨_, hget⟩ := hwf.get_of_writer? hx
      exact absurd (grounded_one rfl hget) h
  | took r =>
      cases hget : s.get r .reader with
      | ok record => exact absurd (grounded_one rfl hget) h
      | error code =>
          refine ⟨code, ?_⟩
          unfold take
          rw [hget]
          rfl
  | asked hok =>
      have halive := Option.isSome_iff_exists.mpr (live_of_statusCondition hok)
      exact absurd (List.forall_mem_singleton.mpr (has_of_isAlive halive)) h
  | listened hget => exact absurd (grounded_one rfl hget) h
  | _ => exact absurd (fun _ hmem => absurd hmem List.not_mem_nil) h

end State

end DdsBridge.Provider
