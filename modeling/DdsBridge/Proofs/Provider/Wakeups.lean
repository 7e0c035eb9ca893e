import DdsBridge.Proofs.Provider.Interleaving
import DdsBridge.Proofs.Provider.Matching

/-!
# Wake-ups

A client that waits sleeps between its looks at the conditions. An operation that may trigger one
owes a notification, which wakes everybody; the operation itself is over by then, so that other
steps come in between. The remaining operations owe nothing. A client therefore never sleeps on a
triggered condition without a notification on its way, because an operation that owes nothing
triggers no condition that is attached to a wait set.

* **`State.Tethered`** — wait sets hold conditions that there are, **`tethered_of_reachable`**.
* **`State.Prompts`**, **`perform_prompts`** — the operations that owe nothing trigger nothing.
* **`State.Marked`**, **`perform_marked`** — a wait set is in use from the entry of a wait to its
  end, and no operation changes that.
* **`Gathering`**, **`Gathering.step`**, **`Gathering.Arises`** — clients, what they do, and where
  that leads.
* **`Gathering.no_wakeup_lost`** — what holds after every run.
-/

namespace DdsBridge.Provider

/-- The two halves of a wait, which no client performs but by waiting. -/
def Operation.isHalf : Operation → Bool
  | .enterWait _ | .leaveWait _ => true
  | _ => false

namespace State

/-! ## What wait sets hold -/

/-- Every wait set was issued, and the conditions attached to it are conditions that there are. -/
structure Tethered (s : State) : Prop where
  issued : ∀ {waitSet w}, s.waitSets.get? waitSet = some w → waitSet.id ≤ s.lastId
  known : ∀ {waitSet w c}, s.waitSets.get? waitSet = some w → c ∈ w.conditions →
    ∃ x, s.conditions.get? c = some x

variable {s s' : State}

namespace Tethered

theorem spares {dropped : List ConditionId} (h : s.Tethered) (hstep : s.Spares s' dropped) :
    s'.Tethered := by
  have hold : ∀ {waitSet w'}, s'.waitSets.get? waitSet = some w' →
      ∃ w, s.waitSets.get? waitSet = some w ∧ w' = w.without dropped := by
    intro waitSet w' hw'
    rw [hstep.waitSets] at hw'
    obtain ⟨w, hw, rfl⟩ := Option.map_eq_some_iff.mp hw'
    exact ⟨w, hw, rfl⟩
  constructor
  · intro waitSet w' hw'
    obtain ⟨w, hw, -⟩ := hold hw'
    exact Nat.le_trans (h.issued hw) hstep.lastId_le
  · intro waitSet w' c hw' hc
    obtain ⟨w, hw, rfl⟩ := hold hw'
    obtain ⟨hc, hstays⟩ := List.mem_filter.mp hc
    rw [hstep.conditions, if_neg (of_decide_eq_true hstays)]
    exact h.known hw hc

/-- One wait set changes and attaches nothing new. -/
theorem modify (h : s.Tethered) {waitSet : WaitSetId} {f : WaitSet → WaitSet}
    (hf : ∀ w, ∀ c ∈ (f w).conditions, c ∈ w.conditions ∨ ∃ x, s.conditions.get? c = some x) :
    Tethered { s with waitSets := s.waitSets.modify waitSet f } := by
  have hold : ∀ {k w'}, (s.waitSets.modify waitSet f).get? k = some w' →
      ∃ w, s.waitSets.get? k = some w ∧ (w' = w ∨ w' = f w) := by
    intro k w' hw'
    rw [Table.get?_modify] at hw'
    split at hw'
    · obtain ⟨w, hw, rfl⟩ := Option.map_eq_some_iff.mp hw'
      exact ⟨w, hw, .inr rfl⟩
    · exact ⟨w', hw', .inl rfl⟩
  constructor
  · intro k w' hw'
    obtain ⟨w, hw, -⟩ := hold hw'
    exact h.issued hw
  · intro k w' c hw' hc
    obtain ⟨w, hw, rfl | rfl⟩ := hold hw'
    · exact h.known hw hc
    · rcases hf w c hc with hc | hknown
      · exact h.known hw hc
      · exact hknown

theorem statusCondition (h : s.Tethered) {e : Handle} {c : ConditionId}
    (hok : s.statusCondition e = (.ok c, s')) : s'.Tethered := by
  rcases statusCondition_eq_ok hok with ⟨-, rfl⟩ | ⟨-, -, -, rfl⟩
  · exact h
  · refine ⟨fun hw => Nat.le_succ_of_le (h.issued hw), fun {_ _ k} hw hk => ?_⟩
    show ∃ x, (s.conditions.insert c ⟨e, .all⟩).get? k = some x
    rw [Table.get?_insert]
    split
    · exact ⟨_, rfl⟩
    · exact h.known hw hk

theorem setEnabled (h : s.Tethered) {c : ConditionId} {mask : StatusMask}
    (hok : s.setEnabled c mask = (.ok (), s')) : s'.Tethered := by
  obtain ⟨-, rfl⟩ := setEnabled_eq_ok hok
  refine ⟨h.issued, fun {_ _ k} hw hk => ?_⟩
  obtain ⟨x, hx⟩ := h.known hw hk
  show ∃ x, (s.conditions.modify c fun x => { x with enabled := mask }).get? k = some x
  rw [Table.get?_modify, hx]
  split <;> exact ⟨_, rfl⟩

theorem createWaitSet (h : s.Tethered) : s.createWaitSet.2.Tethered := by
  have hlook : ∀ {k w'}, (s.waitSets.insert ⟨s.lastId + 1⟩ ⟨[], false⟩).get? k = some w' →
      k = ⟨s.lastId + 1⟩ ∧ w' = ⟨[], false⟩ ∨ s.waitSets.get? k = some w' := by
    intro k w' hw'
    rw [Table.get?_insert] at hw'
    split at hw'
    · exact .inl ⟨‹_›, (Option.some.inj hw').symm⟩
    · exact .inr hw'
  constructor
  · intro k w' hw'
    rcases hlook hw' with ⟨rfl, -⟩ | hw
    · exact Nat.le_refl _
    · exact Nat.le_succ_of_le (h.issued hw)
  · intro k w' c hw' hc
    rcases hlook hw' with ⟨-, rfl⟩ | hw
    · cases hc
    · exact h.known hw hc

theorem deleteWaitSet (h : s.Tethered) {waitSet : WaitSetId}
    (hok : s.deleteWaitSet waitSet = (.ok (), s')) : s'.Tethered := by
  obtain ⟨-, rfl⟩ := deleteWaitSet_eq_ok hok
  have hlook : ∀ {k w}, (s.waitSets.erase waitSet).get? k = some w →
      s.waitSets.get? k = some w := by
    intro k w hw
    rw [Table.get?_erase] at hw
    split at hw
    · cases hw
    · exact hw
  exact ⟨fun hw => h.issued (hlook hw), fun hw => h.known (hlook hw)⟩

end Tethered

theorem tethered_perform (h : s.Tethered) (hwf : s.WellFormed) (isFile : String → Bool)
    (operation : Operation) : (s.perform isFile operation).2.Tethered := by
  by_cases hwaiting : operation.isWaiting = false
  · obtain ⟨dropped, hspares⟩ := perform_spares hwf isFile hwaiting
    exact h.spares hspares
  · have hcase := perform_cases isFile s operation
    generalize s.perform isFile operation = result at hcase ⊢
    cases hcase with
    | refused | apart => exact h
    | created hready hcreates => exact absurd hcreates.isWaiting_eq hwaiting
    | @joined side => exact absurd (side.isWaiting_create _ _ _) hwaiting
    | asked hok => exact h.statusCondition hok
    | enabled hok => exact h.setEnabled hok
    | madeWaitSet => exact h.createWaitSet
    | droppedWaitSet hok => exact h.deleteWaitSet hok
    | attached hw hx =>
        refine h.modify fun w k hk => ?_
        rcases mem_insertCondition hk with rfl | hk
        · exact .inr ⟨_, hx⟩
        · exact .inl hk
    | detached => exact h.modify fun w k hk => .inl (List.mem_filter.mp hk).1
    | entered | left => exact h.modify fun w k hk => .inl hk
    | _ => exact absurd rfl hwaiting

/-- In every reachable state wait sets hold conditions that there are. -/
theorem tethered_of_reachable {isFile : String → Bool} (hreach : Reachable isFile s) :
    s.Tethered := by
  induction hreach with
  | new maxSamples => constructor <;> intro waitSet w <;> intros <;> simp_all [State.new]
  | step before operation ih =>
      exact tethered_perform ih (wellFormed_of_reachable before) isFile operation

/-! ## Conditions that let a client go on -/

/-- A condition that is attached to a wait set is triggered. -/
def Prompts (s : State) (waitSet : WaitSetId) (c : ConditionId) : Prop :=
  ∃ w, s.waitSets.get? waitSet = some w ∧ c ∈ w.conditions ∧ s.isTriggered c = true

theorem anyTriggered_eq_true_iff {waitSet : WaitSetId} :
    s.anyTriggered waitSet = true ↔ ∃ c, s.Prompts waitSet c := by
  unfold anyTriggered Prompts
  cases s.waitSets.get? waitSet with
  | none => simp
  | some w => simp [List.any_eq_true]

/-- Whether a condition is triggered depends on the condition and on what is raised. -/
theorem isTriggered_congr {c : ConditionId}
    (hcondition : s'.conditions.get? c = s.conditions.get? c)
    (hraised : ∀ e,
      (s'.entities.get? e).map Record.raised = (s.entities.get? e).map Record.raised) :
    s'.isTriggered c = s.isTriggered c := by
  unfold isTriggered
  rw [hcondition]
  cases s.conditions.get? c with
  | none => rfl
  | some x =>
      have hsame := hraised x.entity
      cases hr : s.entities.get? x.entity with
      | none =>
          rw [hr, Option.map_none, Option.map_eq_none_iff] at hsame
          simp [hr, hsame]
      | some r =>
          rw [hr, Option.map_some] at hsame
          obtain ⟨r', hr', hsame⟩ := Option.map_eq_some_iff.mp hsame
          simp [hr, hr', hsame]

/-- What prompts now did so before, if the wait set held the condition already and nothing that
triggers it changed. -/
theorem Prompts.back {waitSet : WaitSetId} {c : ConditionId} (h : s'.Prompts waitSet c)
    (hwaitSets : ∀ w', s'.waitSets.get? waitSet = some w' → c ∈ w'.conditions →
      ∃ w, s.waitSets.get? waitSet = some w ∧ c ∈ w.conditions)
    (hcondition : s'.conditions.get? c = s.conditions.get? c)
    (hraised : ∀ e,
      (s'.entities.get? e).map Record.raised = (s.entities.get? e).map Record.raised) :
    s.Prompts waitSet c := by
  obtain ⟨w', hw', hc, htriggered⟩ := h
  obtain ⟨w, hw, hc⟩ := hwaitSets w' hw' hc
  exact ⟨w, hw, hc, isTriggered_congr hcondition hraised ▸ htriggered⟩

/-- A wait set changes and attaches nothing new. -/
theorem Prompts.back_modify {waitSet k : WaitSetId} {c : ConditionId} {f : WaitSet → WaitSet}
    (h : Prompts { s with waitSets := s.waitSets.modify k f } waitSet c)
    (hf : ∀ w, c ∈ (f w).conditions → c ∈ w.conditions) : s.Prompts waitSet c := by
  refine h.back (fun w' hw' hc => ?_) rfl fun _ => rfl
  rw [Table.get?_modify] at hw'
  split at hw'
  · obtain ⟨w, hw, rfl⟩ := Option.map_eq_some_iff.mp hw'
    exact ⟨w, hw, hf w hc⟩
  · exact ⟨w', hw', hc⟩

/-- A new condition is attached to nothing yet. -/
theorem Prompts.back_statusCondition {waitSet : WaitSetId} {c k : ConditionId} {e : Handle}
    (hconditioned : s.Conditioned) (htethered : s.Tethered)
    (hok : s.statusCondition e = (.ok k, s')) (h : s'.Prompts waitSet c) :
    s.Prompts waitSet c := by
  rcases statusCondition_eq_ok hok with ⟨-, rfl⟩ | ⟨-, -, hnew, rfl⟩
  · exact h
  · have hne : c ≠ k := by
      rintro rfl
      obtain ⟨w, hw, hc, -⟩ := h
      obtain ⟨x, hx⟩ := htethered.known hw hc
      have hissued := hconditioned.issued hx
      rw [hnew] at hissued
      exact absurd hissued (Nat.not_succ_le_self _)
    refine h.back (fun w hw hc => ⟨w, hw, hc⟩) ?_ fun e' => ?_
    · show (s.conditions.insert k ⟨e, .all⟩).get? c = _
      rw [Table.get?_insert, if_neg hne]
    · show ((s.entities.modify e _).get? e').map _ = _
      rw [Table.get?_modify]
      split
      · rename_i heq
        rw [heq, Option.map_map]
        rfl
      · rfl

/-- A new wait set holds nothing. -/
theorem Prompts.back_createWaitSet {waitSet : WaitSetId} {c : ConditionId}
    (h : s.createWaitSet.2.Prompts waitSet c) : s.Prompts waitSet c := by
  refine h.back (fun w' hw' hc => ?_) rfl fun _ => rfl
  have hlook : (s.waitSets.insert ⟨s.lastId + 1⟩ ⟨[], false⟩).get? waitSet = some w' := hw'
  rw [Table.get?_insert] at hlook
  split at hlook
  · obtain rfl := Option.some.inj hlook
    cases hc
  · exact ⟨w', hlook, hc⟩

theorem Prompts.back_deleteWaitSet {waitSet k : WaitSetId} {c : ConditionId}
    (hok : s.deleteWaitSet k = (.ok (), s')) (h : s'.Prompts waitSet c) :
    s.Prompts waitSet c := by
  obtain ⟨-, rfl⟩ := deleteWaitSet_eq_ok hok
  refine h.back (fun w' hw' hc => ⟨w', ?_, hc⟩) rfl fun _ => rfl
  have hlook : (s.waitSets.erase k).get? waitSet = some w' := hw'
  rw [Table.get?_erase] at hlook
  split at hlook
  · cases hlook
  · exact hlook

/-- An operation that owes no notification triggers no condition that is attached to a wait
set. -/
theorem perform_prompts {isFile : String → Bool} {operation : Operation} {waitSet : WaitSetId}
    {c : ConditionId} (hconditioned : s.Conditioned) (htethered : s.Tethered)
    (howes : operation.notifies = false)
    (h : (s.perform isFile operation).2.Prompts waitSet c) : s.Prompts waitSet c := by
  have hcase := perform_cases isFile s operation
  generalize s.perform isFile operation = result at h hcase
  cases hcase with
  | refused | initialized | installed | apart => exact h
  | created hready hcreates => cases hcreates <;> cases howes
  | @joined side => cases side <;> cases howes
  | registered =>
      refine h.back (fun w hw hc => ⟨w, hw, hc⟩) rfl (Agree.look (agree_modifyEntity s _ fun r => ?_))
      unfold Record.register
      split <;> rfl
  | listened =>
      refine h.back (fun w hw hc => ⟨w, hw, hc⟩) rfl (Agree.look ?_)
      exact agree_modifyReader s _ fun _ _ _ => rfl
  | asked hok => exact .back_statusCondition hconditioned htethered hok h
  | madeWaitSet => exact .back_createWaitSet h
  | droppedWaitSet hok => exact .back_deleteWaitSet hok h
  | detached => exact h.back_modify fun w hc => (List.mem_filter.mp hc).1
  | entered | left => exact h.back_modify fun w hc => hc
  | relisted order =>
      exact h.back (fun w hw hc => ⟨w, hw, hc⟩) rfl (agree_relist Record.raised s order).look
  | _ => cases howes

/-! ## Wait sets in use -/

/-- A wait set on which somebody is said to wait. -/
def Marked (s : State) (waitSet : WaitSetId) : Prop :=
  ∃ w, s.waitSets.get? waitSet = some w ∧ w.waiting = true

theorem marked_congr {waitSet : WaitSetId}
    (h : (s'.waitSets.get? waitSet).map WaitSet.waiting =
      (s.waitSets.get? waitSet).map WaitSet.waiting) :
    s'.Marked waitSet ↔ s.Marked waitSet := by
  have hmarked : ∀ s : State, s.Marked waitSet ↔
      (s.waitSets.get? waitSet).map WaitSet.waiting = some true := fun s =>
    Option.map_eq_some_iff.symm
  rw [hmarked, hmarked, h]

/-- A wait set changes, but nobody begins or ends to wait on it. -/
theorem marked_modify (s : State) (waitSet : WaitSetId) {k : WaitSetId} {f : WaitSet → WaitSet}
    (hf : ∀ w, (f w).waiting = w.waiting) :
    Marked { s with waitSets := s.waitSets.modify k f } waitSet ↔ s.Marked waitSet := by
  refine marked_congr ?_
  rw [Table.get?_modify]
  split
  · rw [Option.map_map]
    exact congrArg (fun g => (s.waitSets.get? _).map g) (funext hf)
  · rfl

/-- Nobody begins or ends to wait but by a wait. -/
theorem perform_marked (htethered : s.Tethered) (hwf : s.WellFormed) (isFile : String → Bool)
    {operation : Operation} (hcall : operation.isHalf = false) (waitSet : WaitSetId) :
    (s.perform isFile operation).2.Marked waitSet ↔ s.Marked waitSet := by
  by_cases hwaiting : operation.isWaiting = false
  · obtain ⟨dropped, hspares⟩ := perform_spares hwf isFile hwaiting
    refine marked_congr ?_
    rw [hspares.waitSets, Option.map_map]
    rfl
  · have hcase := perform_cases isFile s operation
    generalize s.perform isFile operation = result at hcase ⊢
    cases hcase with
    | refused | apart => exact .rfl
    | created hready hcreates => exact absurd hcreates.isWaiting_eq hwaiting
    | @joined side => exact absurd (side.isWaiting_create _ _ _) hwaiting
    | asked hok =>
        -- conditions come and change beside the wait sets
        rcases statusCondition_eq_ok hok with ⟨-, rfl⟩ | ⟨-, -, -, rfl⟩
        · exact .rfl
        · exact .rfl
    | enabled hok =>
        obtain ⟨-, rfl⟩ := setEnabled_eq_ok hok
        exact .rfl
    | madeWaitSet =>
        show (∃ w, (s.waitSets.insert ⟨s.lastId + 1⟩ ⟨[], false⟩).get? waitSet = some w ∧ _) ↔ _
        rw [Table.get?_insert]
        split
        · -- nobody can be waiting on a wait set whose number was not issued
          rename_i hnew
          refine iff_of_false ?_ ?_
          · rintro ⟨w, hw, hmark⟩
            cases hw
            cases hmark
          · rintro ⟨w, hw, -⟩
            have hissued := htethered.issued hw
            rw [hnew] at hissued
            exact absurd hissued (Nat.not_succ_le_self _)
        · exact .rfl
    | @droppedWaitSet k _ hok =>
        obtain ⟨⟨w, hw, hidle⟩, rfl⟩ := deleteWaitSet_eq_ok hok
        show (∃ w, (s.waitSets.erase k).get? waitSet = some w ∧ _) ↔ _
        rw [Table.get?_erase]
        split
        · rename_i heq
          refine iff_of_false (by simp) ?_
          rintro ⟨w', hw', hmark⟩
          rw [heq, hw] at hw'
          obtain rfl := Option.some.inj hw'
          rw [hidle] at hmark
          cases hmark
        · exact .rfl
    | attached | detached => exact marked_modify s waitSet fun _ => rfl
    | entered | left => cases hcall
    | _ => exact absurd rfl hwaiting

/-- From the entry of a wait on a wait set of its own, which was not in use, the wait set is. -/
theorem enterWait_marked {k : WaitSetId} (hok : s.enterWait k = (.ok (), s'))
    (waitSet : WaitSetId) :
    ¬s.Marked k ∧ (s'.Marked waitSet ↔ waitSet = k ∨ s.Marked waitSet) := by
  obtain ⟨⟨w, hw, hidle⟩, rfl⟩ := enterWait_eq_ok hok
  refine ⟨?_, ?_⟩
  · rintro ⟨w', hw', hmark⟩
    rw [hw] at hw'
    obtain rfl := Option.some.inj hw'
    rw [hidle] at hmark
    cases hmark
  · show (∃ w, (s.waitSets.modify k fun w => { w with waiting := true }).get? waitSet = some w ∧
      w.waiting = true) ↔ _
    by_cases heq : waitSet = k
    · subst heq
      rw [Table.get?_modify_self, hw]
      exact iff_of_true ⟨_, rfl, rfl⟩ (.inl rfl)
    · rw [Table.get?_modify_ne _ heq]
      exact ⟨.inr, fun h => h.resolve_left heq⟩

/-- At the end of a wait the wait set is no longer in use. -/
theorem leaveWait_marked (s : State) (k waitSet : WaitSetId) :
    (s.leaveWait k).Marked waitSet ↔ waitSet ≠ k ∧ s.Marked waitSet := by
  show (∃ w, (s.waitSets.modify k fun w => { w with waiting := false }).get? waitSet = some w ∧
    w.waiting = true) ↔ _
  by_cases heq : waitSet = k
  · subst heq
    rw [Table.get?_modify_self]
    refine iff_of_false ?_ fun h => h.1 rfl
    rintro ⟨w, hw, hmark⟩
    obtain ⟨w, -, rfl⟩ := Option.map_eq_some_iff.mp hw
    cases hmark
  · rw [Table.get?_modify_ne _ heq]
    exact ⟨fun h => ⟨heq, h⟩, And.right⟩

/-- Nobody else waits on a wait set in use. -/
theorem Marked.enterWait {waitSet : WaitSetId} (h : s.Marked waitSet) :
    s.enterWait waitSet = s.fail .preconditionNotMet := by
  obtain ⟨w, hw, hmark⟩ := h
  unfold State.enterWait
  rw [hw]
  exact if_pos hmark

/-- A wait set in use stays, whatever is performed. -/
theorem Marked.stays {waitSet : WaitSetId} (h : s.Marked waitSet) (htethered : s.Tethered)
    (hwf : s.WellFormed) (isFile : String → Bool) (operation : Operation) :
    ∃ w, (s.perform isFile operation).2.waitSets.get? waitSet = some w := by
  by_cases hcall : operation.isHalf = false
  · obtain ⟨w, hw, -⟩ := (perform_marked htethered hwf isFile hcall waitSet).mpr h
    exact ⟨w, hw⟩
  · cases operation with
    | enterWait k =>
        show ∃ w, (s.enterWait k).2.waitSets.get? waitSet = some w
        cases hresult : (s.enterWait k).1 with
        | error code =>
            rw [s.enterWait_keeps k code hresult]
            obtain ⟨w, hw, -⟩ := h
            exact ⟨w, hw⟩
        | ok =>
            obtain ⟨w, hw, -⟩ := (enterWait_marked (Prod.ext hresult rfl) waitSet).2.mpr (.inr h)
            exact ⟨w, hw⟩
    | leaveWait k =>
        obtain ⟨w, hw, -⟩ := h
        show ∃ w, (s.waitSets.modify k fun w => { w with waiting := false }).get? waitSet = some w
        rw [Table.get?_modify, hw]
        split <;> exact ⟨_, rfl⟩
    | _ => exact absurd rfl hcall

/-- Nobody deletes a wait set in use. -/
theorem Marked.deleteWaitSet {waitSet : WaitSetId} (h : s.Marked waitSet) :
    s.deleteWaitSet waitSet = s.fail .preconditionNotMet := by
  obtain ⟨w, hw, hmark⟩ := h
  unfold State.deleteWaitSet
  rw [hw]
  exact if_pos hmark

end State

/-! ## Clients that sleep and are woken -/

/-- Where a client stands: it waits for nothing, or it waits on a wait set. One that waits is awake
until it has looked at its conditions, and then asleep until it is notified. -/
inductive Stance where
  | free
  | waiting (waitSet : WaitSetId) (limit : Duration) (awake : Bool)
  deriving DecidableEq, Repr

/-- The wait set that a client waits on. -/
def Stance.waitSet? : Stance → Option WaitSetId
  | .free => none
  | .waiting waitSet .. => some waitSet

/-- The stance of a client after a notification. -/
def Stance.rouse : Stance → Stance
  | .free => .free
  | .waiting waitSet limit _ => .waiting waitSet limit true

theorem Stance.waitSet?_rouse (stance : Stance) : stance.rouse.waitSet? = stance.waitSet? := by
  cases stance <;> rfl

theorem Stance.rouse_ne_asleep (stance : Stance) (waitSet : WaitSetId) (limit : Duration) :
    stance.rouse ≠ .waiting waitSet limit false := by
  cases stance <;> simp [rouse]

/-- The clients of a provider, what they asked and how their waits ended, the latest first, and how
many notifications operations still owe. -/
structure Gathering (ι : Type) where
  trace : List (Entry ι)
  stances : ι → Stance
  state : State
  due : Nat

/-- What happens next. -/
inductive Move (ι : Type) where
  /-- A client that waits for nothing performs an operation. -/
  | call (who : ι) (operation : Operation)
  /-- A client that waits for nothing begins to wait. -/
  | enter (who : ι) (waitSet : WaitSetId) (limit : Duration)
  /-- A notification that is due wakes all clients. -/
  | notify
  /-- A client that is awake looks at its conditions, and goes on or falls asleep. -/
  | look (who : ι)
  /-- The time of a client is up. It looks once more and goes on. -/
  | expire (who : ι)
  deriving DecidableEq, Repr

namespace Gathering

variable {ι : Type}

/-- Nothing happened yet. -/
def start (ι : Type) (s : State) : Gathering ι := ⟨[], fun _ => .free, s, 0⟩

/-- A client waits on a wait set: its wait was entered and has not ended. -/
def WaitsOn (x : Gathering ι) (who : ι) (waitSet : WaitSetId) : Prop :=
  (x.stances who).waitSet? = some waitSet

variable [DecidableEq ι]

/-- A client takes another stance. -/
def stand (x : Gathering ι) (who : ι) (stance : Stance) : Gathering ι :=
  { x with stances := fun i => if i = who then stance else x.stances i }

/-- A client ends its wait, well if one of its conditions is triggered. -/
def leave (x : Gathering ι) (who : ι) (waitSet : WaitSetId) : Gathering ι :=
  let code : ReturnCode := if x.state.anyTriggered waitSet then .ok else .timeout
  { x.stand who .free with
    trace := .ended who waitSet code x.state :: x.trace
    state := x.state.leaveWait waitSet }

/-- What comes of a move, if it can be made. -/
def step (isFile : String → Bool) (x : Gathering ι) : Move ι → Option (Gathering ι)
  | .call who operation =>
    if x.stances who = .free ∧ operation.isHalf = false then
      let (reply, s) := x.state.perform isFile operation
      some { x with
        trace := .asked (some who) operation reply :: x.trace
        state := s
        due := if operation.notifies then x.due + 1 else x.due }
    else none
  | .enter who waitSet limit =>
    if x.stances who = .free then
      match x.state.enterWait waitSet with
      | (.error code, s) =>
        some { x with
          trace := .asked (some who) (.enterWait waitSet) (.failed code) :: x.trace
          state := s }
      | (.ok (), s) =>
        some { x.stand who (.waiting waitSet limit true) with
          trace := .asked (some who) (.enterWait waitSet) .done :: x.trace
          state := s }
    else none
  | .notify =>
    match x.due with
    | 0 => none
    | due + 1 => some { x with stances := fun i => (x.stances i).rouse, due }
  | .look who =>
    match x.stances who with
    | .waiting waitSet limit true =>
      if x.state.anyTriggered waitSet then some (x.leave who waitSet)
      else some (x.stand who (.waiting waitSet limit false))
    | _ => none
  | .expire who =>
    match x.stances who with
    | .waiting waitSet limit _ => if limit.isInfinite then none else some (x.leave who waitSet)
    | _ => none

/-- What runs lead to that begin with a new provider. -/
inductive Arises (isFile : String → Bool) (ι : Type) [DecidableEq ι] : Gathering ι → Prop
  | start (maxSamples : Nat) : Arises isFile ι (.start ι (.new maxSamples))
  | step {x y : Gathering ι} (before : Arises isFile ι x) (move : Move ι)
      (made : x.step isFile move = some y) : Arises isFile ι y

/-- Moves one after the other. One that cannot be made is left out. -/
def play (isFile : String → Bool) (x : Gathering ι) (moves : List (Move ι)) : Gathering ι :=
  moves.foldl (fun x move => (x.step isFile move).getD x) x

theorem Arises.play {isFile : String → Bool} {x : Gathering ι} (before : Arises isFile ι x)
    (moves : List (Move ι)) : Arises isFile ι (x.play isFile moves) := by
  induction moves generalizing x with
  | nil => exact before
  | cons move rest ih =>
      show Arises isFile ι (((x.step isFile move).getD x).play isFile rest)
      cases hmade : x.step isFile move with
      | none => exact ih before
      | some y => exact ih (before.step move hmade)

/-- A move changes the provider by an operation or not at all, and an operation that notifies is a
client's call and owes one notification more. -/
theorem step_performs {isFile : String → Bool} {x y : Gathering ι} {move : Move ι}
    (hmade : x.step isFile move = some y) :
    y.state = x.state ∨ ∃ operation, y.state = (x.state.perform isFile operation).2 ∧
      (operation.notifies = true → ∃ who, move = .call who operation ∧ y.due = x.due + 1) := by
  cases move with
  | call who operation =>
      rw [step] at hmade
      split at hmade
      · cases hmade
        exact .inr ⟨operation, rfl, fun howes => ⟨who, rfl, by simp [howes]⟩⟩
      · cases hmade
  | enter who waitSet limit =>
      rw [step] at hmade
      split at hmade
      · refine .inr ⟨.enterWait waitSet, ?_, fun h => by cases h⟩
        show y.state = (x.state.enterWait waitSet).2
        split at hmade
        · cases hmade
          exact (congrArg Prod.snd ‹_›).symm
        · cases hmade
          exact (congrArg Prod.snd ‹_›).symm
      · cases hmade
  | notify =>
      rw [step] at hmade
      split at hmade
      · cases hmade
      · cases hmade
        exact .inl rfl
  | look who =>
      rw [step] at hmade
      split at hmade
      · split at hmade
        · cases hmade
          exact .inr ⟨.leaveWait _, rfl, fun h => by cases h⟩
        · cases hmade
          exact .inl rfl
      · cases hmade
  | expire who =>
      rw [step] at hmade
      split at hmade
      · split at hmade
        · cases hmade
        · cases hmade
          exact .inr ⟨.leaveWait _, rfl, fun h => by cases h⟩
      · cases hmade

/-! ## What holds after every run -/

/-- What holds after every run: a wait set is in use exactly while somebody waits on it, nobody
waits where somebody else does, and a client that sleeps on a triggered condition will be
notified. -/
structure Sound (isFile : String → Bool) (x : Gathering ι) : Prop where
  reachable : Reachable isFile x.state
  marked_iff : ∀ waitSet, x.state.Marked waitSet ↔ ∃ i, x.WaitsOn i waitSet
  alone : ∀ {i j waitSet}, x.WaitsOn i waitSet → x.WaitsOn j waitSet → i = j
  told : ∀ {i waitSet limit}, x.stances i = .waiting waitSet limit false →
    x.state.anyTriggered waitSet = true → 0 < x.due

/-- An operation that owes no notification lets no client go on. -/
theorem anyTriggered_of_perform {isFile : String → Bool} {s : State} {operation : Operation}
    {waitSet : WaitSetId} (hreach : Reachable isFile s) (howes : operation.notifies = false)
    (h : (s.perform isFile operation).2.anyTriggered waitSet = true) :
    s.anyTriggered waitSet = true := by
  rw [State.anyTriggered_eq_true_iff] at h ⊢
  obtain ⟨c, hc⟩ := h
  exact ⟨c, State.perform_prompts (State.conditioned_of_reachable hreach)
    (State.tethered_of_reachable hreach) howes hc⟩

variable {isFile : String → Bool} {x : Gathering ι}

theorem waitsOn_stand {who i : ι} {stance : Stance} {waitSet : WaitSetId} :
    (x.stand who stance).WaitsOn i waitSet ↔
      if i = who then stance.waitSet? = some waitSet else x.WaitsOn i waitSet := by
  show (if i = who then stance else x.stances i).waitSet? = some waitSet ↔ _
  split <;> exact .rfl

omit [DecidableEq ι] in
theorem not_waitsOn_of_free {who : ι} (hfree : x.stances who = .free) (waitSet : WaitSetId) :
    ¬x.WaitsOn who waitSet := by
  unfold WaitsOn
  rw [hfree]
  exact nofun

namespace Sound

omit [DecidableEq ι] in
theorem call (h : x.Sound isFile) (who : ι) {operation : Operation}
    (hcall : operation.isHalf = false) :
    Sound isFile { x with
      trace := .asked (some who) operation (x.state.perform isFile operation).1 :: x.trace
      state := (x.state.perform isFile operation).2
      due := if operation.notifies then x.due + 1 else x.due } := by
  have hwf := State.wellFormed_of_reachable h.reachable
  have htethered := State.tethered_of_reachable h.reachable
  refine ⟨h.reachable.step operation, fun waitSet => ?_, h.alone, fun hasleep htriggered => ?_⟩
  · exact (State.perform_marked htethered hwf isFile hcall waitSet).trans (h.marked_iff waitSet)
  · cases howes : operation.notifies with
    | true => exact Nat.succ_pos _
    | false => exact h.told hasleep (anyTriggered_of_perform h.reachable howes htriggered)

theorem enter (h : x.Sound isFile) {who : ι} {waitSet : WaitSetId} {s : State}
    (hfree : x.stances who = .free) (hok : x.state.enterWait waitSet = (.ok (), s))
    (limit : Duration) :
    Sound isFile { x.stand who (.waiting waitSet limit true) with
      trace := .asked (some who) (.enterWait waitSet) .done :: x.trace
      state := s } := by
  have hstep : s = (x.state.perform isFile (.enterWait waitSet)).2 :=
    (congrArg Prod.snd hok).symm
  obtain ⟨hunused, -⟩ := State.enterWait_marked hok waitSet
  -- entering is refused while somebody waits, so nobody else does
  have hnobody : ∀ i, ¬x.WaitsOn i waitSet :=
    fun i hi => hunused ((h.marked_iff waitSet).mpr ⟨i, hi⟩)
  refine ⟨hstep ▸ h.reachable.step _, fun k => ?_, fun {i j k} hi hj => ?_,
    fun {i k l} hasleep htriggered => ?_⟩
  · refine (State.enterWait_marked hok k).2.trans ?_
    rw [h.marked_iff]
    constructor
    · rintro (rfl | ⟨i, hi⟩)
      · exact ⟨who, waitsOn_stand.mpr (by rw [if_pos rfl]; rfl)⟩
      · refine ⟨i, waitsOn_stand.mpr ?_⟩
        rw [if_neg]
        · exact hi
        · rintro rfl
          exact not_waitsOn_of_free hfree k hi
    · rintro ⟨i, hi⟩
      have hi := waitsOn_stand.mp hi
      split at hi
      · exact .inl (Option.some.inj hi).symm
      · exact .inr ⟨i, hi⟩
  · have hi := waitsOn_stand.mp hi
    have hj := waitsOn_stand.mp hj
    split at hi <;> split at hj
    · exact ‹i = who›.trans ‹j = who›.symm
    · exact absurd (Option.some.inj hi ▸ hj) (hnobody j)
    · exact absurd (Option.some.inj hj ▸ hi) (hnobody i)
    · exact h.alone hi hj
  · have hasleep : (if i = who then Stance.waiting waitSet limit true else x.stances i) =
        .waiting k l false := hasleep
    split at hasleep
    · cases hasleep
    · rw [hstep] at htriggered
      exact h.told hasleep (anyTriggered_of_perform h.reachable rfl htriggered)

omit [DecidableEq ι] in
theorem notify (h : x.Sound isFile) (due : Nat) :
    Sound isFile { x with stances := fun i => (x.stances i).rouse, due } := by
  have hwaits : ∀ {i waitSet}, ((x.stances i).rouse).waitSet? = some waitSet ↔
      x.WaitsOn i waitSet := fun {i waitSet} => by
    rw [Stance.waitSet?_rouse]
    exact .rfl
  refine ⟨h.reachable, fun waitSet => ?_, fun hi hj => ?_, fun hasleep => ?_⟩
  · exact (h.marked_iff waitSet).trans (exists_congr fun i => hwaits.symm)
  · exact h.alone (hwaits.mp hi) (hwaits.mp hj)
  · exact absurd hasleep (Stance.rouse_ne_asleep _ _ _)

theorem leave (h : x.Sound isFile) {who : ι} {waitSet : WaitSetId}
    (hwaits : x.WaitsOn who waitSet) : (x.leave who waitSet).Sound isFile := by
  refine ⟨h.reachable.step (.leaveWait waitSet), fun k => ?_, fun {i j k} hi hj => ?_,
    fun {i k l} hasleep htriggered => ?_⟩
  · refine (State.leaveWait_marked x.state waitSet k).trans ?_
    rw [h.marked_iff]
    constructor
    · rintro ⟨hne, i, hi⟩
      refine ⟨i, waitsOn_stand.mpr ?_⟩
      rw [if_neg]
      · exact hi
      · rintro rfl
        exact hne (Option.some.inj (hi.symm.trans hwaits))
    · rintro ⟨i, hafter⟩
      have hi := waitsOn_stand.mp hafter
      split at hi
      · cases hi
      · -- two clients never wait on one wait set, so the mark of another stays
        rename_i hother
        refine ⟨fun heq => hother ?_, i, hi⟩
        exact h.alone (heq ▸ hi) hwaits
  · have hi := waitsOn_stand.mp hi
    have hj := waitsOn_stand.mp hj
    split at hi <;> split at hj
    · cases hi
    · cases hi
    · cases hj
    · exact h.alone hi hj
  · have hasleep : (if i = who then Stance.free else x.stances i) = .waiting k l false := hasleep
    split at hasleep
    · cases hasleep
    · have hquiet : (Operation.leaveWait waitSet).notifies = false := rfl
      exact h.told hasleep (anyTriggered_of_perform h.reachable hquiet htriggered)

/-- A client that found nothing triggered may sleep. -/
theorem sleep (h : x.Sound isFile) {who : ι} {waitSet : WaitSetId} {limit : Duration}
    (hwaits : x.WaitsOn who waitSet) (hquiet : ¬x.state.anyTriggered waitSet = true) :
    (x.stand who (.waiting waitSet limit false)).Sound isFile := by
  have hsame : ∀ {i k}, (x.stand who (.waiting waitSet limit false)).WaitsOn i k ↔
      x.WaitsOn i k := by
    intro i k
    rw [waitsOn_stand]
    split
    · rename_i heq
      rw [heq, WaitsOn, hwaits]
      exact .rfl
    · exact .rfl
  refine ⟨h.reachable, fun k => ?_, fun hi hj => h.alone (hsame.mp hi) (hsame.mp hj),
    fun {i k l} hasleep htriggered => ?_⟩
  · exact (h.marked_iff k).trans (exists_congr fun i => hsame.symm)
  · have hasleep : (if i = who then Stance.waiting waitSet limit false else x.stances i) =
        .waiting k l false := hasleep
    split at hasleep
    · cases hasleep
      exact absurd htriggered hquiet
    · exact h.told hasleep htriggered

/-- Whatever the next move is. -/
theorem step (h : x.Sound isFile) {move : Move ι} {y : Gathering ι}
    (hmade : x.step isFile move = some y) : y.Sound isFile := by
  cases move with
  | call who operation =>
      rw [Gathering.step] at hmade
      -- only a client that is not waiting calls, and not the other half of a wait
      split at hmade
      · cases hmade
        exact h.call who (And.right ‹_›)
      · cases hmade
  | enter who waitSet limit =>
      rw [Gathering.step] at hmade
      split at hmade
      · split at hmade
        · rename_i code s hresult
          have hkept := x.state.enterWait_keeps waitSet code (congrArg Prod.fst hresult)
          obtain rfl : s = x.state := (congrArg Prod.snd hresult).symm.trans hkept
          cases hmade
          exact ⟨h.reachable, h.marked_iff, h.alone, h.told⟩
        · cases hmade
          exact h.enter ‹_› ‹_› limit
      · cases hmade
  | notify =>
      rw [Gathering.step] at hmade
      split at hmade
      · cases hmade
      · cases hmade
        exact h.notify _
  | look who =>
      rw [Gathering.step] at hmade
      split at hmade
      · rename_i waitSet limit hwaits
        have hwaits : x.WaitsOn who waitSet := congrArg Stance.waitSet? hwaits
        split at hmade
        · cases hmade
          exact h.leave hwaits
        · cases hmade
          exact h.sleep hwaits ‹_›
      · cases hmade
  | expire who =>
      rw [Gathering.step] at hmade
      split at hmade
      · rename_i waitSet limit awake hwaits
        split at hmade
        · cases hmade
        · cases hmade
          exact h.leave (congrArg Stance.waitSet? hwaits)
      · cases hmade

end Sound

/-- A gathering is sound after every run. -/
theorem sound_of_arises (h : Arises isFile ι x) : x.Sound isFile := by
  induction h with
  | start maxSamples =>
      refine ⟨.new maxSamples, fun waitSet => iff_of_false ?_ ?_, nofun, nofun⟩
      · rintro ⟨w, hw, -⟩
        cases hw
      · rintro ⟨i, hi⟩
        cases hi
  | step before move made ih => exact ih.step made

/-- Clients perform operations, wait, sleep and are woken, in whatever order. A move that triggers
a condition attached to a wait set is a call that owes everybody a notification, so that nobody
sleeps on a triggered condition without a notification on its way. A wait set is in use exactly
while one client waits on it. It refuses another wait and its own deletion meanwhile, and it is
there after every move. -/
theorem no_wakeup_lost (h : Arises isFile ι x) :
    (∀ move y, x.step isFile move = some y → ∀ waitSet,
      (∃ c, y.state.Prompts waitSet c ∧ ¬x.state.Prompts waitSet c) ∨
        x.state.anyTriggered waitSet = false ∧ y.state.anyTriggered waitSet = true →
      ∃ who operation, move = .call who operation ∧ operation.notifies = true ∧
        y.due = x.due + 1) ∧
    (∀ i waitSet limit, x.stances i = .waiting waitSet limit false →
      x.state.anyTriggered waitSet = true → 0 < x.due) ∧
    (∀ waitSet, x.state.Marked waitSet ↔
      ∃ i, x.WaitsOn i waitSet ∧ ∀ j, x.WaitsOn j waitSet → j = i) ∧
    ∀ i waitSet, x.WaitsOn i waitSet →
      (∀ j limit, x.stances j = .free →
        x.step isFile (.enter j waitSet limit) = some { x with
          trace :=
            .asked (some j) (.enterWait waitSet) (.failed .preconditionNotMet) :: x.trace }) ∧
      x.state.perform isFile (.deleteWaitSet waitSet) = (.failed .preconditionNotMet, x.state) ∧
      ∀ move y, x.step isFile move = some y → ∃ w, y.state.waitSets.get? waitSet = some w := by
  have hsound := sound_of_arises h
  have hconditioned := State.conditioned_of_reachable hsound.reachable
  have htethered := State.tethered_of_reachable hsound.reachable
  have hwf := State.wellFormed_of_reachable hsound.reachable
  refine ⟨fun move y hmade waitSet hnew => ?_, fun i waitSet limit hasleep htriggered => ?_,
    fun waitSet => ?_, fun i waitSet hwaits => ?_⟩
  · -- either way some condition prompts that did not
    obtain ⟨c, hafter, hbefore⟩ :
        ∃ c, y.state.Prompts waitSet c ∧ ¬x.state.Prompts waitSet c := by
      rcases hnew with hnew | ⟨hquiet, htriggered⟩
      · exact hnew
      · obtain ⟨c, hc⟩ := State.anyTriggered_eq_true_iff.mp htriggered
        refine ⟨c, hc, fun hbefore => ?_⟩
        rw [State.anyTriggered_eq_true_iff.mpr ⟨c, hbefore⟩] at hquiet
        cases hquiet
    -- a step is an operation, or it leaves the provider as it is
    rcases step_performs hmade with hsame | ⟨operation, hperform, howed⟩
    · exact absurd (hsame ▸ hafter) hbefore
    · cases howes : operation.notifies with
      | true =>
          obtain ⟨who, hmove, hdue⟩ := howed howes
          exact ⟨who, operation, hmove, howes, hdue⟩
      | false =>
          rw [hperform] at hafter
          exact absurd (State.perform_prompts hconditioned htethered howes hafter) hbefore
  · exact hsound.told hasleep htriggered
  · rw [hsound.marked_iff]
    constructor
    · rintro ⟨i, hi⟩
      exact ⟨i, hi, fun j hj => hsound.alone hj hi⟩
    · rintro ⟨i, hi, -⟩
      exact ⟨i, hi⟩
  · have hmarked := (hsound.marked_iff waitSet).mpr ⟨i, hwaits⟩
    refine ⟨fun j limit hfree => ?_, ?_, fun move y hmade => ?_⟩
    · rw [step, if_pos hfree, hmarked.enterWait]
      rfl
    · rw [State.perform, hmarked.deleteWaitSet]
      rfl
    · rcases step_performs hmade with hsame | ⟨operation, hperform, -⟩
      · obtain ⟨w, hw, -⟩ := hmarked
        exact ⟨w, hsame ▸ hw⟩
      · rw [hperform]
        exact hmarked.stays htethered hwf isFile operation

/-- One client sets up a writer and a reader. The other waits for data and falls asleep, and then a
sample is written. -/
def sleepThenWrite : List (Move Bool) :=
  State.chatRun.map (.call true) ++
    [.call false (.statusCondition ⟨6⟩), .call false (.setEnabled ⟨7⟩ (.ofKind .dataAvailable)),
      .call false .createWaitSet, .call false (.attach ⟨8⟩ ⟨7⟩)] ++
    List.replicate 8 .notify ++
    [.enter false ⟨8⟩ .infinite, .look false, .call true (.write ⟨5⟩ [1])]

/-- The client sleeps although there is data, and the write owes a notification. -/
theorem no_wakeup_lost_on_write :
    let x := (start Bool (.new)).play (fun _ => false) sleepThenWrite
    Arises (fun _ => false) Bool x ∧
      x.stances false = .waiting ⟨8⟩ .infinite false ∧ x.state.anyTriggered ⟨8⟩ = true ∧
      0 < x.due := by
  intro x
  have harises : Arises (fun _ => false) Bool x := (Arises.start _).play sleepThenWrite
  have hasleep : x.stances false = .waiting ⟨8⟩ .infinite false := by decide +kernel
  have htriggered : x.state.anyTriggered ⟨8⟩ = true := by decide +kernel
  exact ⟨harises, hasleep, htriggered,
    (no_wakeup_lost harises).2.1 false ⟨8⟩ .infinite hasleep htriggered⟩

end Gathering

end DdsBridge.Provider
