import DdsBridge.Proofs.Provider.TypeNames
import DdsBridge.Proofs.Provider.Wakeups

/-!
# One condition for an entity, one entity for a condition

The link between an entity and its status condition is stored on both ends, and wait sets store the
condition a third time. The number of a condition is never issued again, so the link can end in one
way only: the entity goes, and then its condition goes with it, out of every wait set and for good.

* **`State.Binds`** — what a run may do to links between entities and conditions.
* **`binds_perform`**, **`binds_run`** — every step and every run does that.
* **`State.conditions_correspond`** — the links of a reachable state.
-/

namespace DdsBridge.Provider.State

/-! ## Links over time -/

/-- A condition that was issued stays with the entity that it was made for, and an entity that is
still there has the condition that it had. -/
structure Binds (s s' : State) : Prop extends s.Precedes s' where
  recorded : ∀ {c x'}, c.id ≤ s.lastId → s'.conditions.get? c = some x' →
    ∃ x, s.conditions.get? c = some x ∧ x.entity = x'.entity
  known : ∀ {h c r'}, h.id ≤ s.lastId → s.conditionOf h = some c →
    s'.entities.get? h = some r' → s'.conditionOf h = some c

variable {s s' s'' : State} {isFile : String → Bool}

namespace Binds

theorem refl (s : State) : s.Binds s :=
  ⟨.refl s, fun {_ x'} _ hx' => ⟨x', hx', rfl⟩, fun _ hc _ => hc⟩

theorem trans (h : s.Binds s') (h' : s'.Binds s'') : s.Binds s'' := by
  refine ⟨h.toPrecedes.trans h'.toPrecedes, fun {c x''} hissued hx'' => ?_,
    fun {e c r''} hissued hc hr'' => ?_⟩
  · obtain ⟨x', hx', hsame'⟩ := h'.recorded (Nat.le_trans hissued h.lastId_le) hx''
    obtain ⟨x, hx, hsame⟩ := h.recorded hissued hx'
    exact ⟨x, hx, hsame.trans hsame'⟩
  · -- numbers are not issued again, so the entity was there in between
    have hissued' := Nat.le_trans hissued h.lastId_le
    have hprofile := h'.profile hissued' (profile_of_get? hr'')
    obtain ⟨r', hr', -⟩ := profile_eq_some_iff.mp hprofile
    exact h'.known hissued' (h.known hissued hc hr') hr''

/-- Nothing happens to entities and conditions. -/
theorem of_same (hentities : s'.entities = s.entities) (hconditions : s'.conditions = s.conditions)
    (hid : s.lastId ≤ s'.lastId) : s.Binds s' := by
  refine ⟨.of_entities hentities hid, fun {c x'} _ hx' => ⟨x', hconditions ▸ hx', rfl⟩,
    fun {h c r'} _ hc _ => ?_⟩
  unfold conditionOf at hc ⊢
  rw [hentities]
  exact hc

/-- Some entities go, with their conditions. -/
theorem of_spares {dropped : List ConditionId} (hprecedes : s.Precedes s')
    (hspares : s.Spares s' dropped) : s.Binds s' := by
  refine ⟨hprecedes, fun {c x'} _ hx' => ?_, fun {h c r'} hissued hc hr' => ?_⟩
  · rw [hspares.conditions] at hx'
    split at hx'
    · cases hx'
    · exact ⟨x', hx', rfl⟩
  · obtain ⟨r, hr, hsame⟩ := hspares.kept hissued hr'
    obtain ⟨r₀, hr₀, hcond⟩ := conditionOf_eq_some_iff.mp hc
    rw [hr] at hr₀
    obtain rfl := Option.some.inj hr₀
    exact conditionOf_eq_some_iff.mpr ⟨r', hr', hsame.trans hcond⟩

/-- A new condition has a number that was not issued, and is made for an entity that had none. -/
theorem statusCondition {e : Handle} {c : ConditionId} (hprecedes : s.Precedes s')
    (hok : s.statusCondition e = (.ok c, s')) : s.Binds s' := by
  rcases statusCondition_eq_ok hok with ⟨-, rfl⟩ | ⟨hnone, -, hnew, rfl⟩
  · exact refl s'
  · refine ⟨hprecedes, fun {k x'} hissued hx' => ?_, fun {h k r'} _ hk hr' => ?_⟩
    · have hne : k ≠ c := by
        rintro rfl
        rw [hnew] at hissued
        exact absurd hissued (Nat.not_succ_le_self _)
      rw [Table.get?_insert, if_neg hne] at hx'
      exact ⟨x', hx', rfl⟩
    · have hne : h ≠ e := by
        rintro rfl
        rw [hnone] at hk
        cases hk
      unfold conditionOf at hk ⊢
      rw [Table.get?_modify_ne _ hne]
      exact hk

theorem setEnabled {c : ConditionId} {mask : StatusMask}
    (hok : s.setEnabled c mask = (.ok (), s')) : s.Binds s' := by
  obtain ⟨-, rfl⟩ := setEnabled_eq_ok hok
  refine ⟨.of_entities rfl (Nat.le_refl _), fun {k x'} _ hx' => ?_, fun _ hk _ => hk⟩
  rw [Table.get?_modify] at hx'
  split at hx'
  · obtain ⟨x, hx, rfl⟩ := Option.map_eq_some_iff.mp hx'
    exact ⟨x, hx, rfl⟩
  · exact ⟨x', hx', rfl⟩

end Binds

theorem binds_perform (hwf : s.WellFormed) (isFile : String → Bool) (operation : Operation) :
    s.Binds (s.perform isFile operation).2 := by
  have hprecedes : s.Precedes (s.perform isFile operation).2 :=
    (perform_evolves hwf isFile operation).precedes
  by_cases hwaiting : operation.isWaiting = false
  · obtain ⟨dropped, hspares⟩ := perform_spares hwf isFile hwaiting
    exact .of_spares hprecedes hspares
  · have hcase := perform_cases isFile s operation
    generalize s.perform isFile operation = result at hprecedes hcase ⊢
    cases hcase with
    | refused | apart => exact .refl s
    | created hready hcreates => exact absurd hcreates.isWaiting_eq hwaiting
    | @joined side => exact absurd (side.isWaiting_create _ _ _) hwaiting
    | asked hok => exact .statusCondition hprecedes hok
    | enabled hok => exact .setEnabled hok
    | madeWaitSet => exact .of_same rfl rfl (Nat.le_succ _)
    | droppedWaitSet hok =>
        obtain ⟨-, rfl⟩ := deleteWaitSet_eq_ok hok
        exact .of_same rfl rfl (Nat.le_refl _)
    | attached | detached | entered | left => exact .of_same rfl rfl (Nat.le_refl _)
    | _ => exact absurd rfl hwaiting

theorem binds_run (hreach : Reachable isFile s) (operations : List Operation) :
    s.Binds (s.run isFile operations) := by
  induction operations generalizing s with
  | nil => exact .refl s
  | cons operation rest ih =>
      have hstep := binds_perform (wellFormed_of_reachable hreach) isFile operation
      exact hstep.trans (ih (.step hreach operation))

/-! ## Asking for a condition -/

/-- An entity that has a condition gives that one, and nothing changes. -/
theorem perform_statusCondition_again {e : Handle} {c : ConditionId}
    (hc : s.conditionOf e = some c) :
    s.perform isFile (.statusCondition e) = (.condition c, s) := by
  obtain ⟨r, hr, hcond⟩ := conditionOf_eq_some_iff.mp hc
  simp only [perform, State.statusCondition, hr, hcond]
  rfl

variable (isFile) in
/-- A live entity has a condition to give, and has it from then on. -/
theorem perform_statusCondition_live {e : Handle} {r : Record}
    (hr : s.entities.get? e = some r) :
    ∃ c, (s.perform isFile (.statusCondition e)).1 = .condition c ∧
      (s.perform isFile (.statusCondition e)).2.conditionOf e = some c := by
  obtain ⟨c, s', hok⟩ := statusCondition_live hr
  refine ⟨c, ?_, ?_⟩ <;> rw [perform, hok]
  · rfl
  · exact statusCondition_conditionOf hok

/-! ## The links of a reachable state -/

/-- A condition is recorded for an entity exactly if the entity is live and has it as its own. -/
theorem Conditioned.recorded_iff (hc : s.Conditioned) (c : ConditionId) (e : Handle) :
    (∃ mask, s.conditions.get? c = some ⟨e, mask⟩) ↔
      ∃ r, s.entities.get? e = some r ∧ r.condition = some c := by
  rw [← conditionOf_eq_some_iff]
  constructor
  · rintro ⟨mask, hmask⟩
    exact hc.owned hmask
  · intro hown
    exact hc.known hown

/-- The condition of an entity that is gone is gone. -/
theorem Binds.forgotten (h : s.Binds s') (hc : s.Conditioned) (hc' : s'.Conditioned)
    {c : ConditionId} {x : Condition} (hx : s.conditions.get? c = some x)
    (hgone : s'.entities.get? x.entity = none) : s'.conditions.get? c = none := by
  cases hx' : s'.conditions.get? c with
  | none => rfl
  | some x' =>
      obtain ⟨x₀, hx₀, hsame⟩ := h.recorded (hc.issued hx) hx'
      rw [hx] at hx₀
      obtain rfl := Option.some.inj hx₀
      obtain ⟨r, hr, -⟩ := conditionOf_eq_some_iff.mp (hc'.owned hx')
      rw [← hsame, hgone] at hr
      cases hr

/-- In every reachable state conditions and entities refer to each other one to one, wait sets hold
recorded conditions of live entities only, a live entity always gives the same condition and
changes nothing by giving it again, and once an entity is gone no wait set holds its condition. -/
theorem conditions_correspond (hreach : Reachable isFile s) :
    (∀ c e, (∃ mask, s.conditions.get? c = some ⟨e, mask⟩) ↔
      ∃ r, s.entities.get? e = some r ∧ r.condition = some c) ∧
    (∀ later c c' e mask mask', s.conditions.get? c = some ⟨e, mask⟩ →
      (s.run isFile later).conditions.get? c' = some ⟨e, mask'⟩ → c' = c) ∧
    (∀ e r, s.entities.get? e = some r →
      ∃ c asked, s.perform isFile (.statusCondition e) = (.condition c, asked) ∧
        ∀ later, (asked.run isFile later).isAlive e = true →
          (asked.run isFile later).perform isFile (.statusCondition e) =
            (.condition c, asked.run isFile later)) ∧
    (∀ waitSet w, s.waitSets.get? waitSet = some w → ∀ c ∈ w.conditions,
      ∃ e mask r, s.conditions.get? c = some ⟨e, mask⟩ ∧ s.entities.get? e = some r ∧
        r.condition = some c) ∧
    (∀ later c e mask, s.conditions.get? c = some ⟨e, mask⟩ →
      (s.run isFile later).isAlive e = false →
      ∀ waitSet w, (s.run isFile later).waitSets.get? waitSet = some w → c ∉ w.conditions) := by
  have hc := conditioned_of_reachable hreach
  have hwf := wellFormed_of_reachable hreach
  refine ⟨hc.recorded_iff, fun later c c' e mask mask' hx hx' => ?_, fun e r hr => ?_,
    fun waitSet w hw c hmem => ?_, fun later c e mask hx hgone waitSet w hw hmem => ?_⟩
  · have hc' := conditioned_of_reachable (reachable_run hreach later)
    -- the entity is there in the end, so that it still has the condition it had
    obtain ⟨r, hr, hcond⟩ := (hc.recorded_iff c e).mp ⟨mask, hx⟩
    obtain ⟨r', hr', hcond'⟩ := (hc'.recorded_iff c' e).mp ⟨mask', hx'⟩
    have hissued := hwf.issued (profile_of_get? hr)
    have hown := conditionOf_eq_some_iff.mpr ⟨r, hr, hcond⟩
    have hkept := (binds_run hreach later).known hissued hown hr'
    rw [conditionOf_eq_some_iff.mpr ⟨r', hr', hcond'⟩] at hkept
    exact Option.some.inj hkept
  · obtain ⟨c, hreply, hown⟩ := perform_statusCondition_live isFile hr
    have hasked : Reachable isFile (s.perform isFile (.statusCondition e)).2 := .step hreach _
    refine ⟨c, _, Prod.ext hreply rfl, fun later halive => ?_⟩
    obtain ⟨r', hr'⟩ := Option.isSome_iff_exists.mp halive
    obtain ⟨r₁, hr₁, -⟩ := conditionOf_eq_some_iff.mp hown
    have hissued :=
      (wellFormed_of_reachable hasked).issued (profile_of_get? hr₁)
    exact perform_statusCondition_again ((binds_run hasked later).known hissued hown hr')
  · obtain ⟨⟨e, mask⟩, hx⟩ := (tethered_of_reachable hreach).known hw hmem
    obtain ⟨r, hr, hcond⟩ := (hc.recorded_iff c e).mp ⟨mask, hx⟩
    exact ⟨e, mask, r, hx, hr, hcond⟩
  · have hreach' := reachable_run hreach later
    have hnone : (s.run isFile later).entities.get? e = none := by
      simpa [isAlive, Table.contains] using hgone
    have hforgotten :=
      (binds_run hreach later).forgotten hc (conditioned_of_reachable hreach') hx hnone
    obtain ⟨x, hx'⟩ := (tethered_of_reachable hreach').known hw hmem
    rw [hforgotten] at hx'
    cases hx'

/-- The reader of the chat gives its condition, which is attached to a wait set. -/
def attachedRun : List Operation :=
  chatRun ++ [.statusCondition ⟨6⟩, .createWaitSet, .attach ⟨8⟩ ⟨7⟩]

theorem conditions_correspond_chat :
    Reachable (fun _ => false) (new.run (fun _ => false) attachedRun) ∧
      (∃ e mask r, (new.run (fun _ => false) attachedRun).conditions.get? ⟨7⟩ = some ⟨e, mask⟩ ∧
        (new.run (fun _ => false) attachedRun).entities.get? e = some r ∧
        r.condition = some ⟨7⟩) ∧
      ⟨7⟩ ∉ (((new.run (fun _ => false) attachedRun).run (fun _ => false)
        [.deleteContained ⟨1⟩]).waitSets.get? ⟨8⟩).elim [] WaitSet.conditions := by
  have hreach : Reachable (fun _ => false) (new.run (fun _ => false) attachedRun) :=
    reachable_run (.new _) attachedRun
  obtain ⟨-, -, -, hheld, hdropped⟩ := conditions_correspond hreach
  refine ⟨hreach, hheld ⟨8⟩ ⟨[⟨7⟩], false⟩ (by decide) ⟨7⟩ (by decide), ?_⟩
  exact hdropped [.deleteContained ⟨1⟩] ⟨7⟩ ⟨6⟩ .all (by decide) (by decide) ⟨8⟩ ⟨[], false⟩
    (by decide)

end DdsBridge.Provider.State
