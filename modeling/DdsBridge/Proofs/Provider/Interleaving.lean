import DdsBridge.Proofs.Provider.Conditions

/-!
# Clients that take turns

A client is a program: calls of the provider, and what it does with the answers. Clients take
turns call by call, with other parties in between. A wait is two turns, so that the others act
while the client is blocked.

An entity has one condition, and the condition has one set of statuses that trigger it. All clients
that wait for something on the entity share it, so what the last of them enabled is what everybody
waits for.

* **`Client`**, **`Thread.turn`**, **`Scene`**, **`Interleaves`** — clients and what happens.
* **`State.Leaves`** — what a step leaves of the conditions and of the wait sets that it does not
  name, **`perform_leaves`**.
* **`lastMask`** — who enabled a condition last, and for what.
* **`anyTriggered_iff`** — when a wait set with one condition lets its client go on.
* **`Interleaves.sound`** — what holds however the clients take turns.
-/

namespace DdsBridge.Provider

/-! ## Clients -/

/-- What a client asks of a provider, and how it goes on with the answers. -/
inductive Client (R : Type) where
  | done (result : R)
  | ask (operation : Operation) (next : Reply → Client R)
  | wait (waitSet : WaitSetId) (limit : Duration) (next : ReturnCode → Client R)

/-- A client on its way: about to go on, or blocked in a wait. -/
inductive Thread (R : Type) where
  | ready (client : Client R)
  | blocked (waitSet : WaitSetId) (limit : Duration) (next : ReturnCode → Client R)

/-- What is kept of a turn: somebody's call and the answer, where nobody in particular is another
party, or the end of a client's wait and the state that it ended in. -/
inductive Entry (ι : Type) where
  | asked (who : Option ι) (operation : Operation) (reply : Reply)
  | ended (who : ι) (waitSet : WaitSetId) (code : ReturnCode) (state : State)
  deriving DecidableEq

variable {ι R : Type}

/-- A client's turn, if it can take one. A client that is blocked looks at its conditions; if none
is triggered it goes on once its time is up, and a client that waits without an end does not. -/
def Thread.turn (isFile : String → Bool) (s : State) (who : ι) :
    Thread R → Option (Entry ι × Thread R × State)
  | .ready (.done _) => none
  | .ready (.ask operation next) =>
    let (reply, s') := s.perform isFile operation
    some (.asked (some who) operation reply, .ready (next reply), s')
  | .ready (.wait waitSet limit next) =>
    let (reply, s') := s.perform isFile (.enterWait waitSet)
    let thread : Thread R :=
      match reply with
      | .failed code => .ready (next code)
      | _ => .blocked waitSet limit next
    some (.asked (some who) (.enterWait waitSet) reply, thread, s')
  | .blocked waitSet limit next =>
    if s.anyTriggered waitSet then
      some (.ended who waitSet .ok s, .ready (next .ok), s.leaveWait waitSet)
    else if limit.isInfinite then none
    else some (.ended who waitSet .timeout s, .ready (next .timeout), s.leaveWait waitSet)

/-- Where clients and provider stand, and what happened so far, the latest first. -/
structure Scene (ι R : Type) where
  trace : List (Entry ι)
  threads : ι → Thread R
  state : State

namespace Scene

/-- Nothing happened yet. -/
def start (clients : ι → Client R) (s : State) : Scene ι R :=
  ⟨[], fun i => .ready (clients i), s⟩

/-- A client's turn. -/
def turn [DecidableEq ι] (isFile : String → Bool) (x : Scene ι R) (i : ι) : Scene ι R :=
  match (x.threads i).turn isFile x.state i with
  | none => x
  | some (entry, thread, s) =>
    ⟨entry :: x.trace, fun j => if j = i then thread else x.threads j, s⟩

/-- A call of another party. -/
def other (isFile : String → Bool) (x : Scene ι R) (operation : Operation) : Scene ι R :=
  let (reply, s) := x.state.perform isFile operation
  ⟨.asked none operation reply :: x.trace, x.threads, s⟩

end Scene

/-- The wait set that an operation names. -/
def Operation.waitSet? : Operation → Option WaitSetId
  | .deleteWaitSet waitSet | .attach waitSet _ | .detach waitSet _ | .enterWait waitSet
  | .leaveWait waitSet => some waitSet
  | _ => none

/-- A client made a wait set. -/
def Made (t : List (Entry ι)) (i : ι) (waitSet : WaitSetId) : Prop :=
  .asked (some i) .createWaitSet (.waitSet waitSet) ∈ t

theorem Made.cons {t : List (Entry ι)} {i : ι} {waitSet : WaitSetId} (h : Made t i waitSet)
    (entry : Entry ι) : Made (entry :: t) i waitSet := List.mem_cons_of_mem entry h

/-- Clients take turns with each other and with other parties, who may do anything but touch the
wait sets that the clients made for themselves. -/
inductive Interleaves [DecidableEq ι] (isFile : String → Bool) (clients : ι → Client R)
    (s : State) : Scene ι R → Prop
  | start : Interleaves isFile clients s (.start clients s)
  | turn {x : Scene ι R} (before : Interleaves isFile clients s x) (i : ι) :
      Interleaves isFile clients s (x.turn isFile i)
  | other {x : Scene ι R} (before : Interleaves isFile clients s x) (operation : Operation)
      (untouched : ∀ waitSet, operation.waitSet? = some waitSet → ∀ i, ¬Made x.trace i waitSet) :
      Interleaves isFile clients s (x.other isFile operation)

/-- Clients that take turns by a schedule. -/
theorem Interleaves.play [DecidableEq ι] {isFile : String → Bool} {clients : ι → Client R}
    {s : State} {x : Scene ι R} (before : Interleaves isFile clients s x) (schedule : List ι) :
    Interleaves isFile clients s (schedule.foldl (Scene.turn isFile) x) := by
  induction schedule generalizing x with
  | nil => exact before
  | cons i rest ih => exact ih (before.turn i)

/-! ## What a step leaves -/

/-- The statuses that an operation enables a condition for. -/
def Operation.enables (c : ConditionId) : Operation → Option StatusMask
  | .setEnabled k mask => if k = c then some mask else none
  | _ => none

theorem Operation.enables_setEnabled (c k : ConditionId) (mask : StatusMask) :
    (Operation.setEnabled k mask).enables c = if k = c then some mask else none := rfl

namespace State

/-- What an operation leaves of what there was: an entity that stays keeps its condition, a
condition that stays keeps its entity and what it is enabled for unless the operation says
otherwise, and a wait set that the operation does not name loses no condition but those that are
gone. -/
structure Leaves (s s' : State) (operation : Operation) : Prop where
  lastId_le : s.lastId ≤ s'.lastId
  entities : ∀ {e}, e.id ≤ s.lastId → ∀ {r'}, s'.entities.get? e = some r' →
    ∃ r, s.entities.get? e = some r ∧ ∀ c, r.condition = some c → r'.condition = some c
  conditions : ∀ {c}, c.id ≤ s.lastId → ∀ {x'}, s'.conditions.get? c = some x' →
    ∃ x, s.conditions.get? c = some x ∧ x'.entity = x.entity ∧
      x'.enabled = (operation.enables c).getD x.enabled
  waitSets : ∀ {waitSet}, waitSet.id ≤ s.lastId → operation.waitSet? ≠ some waitSet →
    ∃ dropped, s'.waitSets.get? waitSet = (s.waitSets.get? waitSet).map (·.without dropped) ∧
      ∀ c ∈ dropped, s'.conditions.get? c = none

variable {s s' : State} {operation : Operation}

/-- Wait sets are all that changes. -/
theorem Leaves.of_same (hid : s.lastId ≤ s'.lastId) (hentities : s'.entities = s.entities)
    (hconditions : s'.conditions = s.conditions) (henables : ∀ c, operation.enables c = none)
    (hwaitSets : ∀ waitSet, waitSet.id ≤ s.lastId → operation.waitSet? ≠ some waitSet →
      s'.waitSets.get? waitSet = s.waitSets.get? waitSet) : s.Leaves s' operation := by
  refine ⟨hid, fun {_} _ {r'} hr' => ?_, fun {c} _ {x'} hx' => ?_, fun {waitSet} hold hother => ?_⟩
  · exact ⟨r', hentities ▸ hr', fun _ hc => hc⟩
  · exact ⟨x', hconditions ▸ hx', rfl, by rw [henables]; rfl⟩
  · refine ⟨[], ?_, fun c hc => absurd hc List.not_mem_nil⟩
    rw [hwaitSets waitSet hold hother]
    simp

theorem Leaves.spares {dropped : List ConditionId} (h : s.Spares s' dropped)
    (henables : ∀ c, operation.enables c = none) :
    s.Leaves s' operation := by
  refine ⟨h.lastId_le, fun {_} hold {r'} hr' => ?_, fun {c} _ {x'} hx' => ?_, fun {waitSet} _ _ => ?_⟩
  · obtain ⟨r, hr, hsame⟩ := h.kept hold hr'
    exact ⟨r, hr, fun c hc => hsame.trans hc⟩
  · rw [h.conditions] at hx'
    split at hx'
    · cases hx'
    · exact ⟨x', hx', rfl, by rw [henables]; rfl⟩
  · refine ⟨dropped, h.waitSets waitSet, fun c hc => ?_⟩
    rw [h.conditions, if_pos hc]

theorem Leaves.statusCondition {e : Handle} {c : ConditionId}
    (hok : s.statusCondition e = (.ok c, s')) : s.Leaves s' (.statusCondition e) := by
  rcases statusCondition_eq_ok hok with ⟨-, rfl⟩ | ⟨hnone, -, hnew, rfl⟩
  · exact .of_same (Nat.le_refl _) rfl rfl (fun _ => rfl) fun _ _ _ => rfl
  · refine ⟨Nat.le_succ _, fun {k} _ {r'} hr' => ?_, fun {k} hold {x'} hx' => ?_,
      fun {waitSet} _ _ => ⟨[], by simp, fun c hc => absurd hc List.not_mem_nil⟩⟩
    · have hlook : (s.entities.modify e fun r => { r with condition := some c }).get? k =
          some r' := hr'
      rw [Table.get?_modify] at hlook
      split at hlook
      · rename_i hk
        obtain ⟨r, hr, rfl⟩ := Option.map_eq_some_iff.mp hlook
        -- the entity had no condition before
        refine ⟨r, hr, fun k' hk' => ?_⟩
        rw [← hk, conditionOf, hr] at hnone
        exact absurd (hk'.symm.trans hnone) (by simp)
      · exact ⟨r', hlook, fun _ hc => hc⟩
    · have hne : k ≠ c := by
        rintro rfl
        rw [hnew] at hold
        exact absurd hold (Nat.not_succ_le_self _)
      have hlook : (s.conditions.insert c ⟨e, .all⟩).get? k = some x' := hx'
      rw [Table.get?_insert, if_neg hne] at hlook
      exact ⟨x', hlook, rfl, rfl⟩

theorem Leaves.setEnabled {c : ConditionId} {mask : StatusMask}
    (hok : s.setEnabled c mask = (.ok (), s')) : s.Leaves s' (.setEnabled c mask) := by
  obtain ⟨-, rfl⟩ := setEnabled_eq_ok hok
  refine ⟨Nat.le_refl _, fun {_} _ {r'} hr' => ⟨r', hr', fun _ hc => hc⟩, fun {k} _ {x'} hx' => ?_,
    fun {waitSet} _ _ => ⟨[], by simp, fun c hc => absurd hc List.not_mem_nil⟩⟩
  have hlook : (s.conditions.modify c fun x => { x with enabled := mask }).get? k = some x' := hx'
  rw [Table.get?_modify] at hlook
  rw [Operation.enables_setEnabled]
  split at hlook
  · rename_i hk
    obtain ⟨x, hx, rfl⟩ := Option.map_eq_some_iff.mp hlook
    exact ⟨x, hx, rfl, by rw [if_pos hk.symm]; rfl⟩
  · rename_i hk
    exact ⟨x', hlook, rfl, by rw [if_neg (Ne.symm hk)]; rfl⟩

/-- An operation that fails leaves everything. -/
theorem Leaves.failed (s : State) (operation : Operation)
    (henables : ∀ c x, operation.enables c = some x → s.conditions.get? c = none) :
    s.Leaves s operation := by
  refine ⟨Nat.le_refl _, fun {_} _ {r'} hr' => ⟨r', hr', fun _ hc => hc⟩, fun {c} _ {x'} hx' => ?_,
    fun {waitSet} _ _ => ⟨[], by simp, fun c hc => absurd hc List.not_mem_nil⟩⟩
  refine ⟨x', hx', rfl, ?_⟩
  cases hc : operation.enables c with
  | none => rfl
  | some mask =>
      rw [henables c mask hc] at hx'
      cases hx'

/-- What every operation leaves. -/
theorem perform_leaves (hwf : s.WellFormed) (isFile : String → Bool) (operation : Operation) :
    s.Leaves (s.perform isFile operation).2 operation := by
  by_cases hwaiting : operation.isWaiting = false
  · obtain ⟨dropped, hspares⟩ := perform_spares hwf isFile hwaiting
    refine .spares hspares fun c => ?_
    cases operation with
    | setEnabled k mask => cases hwaiting
    | _ => rfl
  · have hcase := perform_cases isFile s operation
    generalize hresult : s.perform isFile operation = result at hcase ⊢
    cases hcase with
    | refused hrefused =>
        -- enabling is refused for an unknown condition only
        refine .failed s _ fun c mask henables => ?_
        cases operation with
        | setEnabled k mask' =>
            rw [Operation.enables_setEnabled] at henables
            split at henables
            · rename_i heq
              rcases hok : s.setEnabled k mask' with ⟨code | _, s'⟩
              · exact heq ▸ (setEnabled_eq_error hok).1
              · rw [perform, hok] at hrefused
                cases hrefused
            · cases henables
        | _ => cases henables
    | created hready hcreates => exact absurd hcreates.isWaiting_eq hwaiting
    | @joined side => exact absurd (side.isWaiting_create _ _ _) hwaiting
    | asked hok => exact .statusCondition hok
    | enabled hok => exact .setEnabled hok
    | madeWaitSet =>
        refine .of_same (Nat.le_succ _) rfl rfl (fun _ => rfl) fun waitSet hold _ => ?_
        show (s.waitSets.insert ⟨s.lastId + 1⟩ ⟨[], false⟩).get? waitSet = _
        rw [Table.get?_insert, if_neg]
        rintro rfl
        exact absurd hold (Nat.not_succ_le_self _)
    | @droppedWaitSet waitSet _ hok =>
        obtain ⟨-, rfl⟩ := deleteWaitSet_eq_ok hok
        refine .of_same (Nat.le_refl _) rfl rfl (fun _ => rfl) fun k _ hother => ?_
        show (s.waitSets.erase waitSet).get? k = _
        rw [Table.get?_erase, if_neg fun h => hother (congrArg some h.symm)]
    | attached | detached | entered | left =>
        refine .of_same (Nat.le_refl _) rfl rfl (fun _ => rfl) fun k _ hother => ?_
        exact Table.get?_modify_ne _ (fun h => hother (congrArg some h.symm)) _
    | apart => exact .of_same (Nat.le_refl _) rfl rfl (fun _ => rfl) fun _ _ _ => rfl
    | _ => exact absurd rfl hwaiting

/-! ## A client's condition and its wait set -/

/-- A condition is that of an entity, as long as there is one. -/
structure Serves (s : State) (e : Handle) (c : ConditionId) : Prop where
  entity_issued : e.id ≤ s.lastId
  issued : c.id ≤ s.lastId
  own : ∀ {r}, s.entities.get? e = some r → r.condition = some c
  entity : ∀ {x}, s.conditions.get? c = some x → x.entity = e

theorem Serves.leaves {e : Handle} {c : ConditionId} (h : s.Serves e c)
    (hstep : s.Leaves s' operation) : s'.Serves e c := by
  refine ⟨Nat.le_trans h.entity_issued hstep.lastId_le, Nat.le_trans h.issued hstep.lastId_le,
    fun hr' => ?_, fun hx' => ?_⟩
  · obtain ⟨r, hr, hkeeps⟩ := hstep.entities h.entity_issued hr'
    exact hkeeps c (h.own hr)
  · obtain ⟨x, hx, hsame, -⟩ := hstep.conditions h.issued hx'
    exact hsame.trans (h.entity hx)

/-- The condition that a client is given serves the entity it asked about. -/
theorem Serves.given {e : Handle} {c : ConditionId} (hwf : s.WellFormed)
    (hconditioned : s'.Conditioned) (hok : s.statusCondition e = (.ok c, s')) : s'.Serves e c := by
  have hown := statusCondition_conditionOf hok
  obtain ⟨mask, hmask⟩ := hconditioned.known hown
  obtain ⟨r', hr', hc⟩ := conditionOf_eq_some_iff.mp hown
  refine ⟨?_, hconditioned.issued hmask, fun hr => ?_, fun hx => ?_⟩
  · obtain ⟨r, hr⟩ := live_of_statusCondition hok
    have hissued := hwf.issued (profile_of_get? hr)
    exact Nat.le_trans hissued (Leaves.statusCondition hok).lastId_le
  · rw [hr'] at hr
    exact Option.some.inj hr ▸ hc
  · rw [hmask] at hx
    exact (congrArg Condition.entity (Option.some.inj hx)).symm

/-- A wait set holds one condition and nothing else, unless the condition is gone. -/
def Watches (s : State) (waitSet : WaitSetId) (c : ConditionId) (waiting : Bool) : Prop :=
  ∃ w, s.waitSets.get? waitSet = some w ∧ w.waiting = waiting ∧ (∀ k ∈ w.conditions, k = c) ∧
    ∀ x, s.conditions.get? c = some x → c ∈ w.conditions

theorem Watches.leaves {waitSet : WaitSetId} {c : ConditionId} {waiting : Bool}
    (h : s.Watches waitSet c waiting) (hold : waitSet.id ≤ s.lastId) (hissued : c.id ≤ s.lastId)
    (hstep : s.Leaves s' operation) (hother : operation.waitSet? ≠ some waitSet) :
    s'.Watches waitSet c waiting := by
  obtain ⟨w, hw, hwaiting, honly, hattached⟩ := h
  obtain ⟨dropped, hlook, hgone⟩ := hstep.waitSets hold hother
  refine ⟨w.without dropped, by rw [hlook, hw]; rfl, hwaiting,
    fun k hk => honly k (List.mem_filter.mp hk).1, fun x' hx' => ?_⟩
  obtain ⟨x, hx, -⟩ := hstep.conditions hissued hx'
  refine List.mem_filter.mpr ⟨hattached x hx, decide_eq_true fun hmem => ?_⟩
  rw [hgone c hmem] at hx'
  cases hx'

/-- A client that attaches its condition to a wait set of its own watches it. -/
theorem Watches.attached {waitSet : WaitSetId} {c : ConditionId}
    (hw : s.waitSets.get? waitSet = some ⟨[], false⟩) (hok : s.attach waitSet c = (.ok (), s')) :
    s'.Watches waitSet c false := by
  obtain ⟨-, -, rfl⟩ := attach_eq_ok hok
  refine ⟨⟨[c], false⟩, ?_, rfl, fun k hk => List.mem_singleton.mp hk,
    fun _ _ => List.mem_singleton_self c⟩
  show (s.waitSets.modify waitSet _).get? waitSet = _
  rw [Table.get?_modify_self, hw]
  rfl

/-- A client that watches its condition can begin to wait. -/
theorem Watches.enterWait {waitSet : WaitSetId} {c : ConditionId}
    (h : s.Watches waitSet c false) :
    ∃ s', s.enterWait waitSet = (.ok (), s') ∧ s'.Watches waitSet c true := by
  obtain ⟨w, hw, hidle, honly, hattached⟩ := h
  refine ⟨{ s with waitSets := s.waitSets.modify waitSet fun w => { w with waiting := true } },
    ?_, { w with waiting := true }, ?_, rfl, honly, hattached⟩
  · unfold State.enterWait
    rw [hw]
    simp [hidle, succeed]
  · show (s.waitSets.modify waitSet _).get? waitSet = _
    rw [Table.get?_modify_self, hw]
    rfl

/-- A wait set to which nothing was attached yet. -/
theorem Leaves.empty {waitSet : WaitSetId} (hstep : s.Leaves s' operation)
    (hold : waitSet.id ≤ s.lastId) (hother : operation.waitSet? ≠ some waitSet)
    (hw : s.waitSets.get? waitSet = some ⟨[], false⟩) :
    s'.waitSets.get? waitSet = some ⟨[], false⟩ := by
  obtain ⟨dropped, hlook, -⟩ := hstep.waitSets hold hother
  rw [hlook, hw]
  rfl

/-- The statuses raised on an entity; on one that is gone there is none. -/
def raisedOn (s : State) (e : Handle) : StatusMask :=
  ((s.entities.get? e).map Record.raised).getD .none

/-- A wait set with the condition of an entity lets its client go on exactly while the entity
carries a status that the condition is enabled for. -/
theorem anyTriggered_iff {e : Handle} {c : ConditionId} {waitSet : WaitSetId} {waiting : Bool}
    {mask : StatusMask} (hconditioned : s.Conditioned) (hserves : s.Serves e c)
    (hwatches : s.Watches waitSet c waiting)
    (hmask : ∀ x, s.conditions.get? c = some x → x.enabled = mask) :
    s.anyTriggered waitSet = (s.raisedOn e).intersects mask := by
  obtain ⟨w, hw, -, honly, hattached⟩ := hwatches
  have hany : s.anyTriggered waitSet = w.conditions.any s.isTriggered := by
    unfold anyTriggered
    rw [hw]
  unfold raisedOn
  cases hr : s.entities.get? e with
  | some r =>
      obtain ⟨mask', hx⟩ :=
        hconditioned.known (conditionOf_eq_some_iff.mpr ⟨r, hr, hserves.own hr⟩)
      obtain rfl := hmask _ hx
      have htriggered : s.isTriggered c = r.raised.intersects mask' := by
        unfold isTriggered
        rw [hx]
        dsimp only
        rw [hr]
      show _ = r.raised.intersects mask'
      rw [hany, ← htriggered, Bool.eq_iff_iff, List.any_eq_true]
      constructor
      · rintro ⟨k, hk, htrig⟩
        exact honly k hk ▸ htrig
      · intro htrig
        exact ⟨c, hattached _ hx, htrig⟩
  | none =>
      -- the condition went with its entity
      have hgone : s.conditions.get? c = none := by
        cases hx : s.conditions.get? c with
        | none => rfl
        | some x =>
            obtain ⟨r, hr', -⟩ := conditionOf_eq_some_iff.mp (hconditioned.owned hx)
            rw [hserves.entity hx, hr] at hr'
            cases hr'
      have hfalse : w.conditions.any s.isTriggered = false := by
        rw [List.any_eq_false]
        intro k hk htrig
        rw [honly k hk, isTriggered, hgone] at htrig
        cases htrig
      rw [hany, hfalse]
      simp [StatusMask.intersects, StatusMask.none]

end State

/-! ## What holds however clients take turns -/

/-- Who enabled a condition last, and for which statuses. -/
def lastMask (c : ConditionId) : List (Entry ι) → Option (Option ι × StatusMask)
  | [] => none
  | .asked who (.setEnabled k mask) .done :: before =>
    if k = c then some (who, mask) else lastMask c before
  | _ :: before => lastMask c before

/-- What takes the provider from one state to the next: a call with its answer, or the end of a
wait, which ends well exactly if a condition is triggered. -/
inductive Happens (isFile : String → Bool) (s : State) : Entry ι → State → Prop
  | asked (who : Option ι) (operation : Operation) :
      Happens isFile s (.asked who operation (s.perform isFile operation).1)
        (s.perform isFile operation).2
  | woken (who : ι) {waitSet : WaitSetId} (triggered : s.anyTriggered waitSet = true) :
      Happens isFile s (.ended who waitSet .ok s) (s.leaveWait waitSet)
  | expired (who : ι) {waitSet : WaitSetId} (quiet : s.anyTriggered waitSet = false) :
      Happens isFile s (.ended who waitSet .timeout s) (s.leaveWait waitSet)

/-- The operation of an entry. -/
def Entry.operation : Entry ι → Operation
  | .asked _ operation _ => operation
  | .ended _ waitSet _ _ => .leaveWait waitSet

theorem Happens.state_eq {isFile : String → Bool} {s s' : State} {entry : Entry ι}
    (h : Happens isFile s entry s') : s' = (s.perform isFile entry.operation).2 := by
  cases h <;> rfl

/-- The end of a wait is well exactly if a condition is triggered, and else the time was up. -/
theorem Thread.turn_blocked {isFile : String → Bool} {s s' : State} {who : ι} {waitSet : WaitSetId}
    {limit : Duration} {next : ReturnCode → Client R} {thread' : Thread R} {entry : Entry ι}
    (h : (Thread.blocked waitSet limit next).turn isFile s who = some (entry, thread', s')) :
    ∃ code, entry = .ended who waitSet code s ∧ thread' = .ready (next code) ∧
      s' = s.leaveWait waitSet ∧
      (s.anyTriggered waitSet = true ∧ code = .ok ∨
        s.anyTriggered waitSet = false ∧ code = .timeout) := by
  rw [Thread.turn] at h
  cases htriggered : s.anyTriggered waitSet with
  | true =>
      rw [htriggered] at h
      cases h
      exact ⟨.ok, rfl, rfl, rfl, .inl ⟨rfl, rfl⟩⟩
  | false =>
      rw [htriggered] at h
      cases hlimit : limit.isInfinite with
      | true =>
          rw [hlimit] at h
          cases h
      | false =>
          rw [hlimit] at h
          cases h
          exact ⟨.timeout, rfl, rfl, rfl, .inr ⟨rfl, rfl⟩⟩

/-- A call whose answer comes of a result: it fails and nothing changes, or it goes on. -/
theorem Thread.turn_settleWith {isFile : String → Bool} {s s' : State} {who : ι} {α : Type}
    {operation : Operation} {next : Reply → Client R} {thread' : Thread R} {entry : Entry ι}
    {reply : α → Reply} {result : Result α} (hkeeps : s.Keeps result)
    (h : (Thread.ready (.ask operation next)).turn isFile s who = some (entry, thread', s'))
    (hop : s.perform isFile operation = result.settleWith reply) :
    (∃ code, result = (.error code, s) ∧ entry = .asked (some who) operation (.failed code) ∧
      thread' = .ready (next (.failed code)) ∧ s' = s) ∨
    ∃ a, result = (.ok a, s') ∧ entry = .asked (some who) operation (reply a) ∧
      thread' = .ready (next (reply a)) := by
  rw [Thread.turn, hop] at h
  obtain ⟨answer, s₁⟩ := result
  cases answer with
  | error code =>
      obtain rfl : s₁ = s := hkeeps code rfl
      cases h
      exact .inl ⟨code, rfl, rfl, rfl, rfl⟩
  | ok a =>
      cases h
      exact .inr ⟨a, rfl, rfl, rfl⟩

theorem Thread.turn_settle {isFile : String → Bool} {s s' : State} {who : ι}
    {operation : Operation} {next : Reply → Client R} {thread' : Thread R} {entry : Entry ι}
    {result : Result Unit} (hkeeps : s.Keeps result)
    (h : (Thread.ready (.ask operation next)).turn isFile s who = some (entry, thread', s'))
    (hop : s.perform isFile operation = result.settle) :
    (∃ code, result = (.error code, s) ∧ entry = .asked (some who) operation (.failed code) ∧
      thread' = .ready (next (.failed code)) ∧ s' = s) ∨
    result = (.ok (), s') ∧ entry = .asked (some who) operation .done ∧
      thread' = .ready (next .done) := by
  rcases Thread.turn_settleWith hkeeps h hop with hfailed | ⟨_, hdone⟩
  · exact .inl hfailed
  · exact .inr hdone

/-- What is kept of a turn is what happens. -/
theorem Thread.turn_happens {isFile : String → Bool} {s s' : State} {who : ι}
    {thread thread' : Thread R} {entry : Entry ι}
    (h : thread.turn isFile s who = some (entry, thread', s')) : Happens isFile s entry s' := by
  cases thread with
  | ready client =>
      cases client with
      | done result => cases h
      | ask operation next =>
          cases h
          exact .asked _ _
      | wait waitSet limit next =>
          cases h
          exact .asked _ _
  | blocked waitSet limit next =>
      obtain ⟨code, rfl, -, rfl, ⟨htriggered, rfl⟩ | ⟨hquiet, rfl⟩⟩ := Thread.turn_blocked h
      · exact .woken who htriggered
      · exact .expired who hquiet

/-- What holds of every scene: what a condition is enabled for is what was enabled last, and no two
clients made the same wait set. -/
structure Scene.Sound (x : Scene ι R) : Prop where
  wellFormed : x.state.WellFormed
  conditioned : x.state.Conditioned
  inForce : ∀ {c who mask}, lastMask c x.trace = some (who, mask) →
    c.id ≤ x.state.lastId ∧ ∀ k, x.state.conditions.get? c = some k → k.enabled = mask
  issued : ∀ {i waitSet}, Made x.trace i waitSet → waitSet.id ≤ x.state.lastId
  made_unique : ∀ {i j waitSet}, Made x.trace i waitSet → Made x.trace j waitSet → i = j

namespace Scene.Sound

variable {isFile : String → Bool} {x : Scene ι R} {s' : State} {entry : Entry ι}

theorem leaves (h : x.Sound) (hstep : Happens isFile x.state entry s') :
    x.state.Leaves s' entry.operation := by
  rw [hstep.state_eq]
  exact State.perform_leaves h.wellFormed isFile _

/-- The mask that was enabled last is that of the latest entry, or an older one that the latest
entry left. -/
theorem lastMask_cons {t : List (Entry ι)} {s : State} {c : ConditionId} {who : Option ι}
    {mask : StatusMask} (hstep : Happens isFile s entry s')
    (hlast : lastMask c (entry :: t) = some (who, mask)) :
    (entry = .asked who (.setEnabled c mask) .done ∧ ∃ x, s.conditions.get? c = some x) ∨
      (entry.operation.enables c = none ∨ s.conditions.get? c = none) ∧
        lastMask c t = some (who, mask) := by
  cases hstep with
  | woken who triggered => exact .inr ⟨.inl rfl, hlast⟩
  | expired who quiet => exact .inr ⟨.inl rfl, hlast⟩
  | asked by' operation =>
      cases operation with
      | setEnabled k enabled =>
          have hperform : (s.perform isFile (.setEnabled k enabled)).1 =
              (s.setEnabled k enabled).settle.1 := rfl
          rcases hok : s.setEnabled k enabled with ⟨code | _, s'⟩
          · -- a refused call enables nothing, as the condition is unknown
            rw [hperform, hok] at hlast
            refine .inr ⟨?_, hlast⟩
            by_cases hk : k = c
            · exact .inr (hk ▸ (State.setEnabled_eq_error hok).1)
            · exact .inl (if_neg hk)
          · rw [hperform, hok] at hlast ⊢
            obtain ⟨hknown, -⟩ := State.setEnabled_eq_ok hok
            unfold lastMask at hlast
            simp only [Result.settle, Result.settleWith, Reply.of] at hlast
            split at hlast
            · rename_i hk
              cases hlast
              exact .inl ⟨hk ▸ rfl, hk ▸ hknown⟩
            · rename_i hk
              exact .inr ⟨.inl (if_neg hk), hlast⟩
      | _ => exact .inr ⟨.inl rfl, hlast⟩

/-- A wait set that was just made is a new one. -/
theorem made_cons {t : List (Entry ι)} {s : State} {i : ι} {waitSet : WaitSetId}
    (hstep : Happens isFile s entry s') (hmade : Made (entry :: t) i waitSet) :
    (entry = .asked (some i) .createWaitSet (.waitSet waitSet) ∧ waitSet = ⟨s.lastId + 1⟩ ∧
      s'.lastId = s.lastId + 1) ∨ Made t i waitSet := by
  rcases List.mem_cons.mp hmade with heq | hmade
  · refine .inl ⟨heq.symm, ?_⟩
    rw [← heq] at hstep
    cases hstep
    exact ⟨rfl, rfl⟩
  · exact .inr hmade

/-- Whatever happens, the scene stays sound. -/
theorem step (h : x.Sound) (hstep : Happens isFile x.state entry s') (threads : ι → Thread R) :
    Scene.Sound ⟨entry :: x.trace, threads, s'⟩ := by
  have hleaves := h.leaves hstep
  constructor
  · show s'.WellFormed
    rw [hstep.state_eq]
    exact State.wellFormed_perform h.wellFormed isFile _
  · show s'.Conditioned
    rw [hstep.state_eq]
    exact State.conditioned_perform h.conditioned h.wellFormed isFile _
  · intro c who mask hlast
    -- the last mask was set just now, or before and nothing was enabled since
    rcases lastMask_cons hstep hlast with ⟨rfl, x₀, hx₀⟩ | ⟨hnot, hlast⟩
    · have hissued := h.conditioned.issued hx₀
      refine ⟨Nat.le_trans hissued hleaves.lastId_le, fun k hk => ?_⟩
      obtain ⟨_, -, -, henabled⟩ := hleaves.conditions hissued hk
      rw [henabled]
      simp [Entry.operation, Operation.enables]
    · obtain ⟨hissued, hmask⟩ := h.inForce hlast
      refine ⟨Nat.le_trans hissued hleaves.lastId_le, fun k hk => ?_⟩
      obtain ⟨k₀, hk₀, -, henabled⟩ := hleaves.conditions hissued hk
      rcases hnot with hnot | hgone
      · rw [henabled, hnot]
        exact hmask k₀ hk₀
      · rw [hgone] at hk₀
        cases hk₀
  · intro i waitSet hmade
    rcases made_cons hstep hmade with ⟨-, rfl, hnext⟩ | hmade
    · exact Nat.le_of_eq hnext.symm
    · exact Nat.le_trans (h.issued hmade) hleaves.lastId_le
  · intro i j waitSet hi hj
    -- a wait set made just now bears a number that none had before
    rcases made_cons hstep hi with ⟨hi, hnew, -⟩ | hi <;>
      rcases made_cons hstep hj with ⟨hj, hnew', -⟩ | hj
    · rw [hi] at hj
      cases hj
      rfl
    · have hissued := h.issued hj
      rw [hnew] at hissued
      exact absurd hissued (Nat.not_succ_le_self _)
    · have hissued := h.issued hi
      rw [hnew'] at hissued
      exact absurd hissued (Nat.not_succ_le_self _)
    · exact h.made_unique hi hj

end Scene.Sound

/-- However clients take turns, the scene is sound. -/
theorem Interleaves.sound [DecidableEq ι] {isFile : String → Bool} {clients : ι → Client R}
    {s : State} {x : Scene ι R} (hreach : Reachable isFile s)
    (hrun : Interleaves isFile clients s x) : x.Sound := by
  induction hrun with
  | start =>
      refine ⟨State.wellFormed_of_reachable hreach, State.conditioned_of_reachable hreach,
        fun hlast => ?_, fun hmade => ?_, fun hmade => ?_⟩
      · cases hlast
      · cases hmade
      · cases hmade
  | turn before i ih =>
      unfold Scene.turn
      split
      · exact ih
      · exact ih.step (Thread.turn_happens ‹_›) _
  | other before operation untouched ih => exact ih.step (.asked none operation) _

end DdsBridge.Provider
