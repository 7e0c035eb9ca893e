import DdsBridge.Proofs.Bridge.Contention

/-!
# Waits that leave nothing behind

A wait of the bridge makes a wait set, and has to delete it on every way out: any of its calls may
fail instead of acting, and other parties act between its calls and while it is blocked, up to the
deletion of the entity that it waits for. Only the others keep off its wait set.

* **`Thread.fail`**, **`Besets`** — a wait whose calls may fail, among other parties.
* **`Withdraws`** — where the wait is, and what is left to delete there: **`Withdraws.others`** for
  what the others do, **`Withdraws.turn`** for its next call and **`Withdraws.fail`** for one that
  fails.
* **`Foreign`** — a wait set and its attachments are the others'.
* **`wait_leaves_nothing`** — what is there once the wait is over, and what it tells.
-/

namespace DdsBridge

namespace Provider

/-! ## Calls that fail instead of acting -/

/-- Operations of a wait that may fail instead of acting. -/
def Operation.mayFail : Operation → Bool
  | .statusCondition _ | .setEnabled .. | .attach .. | .detach .. => true
  | _ => false

variable {ι R : Type}

/-- A client's next call fails with a code, and the provider does not act. -/
def Thread.fail (who : ι) (code : ReturnCode) : Thread R → Option (Entry ι × Thread R)
  | .ready (.ask operation next) =>
    if operation.mayFail then
      some (.asked (some who) operation (.failed code), .ready (next (.failed code)))
    else none
  | .ready (.wait waitSet _ next) =>
    some (.asked (some who) (.enterWait waitSet) (.failed code), .ready (next code))
  | _ => none

/-- A client whose next call fails, if it can. -/
def Scene.fail [DecidableEq ι] (x : Scene ι R) (i : ι) (code : ReturnCode) : Scene ι R :=
  match (x.threads i).fail i code with
  | none => x
  | some (entry, thread) =>
    ⟨entry :: x.trace, fun j => if j = i then thread else x.threads j, x.state⟩

namespace State

variable {isFile : String → Bool} {s : State}

theorem get?_modify_self_eq_some {k : WaitSetId} {f : WaitSet → WaitSet} {w' : WaitSet}
    (h : (s.waitSets.modify k f).get? k = some w') :
    ∃ w, s.waitSets.get? k = some w ∧ w' = f w := by
  rw [Table.get?_modify_self] at h
  obtain ⟨w, hw, rfl⟩ := Option.map_eq_some_iff.mp h
  exact ⟨w, hw, rfl⟩

/-- An operation on conditions and wait sets leaves every wait set that it neither names nor
makes. -/
theorem perform_waitSets {operation : Operation} {k : WaitSetId}
    (hwaiting : operation.isWaiting = true) (hnames : operation.waitSet? ≠ some k)
    (hmakes : operation = .createWaitSet → k ≠ ⟨s.lastId + 1⟩) :
    (s.perform isFile operation).2.waitSets.get? k = s.waitSets.get? k := by
  have hcase := perform_cases isFile s operation
  generalize s.perform isFile operation = result at hcase ⊢
  cases hcase with
  | refused | apart => rfl
  | created hready hcreates => exact absurd (hcreates.isWaiting_eq.symm.trans hwaiting) (by simp)
  | @joined side =>
      exact absurd ((side.isWaiting_create _ _ _).symm.trans hwaiting) (by simp)
  | asked hok => rcases statusCondition_eq_ok hok with ⟨-, rfl⟩ | ⟨-, -, -, rfl⟩ <;> rfl
  | enabled hok =>
      obtain ⟨-, rfl⟩ := setEnabled_eq_ok hok
      rfl
  | madeWaitSet =>
      show (s.waitSets.insert ⟨s.lastId + 1⟩ ⟨[], false⟩).get? k = _
      rw [Table.get?_insert, if_neg (hmakes rfl)]
  | @droppedWaitSet waitSet _ hok =>
      obtain ⟨-, rfl⟩ := deleteWaitSet_eq_ok hok
      show (s.waitSets.erase waitSet).get? k = _
      rw [Table.get?_erase, if_neg fun h => hnames (congrArg some h.symm)]
  | attached | detached | entered | left =>
      exact Table.get?_modify_ne _ (fun h => hnames (congrArg some h.symm)) _
  | _ => cases hwaiting

/-- A wait set that an operation names and leaves was there before, with every condition but the one
that the operation attaches. -/
theorem perform_named {operation : Operation} {k : WaitSetId} {w' : WaitSet}
    (hnames : operation.waitSet? = some k)
    (hw' : (s.perform isFile operation).2.waitSets.get? k = some w') :
    ∃ w, s.waitSets.get? k = some w ∧ ∀ c ∈ w'.conditions, c ∈ w.conditions ∨
      operation = .attach k c ∧ (s.perform isFile operation).1 = .done := by
  have hcase := perform_cases isFile s operation
  generalize s.perform isFile operation = result at hcase hw' ⊢
  cases hcase with
  | refused | apart => exact ⟨w', hw', fun c hc => .inl hc⟩
  | created hready hcreates => cases hcreates <;> cases hnames
  | @joined side => cases side <;> cases hnames
  | droppedWaitSet hok =>
      cases hnames
      obtain ⟨-, rfl⟩ := deleteWaitSet_eq_ok hok
      have hgone : (s.waitSets.erase k).get? k = some w' := hw'
      rw [Table.get?_erase, if_pos rfl] at hgone
      cases hgone
  | attached =>
      -- the one operation that adds a condition, and it adds the one that it names
      cases hnames
      obtain ⟨w, hw, rfl⟩ := get?_modify_self_eq_some hw'
      refine ⟨w, hw, fun c' hc' => ?_⟩
      rcases mem_insertCondition hc' with rfl | hc'
      · exact .inr ⟨rfl, rfl⟩
      · exact .inl hc'
  | detached =>
      cases hnames
      obtain ⟨w, hw, rfl⟩ := get?_modify_self_eq_some hw'
      exact ⟨w, hw, fun c' hc' => .inl (List.mem_filter.mp hc').1⟩
  | entered | left =>
      cases hnames
      obtain ⟨w, hw, rfl⟩ := get?_modify_self_eq_some hw'
      exact ⟨w, hw, fun c hc => .inl hc⟩
  | _ => cases hnames

/-- A wait set that is there was there before, or was just made, and a condition attached to it was
so before, or was just attached. -/
theorem perform_origin {operation : Operation} {k : WaitSetId} {w' : WaitSet} (hwf : s.WellFormed)
    (hw' : (s.perform isFile operation).2.waitSets.get? k = some w') :
    (∃ w, s.waitSets.get? k = some w ∧ ∀ c ∈ w'.conditions, c ∈ w.conditions ∨
      operation = .attach k c ∧ (s.perform isFile operation).1 = .done) ∨
      operation = .createWaitSet ∧ (s.perform isFile operation).1 = .waitSet k ∧
        w'.conditions = [] := by
  by_cases hwaiting : operation.isWaiting = false
  · obtain ⟨dropped, hspares⟩ := perform_spares hwf isFile hwaiting
    rw [hspares.waitSets] at hw'
    obtain ⟨w, hw, rfl⟩ := Option.map_eq_some_iff.mp hw'
    exact .inl ⟨w, hw, fun c hc => .inl (List.mem_filter.mp hc).1⟩
  · have hwaiting : operation.isWaiting = true := by simpa using hwaiting
    by_cases hnames : operation.waitSet? = some k
    · exact .inl (perform_named hnames hw')
    · by_cases hmakes : operation = .createWaitSet → k ≠ ⟨s.lastId + 1⟩
      · rw [perform_waitSets hwaiting hnames hmakes] at hw'
        exact .inl ⟨w', hw', fun c hc => .inl hc⟩
      · obtain ⟨rfl, hk⟩ := Classical.not_imp.mp hmakes
        obtain rfl := Decidable.not_not.mp hk
        have hlook : (s.waitSets.insert ⟨s.lastId + 1⟩ ⟨[], false⟩).get? ⟨s.lastId + 1⟩ =
            some w' := hw'
        rw [Table.get?_insert, if_pos rfl] at hlook
        obtain rfl := Option.some.inj hlook
        exact .inr ⟨rfl, rfl, rfl⟩

end State

end Provider

open Provider

namespace Bridge

/-- A wait goes on call by call, where calls may fail instead of acting, among other parties, who
may do anything but touch the wait set that the wait made for itself. -/
inductive Besets (isFile : String → Bool) (q : Watch) (s : State) : Scene Unit WaitOutcome → Prop
  | start : Besets isFile q s (.start (fun _ => q.client) s)
  | turn {x : Scene Unit WaitOutcome} (before : Besets isFile q s x) :
      Besets isFile q s (x.turn isFile ())
  | fail {x : Scene Unit WaitOutcome} (before : Besets isFile q s x) (code : ReturnCode) :
      Besets isFile q s (x.fail () code)
  | other {x : Scene Unit WaitOutcome} (before : Besets isFile q s x) (operation : Operation)
      (untouched : ∀ waitSet, operation.waitSet? = some waitSet → ¬Made x.trace () waitSet) :
      Besets isFile q s (x.other isFile operation)

/-! ## What the answers make of the wait -/

/-- The outcome that an answer makes inevitable: that of the end of the wait, or the failure of an
operation that came before. What the clean-up is answered does not matter. -/
def verdict? (q : Watch) : Entry Unit → Option WaitOutcome
  | .asked (some ()) (.statusCondition _) (.failed code) =>
    some (.error (.operation "get_statuscondition" code))
  | .asked (some ()) (.setEnabled ..) reply =>
    if reply.code.isOk then none
    else some (.error (.operation "set_enabled_statuses" reply.code))
  | .asked (some ()) (.attach ..) reply =>
    if reply.code.isOk then none else some (.error (.operation "attach_condition" reply.code))
  | .asked (some ()) (.enterWait _) (.failed code) => some (q.outcome code)
  | .ended () _ code _ => some (q.outcome code)
  | _ => none

/-- The wait on a wait set returned a code. -/
def Returned (t : List (Entry Unit)) (code : ReturnCode) : Prop :=
  ∃ waitSet, .asked (some ()) (.enterWait waitSet) (.failed code) ∈ t ∨
    ∃ s, .ended () waitSet code s ∈ t

/-- No answer so far decides the outcome. -/
def Undecided (q : Watch) (t : List (Entry Unit)) : Prop :=
  ∀ entry ∈ t, verdict? q entry = none

/-- One answer decides the outcome, and no other one differs. -/
structure Decided (q : Watch) (t : List (Entry Unit)) (outcome : WaitOutcome) : Prop where
  decides : ∃ entry ∈ t, verdict? q entry = some outcome
  agrees : ∀ entry ∈ t, ∀ {other}, verdict? q entry = some other → other = outcome

variable {q : Watch} {t : List (Entry Unit)} {entry : Entry Unit} {outcome : WaitOutcome}

theorem Undecided.cons (h : Undecided q t) (hnone : verdict? q entry = none) :
    Undecided q (entry :: t) := by
  intro e he
  rcases List.mem_cons.mp he with rfl | he
  · exact hnone
  · exact h e he

theorem Undecided.decide (h : Undecided q t) (hsome : verdict? q entry = some outcome) :
    Decided q (entry :: t) outcome := by
  refine ⟨⟨entry, List.mem_cons_self, hsome⟩, fun e he other hother => ?_⟩
  rcases List.mem_cons.mp he with rfl | he
  · exact Option.some.inj (hother.symm.trans hsome)
  · rw [h e he] at hother
    cases hother

theorem Decided.cons (h : Decided q t outcome) (hnone : verdict? q entry = none) :
    Decided q (entry :: t) outcome := by
  obtain ⟨e, he, hsome⟩ := h.decides
  refine ⟨⟨e, List.mem_cons_of_mem entry he, hsome⟩, fun e he other hother => ?_⟩
  rcases List.mem_cons.mp he with rfl | he
  · rw [hnone] at hother
    cases hother
  · exact h.agrees e he hother

/-- What decides the outcome is what the wait returned, or the failure of another operation. -/
theorem Decided.returned (h : Decided q t outcome) :
    (∃ code, outcome = q.outcome code ∧ Returned t code) ∨
      ∃ name code, outcome = .error (.operation name code) := by
  obtain ⟨e, he, hsome⟩ := h.decides
  unfold verdict? at hsome
  split at hsome
  · cases hsome
    exact .inr ⟨_, _, rfl⟩
  · split at hsome <;> cases hsome
    exact .inr ⟨_, _, rfl⟩
  · split at hsome <;> cases hsome
    exact .inr ⟨_, _, rfl⟩
  · cases hsome
    exact .inl ⟨_, rfl, _, .inl he⟩
  · cases hsome
    exact .inl ⟨_, rfl, _, .inr ⟨_, he⟩⟩
  · cases hsome

/-- The wait succeeds only if it returned `ok`. -/
theorem Decided.ok (h : Decided q t (.ok ())) : Returned t .ok := by
  rcases h.returned with ⟨code, hcode, hreturned⟩ | ⟨_, _, hcode⟩
  · cases code <;> cases hcode
    exact hreturned
  · cases hcode

/-- The time was up only if the wait returned `timeout`. -/
theorem Decided.timeout (h : Decided q t (.error (.timeout q.limit q.mask))) :
    Returned t .timeout := by
  rcases h.returned with ⟨code, hcode, hreturned⟩ | ⟨_, _, hcode⟩
  · cases code <;> cases hcode
    exact hreturned
  · cases hcode

/-! ## Where the wait is -/

/-- The wait has made no wait set. -/
def Bare (t : List (Entry Unit)) : Prop := ∀ k, ¬Made t () k

/-- The wait has made one wait set, which is there, and somebody waits on it or not. -/
structure Holds (t : List (Entry Unit)) (s : State) (waitSet : WaitSetId) (waiting : Bool) :
    Prop where
  only : ∀ k, Made t () k ↔ k = waitSet
  issued : waitSet.id ≤ s.lastId
  there : (s.waitSets.get? waitSet).map WaitSet.waiting = some waiting

/-- Whatever wait set the wait made is gone. -/
def Rid (t : List (Entry Unit)) (s : State) : Prop :=
  ∀ waitSet, Made t () waitSet → waitSet.id ≤ s.lastId ∧ s.waitSets.get? waitSet = none

/-- Where the wait is: what it holds there, and whether its outcome is decided. -/
inductive Withdraws (q : Watch) (t : List (Entry Unit)) (s : State) : Thread WaitOutcome → Prop
  | asking (bare : Bare t) (open_ : Undecided q t) : Withdraws q t s (.ready q.client)
  | enabling {c : ConditionId} (bare : Bare t) (open_ : Undecided q t) :
      Withdraws q t s (.ready (q.enable c))
  | preparing {c : ConditionId} (bare : Bare t) (open_ : Undecided q t) :
      Withdraws q t s (.ready (q.prepare c))
  | attaching {c : ConditionId} {waitSet : WaitSetId} (holds : Holds t s waitSet false)
      (open_ : Undecided q t) : Withdraws q t s (.ready (q.attach waitSet c))
  | entering {c : ConditionId} {waitSet : WaitSetId} (holds : Holds t s waitSet false)
      (open_ : Undecided q t) : Withdraws q t s (.ready (q.await waitSet c))
  | waiting {c : ConditionId} {waitSet : WaitSetId} (holds : Holds t s waitSet true)
      (open_ : Undecided q t) : Withdraws q t s (.blocked waitSet q.limit (q.leave waitSet c))
  | leaving {c : ConditionId} {waitSet : WaitSetId} {code : ReturnCode}
      (holds : Holds t s waitSet false) (decided : Decided q t (q.outcome code)) :
      Withdraws q t s (.ready (q.leave waitSet c code))
  | dismissing {waitSet : WaitSetId} {outcome : WaitOutcome} (holds : Holds t s waitSet false)
      (decided : Decided q t outcome) : Withdraws q t s (.ready (Watch.dismiss waitSet outcome))
  | finished {outcome : WaitOutcome} (rid : Rid t s) (decided : Decided q t outcome) :
      Withdraws q t s (.ready (.done outcome))

variable {isFile : String → Bool} {s s' : State} {operation : Operation} {waitSet : WaitSetId}
  {waiting : Bool}

/-- Only the wait itself makes wait sets for the wait. -/
theorem made_cons_other (operation : Operation) (reply : Reply) (k : WaitSetId) :
    Made (.asked none operation reply :: t) () k ↔ Made t () k := by
  simp [Made]

theorem made_cons_of_ne (hnot : entry.operation ≠ .createWaitSet) (k : WaitSetId) :
    Made (entry :: t) () k ↔ Made t () k := by
  unfold Made
  rw [List.mem_cons]
  refine or_iff_right fun heq => hnot ?_
  rw [← heq]
  rfl

/-- An operation that does not name the wait set leaves it. -/
theorem Holds.leaves (h : Holds t s waitSet waiting) (hstep : s.Leaves s' operation)
    (hother : operation.waitSet? ≠ some waitSet)
    (hsame : ∀ k, Made (entry :: t) () k ↔ Made t () k) :
    Holds (entry :: t) s' waitSet waiting := by
  obtain ⟨dropped, hlook, -⟩ := hstep.waitSets h.issued hother
  refine ⟨fun k => (hsame k).trans (h.only k), Nat.le_trans h.issued hstep.lastId_le, ?_⟩
  rw [hlook, Option.map_map]
  exact h.there

/-- An operation on the wait set itself that keeps it. -/
theorem Holds.keeps {waiting' : Bool} (h : Holds t s waitSet waiting) (hid : s.lastId ≤ s'.lastId)
    (hnot : entry.operation ≠ .createWaitSet)
    (hthere : (s'.waitSets.get? waitSet).map WaitSet.waiting = some waiting') :
    Holds (entry :: t) s' waitSet waiting' :=
  ⟨fun k => (made_cons_of_ne hnot k).trans (h.only k), Nat.le_trans h.issued hid, hthere⟩

theorem Holds.still (h : Holds t s waitSet waiting) (hnot : entry.operation ≠ .createWaitSet) :
    Holds (entry :: t) s waitSet waiting :=
  h.keeps (Nat.le_refl _) hnot h.there

theorem Rid.leaves (h : Rid t s) (hstep : s.Leaves s' operation)
    (huntouched : ∀ waitSet, operation.waitSet? = some waitSet → ¬Made t () waitSet)
    (hsame : ∀ k, Made (entry :: t) () k ↔ Made t () k) : Rid (entry :: t) s' := by
  intro waitSet hmade
  have hmade := (hsame waitSet).mp hmade
  obtain ⟨hissued, hgone⟩ := h waitSet hmade
  obtain ⟨dropped, hlook, -⟩ := hstep.waitSets hissued fun hnames => huntouched _ hnames hmade
  exact ⟨Nat.le_trans hissued hstep.lastId_le, by rw [hlook, hgone]; rfl⟩

theorem Bare.cons (h : Bare t) (hsame : ∀ k, Made (entry :: t) () k ↔ Made t () k) :
    Bare (entry :: t) := fun k hk => h k ((hsame k).mp hk)

theorem Bare.rid (h : Bare t) (s : State) : Rid t s := fun k hk => absurd hk (h k)

/-- What the others do leaves the wait where it is, for nobody else touches its wait set. -/
theorem Withdraws.others {thread : Thread WaitOutcome} (h : Withdraws q t s thread)
    (hstep : s.Leaves s' operation)
    (huntouched : ∀ waitSet, operation.waitSet? = some waitSet → ¬Made t () waitSet)
    (reply : Reply) : Withdraws q (.asked none operation reply :: t) s' thread := by
  have hsame := made_cons_other (t := t) operation reply
  have hnone : verdict? q (.asked none operation reply) = none := rfl
  have hother : ∀ {waitSet waiting}, Holds t s waitSet waiting →
      operation.waitSet? ≠ some waitSet :=
    fun holds hnames => huntouched _ hnames ((holds.only _).mpr rfl)
  cases h with
  | asking bare open_ => exact .asking (bare.cons hsame) (open_.cons hnone)
  | enabling bare open_ => exact .enabling (bare.cons hsame) (open_.cons hnone)
  | preparing bare open_ => exact .preparing (bare.cons hsame) (open_.cons hnone)
  | attaching holds open_ =>
      exact .attaching (holds.leaves hstep (hother holds) hsame) (open_.cons hnone)
  | entering holds open_ =>
      exact .entering (holds.leaves hstep (hother holds) hsame) (open_.cons hnone)
  | waiting holds open_ =>
      exact .waiting (holds.leaves hstep (hother holds) hsame) (open_.cons hnone)
  | leaving holds decided =>
      exact .leaving (holds.leaves hstep (hother holds) hsame) (decided.cons hnone)
  | dismissing holds decided =>
      exact .dismissing (holds.leaves hstep (hother holds) hsame) (decided.cons hnone)
  | finished rid decided =>
      exact .finished (rid.leaves hstep huntouched hsame) (decided.cons hnone)

/-- A call that fails instead of acting brings the wait one step further, or to its clean-up. -/
theorem Withdraws.fail {thread thread' : Thread WaitOutcome} {code : ReturnCode}
    (h : Withdraws q t s thread) (hfail : thread.fail () code = some (entry, thread')) :
    Withdraws q (entry :: t) s thread' := by
  cases h with
  | asking bare open_ =>
      cases hfail
      exact .finished ((bare.cons (made_cons_of_ne (by nofun))).rid s) (open_.decide rfl)
  | @enabling c bare open_ =>
      cases hfail
      have hbare : Bare (.asked (some ()) (.setEnabled c q.mask) (.failed code) :: t) :=
        bare.cons (made_cons_of_ne (by nofun))
      dsimp only
      split
      · rename_i hok
        exact .preparing hbare (open_.cons (if_pos hok))
      · rename_i hfailed
        exact .finished (hbare.rid s) (open_.decide (if_neg hfailed))
  | preparing bare open_ => cases hfail
  | @attaching c waitSet holds open_ =>
      cases hfail
      have hholds :
          Holds (.asked (some ()) (.attach waitSet c) (.failed code) :: t) s waitSet false :=
        holds.still nofun
      dsimp only
      split
      · rename_i hok
        exact .entering hholds (open_.cons (if_pos hok))
      · rename_i hfailed
        exact .dismissing hholds (open_.decide (if_neg hfailed))
  | entering holds open_ =>
      cases hfail
      exact .leaving (holds.still nofun) (open_.decide rfl)
  | waiting holds open_ => cases hfail
  | leaving holds decided =>
      cases hfail
      exact .dismissing (holds.still nofun) (decided.cons rfl)
  | dismissing holds decided => cases hfail
  | finished rid decided => cases hfail

/-- Every call brings the wait one step further. -/
theorem Withdraws.turn {thread thread' : Thread WaitOutcome} (h : Withdraws q t s thread)
    (hturn : thread.turn isFile s () = some (entry, thread', s')) :
    Withdraws q (entry :: t) s' thread' := by
  cases h with
  | asking bare open_ =>
      rcases Thread.turn_settleWith (s.statusCondition_keeps _) hturn rfl with
        ⟨code, -, rfl, rfl, rfl⟩ | ⟨c, -, rfl, rfl⟩
      · exact .finished ((bare.cons (made_cons_of_ne fun h => by cases h)).rid _) (open_.decide rfl)
      · exact .enabling (bare.cons (made_cons_of_ne (fun h => by cases h))) (open_.cons rfl)
  | @enabling c bare open_ =>
      rcases Thread.turn_settle (s.setEnabled_keeps _ _) hturn rfl with
        ⟨code, hfails, rfl, rfl, rfl⟩ | ⟨-, rfl, rfl⟩
      · obtain ⟨-, rfl⟩ := State.setEnabled_eq_error hfails
        exact .finished ((bare.cons (made_cons_of_ne fun h => by cases h)).rid _) (open_.decide rfl)
      · exact .preparing (bare.cons (made_cons_of_ne (fun h => by cases h))) (open_.cons rfl)
  | preparing bare open_ =>
      rw [Watch.prepare, Thread.turn] at hturn
      cases hturn
      refine .attaching ⟨fun k => ?_, Nat.le_refl _, ?_⟩ (open_.cons rfl)
      · refine (List.mem_cons.trans (or_iff_left (bare k))).trans ?_
        simp
      · show ((s.waitSets.insert _ _).get? _).map _ = _
        rw [Table.get?_insert, if_pos rfl]
        rfl
  | @attaching c waitSet holds open_ =>
      rcases Thread.turn_settle (s.attach_keeps _ _) hturn rfl with
        ⟨code, hfails, rfl, rfl, rfl⟩ | ⟨hok, rfl, rfl⟩
      · -- the wait set is there already, and has to go
        obtain rfl := State.attach_eq_error hfails
        exact .dismissing (holds.still (fun h => by cases h)) (open_.decide rfl)
      · obtain ⟨-, -, rfl⟩ := State.attach_eq_ok hok
        refine .entering (holds.keeps (Nat.le_refl _) (fun h => by cases h) ?_) (open_.cons rfl)
        show ((s.waitSets.modify waitSet _).get? waitSet).map _ = _
        rw [Table.get?_modify_self, Option.map_map]
        exact holds.there
  | @entering c waitSet holds open_ =>
      -- nobody else knows the wait set, so nobody waits on it and entering is not refused
      obtain ⟨w, hw, hidle⟩ := Option.map_eq_some_iff.mp holds.there
      have hok : s.enterWait waitSet = State.succeed { s with
          waitSets := s.waitSets.modify waitSet fun w => { w with waiting := true } } () := by
        rw [State.enterWait, hw]
        exact if_neg (by simp [hidle])
      rw [Watch.await, Thread.turn, State.perform, hok] at hturn
      cases hturn
      refine .waiting (holds.keeps (Nat.le_refl _) (fun h => by cases h) ?_) (open_.cons rfl)
      show ((s.waitSets.modify waitSet _).get? waitSet).map _ = _
      rw [Table.get?_modify_self, hw]
      rfl
  | @waiting c waitSet holds open_ =>
      obtain ⟨code, rfl, rfl, rfl, -⟩ := Thread.turn_blocked hturn
      obtain ⟨w, hw, -⟩ := Option.map_eq_some_iff.mp holds.there
      refine .leaving (holds.keeps (Nat.le_refl _) (fun h => by cases h) ?_) (open_.decide rfl)
      show ((s.waitSets.modify waitSet _).get? waitSet).map _ = _
      rw [Table.get?_modify_self, hw]
      rfl
  | @leaving c waitSet code holds decided =>
      rcases Thread.turn_settle (s.detach_keeps _ _) hturn rfl with
        ⟨code', -, rfl, rfl, rfl⟩ | ⟨hok, rfl, rfl⟩
      · exact .dismissing (holds.still (fun h => by cases h)) (decided.cons rfl)
      · obtain ⟨w, -, ⟨-, rfl⟩ | ⟨-, rfl⟩⟩ := State.detach_eq_ok hok
        · refine .dismissing (holds.keeps (Nat.le_refl _) (fun h => by cases h) ?_)
            (decided.cons rfl)
          show ((s.waitSets.modify waitSet _).get? waitSet).map _ = _
          rw [Table.get?_modify_self, Option.map_map]
          exact holds.there
        · exact .dismissing (holds.keeps (Nat.le_refl _) (fun h => by cases h) holds.there)
            (decided.cons rfl)
  | @dismissing waitSet outcome holds decided =>
      -- the wait is over, so the deletion is not refused either
      obtain ⟨w, hw, hidle⟩ := Option.map_eq_some_iff.mp holds.there
      have hok : s.deleteWaitSet waitSet =
          State.succeed { s with waitSets := s.waitSets.erase waitSet } () := by
        rw [State.deleteWaitSet, hw]
        exact if_neg (by simp [hidle])
      rw [Watch.dismiss, Thread.turn, State.perform, hok] at hturn
      cases hturn
      refine .finished (fun k hk => ?_) (decided.cons rfl)
      obtain rfl := (holds.only k).mp ((made_cons_of_ne (fun h => by cases h) k).mp hk)
      refine ⟨holds.issued, ?_⟩
      show (s.waitSets.erase k).get? k = none
      rw [Table.get?_erase, if_pos rfl]
  | finished rid decided => cases hturn

/-- Every call of the wait is about conditions and wait sets, and about no wait set but its own. -/
theorem Withdraws.own {thread thread' : Thread WaitOutcome} (h : Withdraws q t s thread)
    (hturn : thread.turn isFile s () = some (entry, thread', s')) :
    entry.operation.isWaiting = true ∧
      (∀ k, entry.operation.waitSet? = some k → Made (entry :: t) () k) ∧
      (entry.operation = .createWaitSet → Made (entry :: t) () ⟨s.lastId + 1⟩) := by
  have hown : ∀ {waitSet waiting k}, Holds t s waitSet waiting → some waitSet = some k →
      Made (entry :: t) () k := fun holds heq =>
    ((holds.only _).mpr (Option.some.inj heq).symm).cons entry
  cases h with
  | preparing bare open_ =>
      cases hturn
      exact ⟨rfl, nofun, fun _ => List.mem_cons_self⟩
  | waiting holds open_ =>
      obtain ⟨code, rfl, -⟩ := Thread.turn_blocked hturn
      exact ⟨rfl, fun k hk => hown holds hk, nofun⟩
  | attaching holds open_ | entering holds open_
  | leaving holds decided | dismissing holds decided =>
      cases hturn
      exact ⟨rfl, fun k hk => hown holds hk, nofun⟩
  | asking bare open_ | enabling bare open_ =>
      cases hturn
      exact ⟨rfl, nofun, nofun⟩
  | finished rid decided => cases hturn

/-- What the wait does leaves every wait set that it did not make. -/
theorem Withdraws.frame {thread thread' : Thread WaitOutcome} (h : Withdraws q t s thread)
    (hturn : thread.turn isFile s () = some (entry, thread', s')) {k : WaitSetId}
    (hforeign : ¬Made (entry :: t) () k) : s'.waitSets.get? k = s.waitSets.get? k := by
  obtain ⟨hwaiting, hnames, hmakes⟩ := h.own hturn
  rw [(Thread.turn_happens hturn).state_eq]
  refine State.perform_waitSets hwaiting (fun hk => hforeign (hnames k hk)) ?_
  rintro hcreates rfl
  exact hforeign (hmakes hcreates)

/-! ## What the others own -/

/-- A wait set is the others': it was there from the start or they made it, and so it is with each
of its attachments. -/
structure Foreign (s₀ : State) (t : List (Entry Unit)) (waitSet : WaitSetId) (w : WaitSet) :
    Prop where
  origin : (∃ w₀, s₀.waitSets.get? waitSet = some w₀) ∨
    .asked none .createWaitSet (.waitSet waitSet) ∈ t
  attached : ∀ c ∈ w.conditions,
    (∃ w₀, s₀.waitSets.get? waitSet = some w₀ ∧ c ∈ w₀.conditions) ∨
      .asked none (.attach waitSet c) .done ∈ t

theorem Foreign.cons {s₀ : State} {w : WaitSet} (h : Foreign s₀ t waitSet w)
    (entry : Entry Unit) : Foreign s₀ (entry :: t) waitSet w :=
  ⟨h.origin.imp_right (List.mem_cons_of_mem entry),
    fun c hc => (h.attached c hc).imp_right (List.mem_cons_of_mem entry)⟩

/-- Another party's operation makes wait sets and attachments for that party. -/
theorem Foreign.other {s₀ : State} {k : WaitSetId} {w' : WaitSet} (hwf : s.WellFormed)
    (h : ∀ w, s.waitSets.get? k = some w → Foreign s₀ t k w)
    (hw' : (s.perform isFile operation).2.waitSets.get? k = some w') :
    Foreign s₀ (.asked none operation (s.perform isFile operation).1 :: t) k w' := by
  rcases State.perform_origin hwf hw' with ⟨w, hw, hconditions⟩ | ⟨rfl, hreply, hempty⟩
  · have hforeign := (h w hw).cons (.asked none operation (s.perform isFile operation).1)
    refine ⟨hforeign.origin, fun c hc => ?_⟩
    rcases hconditions c hc with hc | ⟨rfl, hreply⟩
    · exact hforeign.attached c hc
    · rw [hreply]
      exact .inr List.mem_cons_self
  · refine ⟨.inr ?_, fun c hc => ?_⟩
    · rw [hreply]
      exact List.mem_cons_self
    · rw [hempty] at hc
      cases hc

/-- Where the wait is, and what is the others'. -/
structure Beleaguered (q : Watch) (s₀ : State) (x : Scene Unit WaitOutcome) : Prop where
  wellFormed : x.state.WellFormed
  withdraws : Withdraws q x.trace x.state (x.threads ())
  foreign : ∀ {k w}, x.state.waitSets.get? k = some w → ¬Made x.trace () k →
    Foreign s₀ x.trace k w

namespace Beleaguered

variable {s₀ : State} {x : Scene Unit WaitOutcome}

theorem start (hwf : s₀.WellFormed) (q : Watch) :
    Beleaguered q s₀ (.start (fun _ => q.client) s₀) := by
  refine ⟨hwf, .asking (fun k hk => ?_) (fun e he => ?_), fun {k w} hw _ => ?_⟩
  · cases hk
  · cases he
  · exact ⟨.inl ⟨w, hw⟩, fun c hc => .inl ⟨w, hw, hc⟩⟩

theorem turn (h : Beleaguered q s₀ x) (isFile : String → Bool) :
    Beleaguered q s₀ (x.turn isFile ()) := by
  unfold Scene.turn
  split
  · exact h
  · rename_i entry thread s' hturn
    refine ⟨?_, ?_, fun {k w} hw hforeign => ?_⟩
    · show s'.WellFormed
      rw [(Thread.turn_happens hturn).state_eq]
      exact State.wellFormed_perform h.wellFormed isFile _
    · show Withdraws q (entry :: x.trace) s' (if () = () then thread else x.threads ())
      rw [if_pos rfl]
      exact h.withdraws.turn hturn
    · rw [h.withdraws.frame hturn hforeign] at hw
      exact (h.foreign hw fun hmade => hforeign (hmade.cons entry)).cons entry

theorem fail (h : Beleaguered q s₀ x) (code : ReturnCode) :
    Beleaguered q s₀ (x.fail () code) := by
  unfold Scene.fail
  split
  · exact h
  · rename_i entry thread hfail
    refine ⟨h.wellFormed, ?_, fun {k w} hw hforeign => ?_⟩
    · show Withdraws q (entry :: x.trace) x.state (if () = () then thread else x.threads ())
      rw [if_pos rfl]
      exact h.withdraws.fail hfail
    · exact (h.foreign hw fun hmade => hforeign (hmade.cons entry)).cons entry

theorem other (h : Beleaguered q s₀ x) (isFile : String → Bool) (operation : Operation)
    (untouched : ∀ waitSet, operation.waitSet? = some waitSet → ¬Made x.trace () waitSet) :
    Beleaguered q s₀ (x.other isFile operation) := by
  have hleaves := State.perform_leaves h.wellFormed isFile operation
  refine ⟨State.wellFormed_perform h.wellFormed isFile operation,
    h.withdraws.others hleaves untouched _, fun {k w'} hw' hforeign => ?_⟩
  refine Foreign.other h.wellFormed (fun w hw => h.foreign hw fun hmade => ?_) hw'
  exact hforeign (hmade.cons _)

end Beleaguered

/-- However the wait goes on. -/
theorem beleaguered_of_besets {x : Scene Unit WaitOutcome} (hwf : s.WellFormed)
    (hrun : Besets isFile q s x) : Beleaguered q s x := by
  induction hrun with
  | start => exact .start hwf q
  | turn before ih => exact ih.turn isFile
  | fail before code ih => exact ih.fail code
  | other before operation untouched ih => exact ih.other isFile operation untouched

/-- A wait for statuses is among other parties, who may do anything but touch its wait set, and its
calls may fail with any code instead of acting. No call of the wait changes a wait set that it did
not make. Once the wait is over, the wait set that it made is gone, so that every wait set and every
attachment is somebody else's. Exactly one answer decides the outcome: the wait succeeds only if it
returned `ok`, its time was up only if it returned `timeout`, and else the outcome tells which
operation failed and with which code. -/
theorem wait_leaves_nothing {x : Scene Unit WaitOutcome} (hreach : Reachable isFile s)
    (hrun : Besets isFile q s x) :
    (∀ {B : Type} (h : Host B) (proxy : Ref) (w : World B),
      (waitFor h proxy q.mask q.limit).apply w =
        (do
          let (_, entity) ← Proxies.resolve h proxy "entity"
          runClient isFile (Watch.client { q with entity }) : BridgeAction B Unit).apply w) ∧
    (∀ y, (y = x.turn isFile () ∨ ∃ code, y = x.fail () code) →
      ∀ k, ¬Made y.trace () k → y.state.waitSets.get? k = x.state.waitSets.get? k) ∧
    ∀ outcome, x.threads () = .ready (.done outcome) →
      (∀ k, Made x.trace () k → x.state.waitSets.get? k = none) ∧
      (∀ k w, x.state.waitSets.get? k = some w → Foreign s x.trace k w) ∧
      Decided q x.trace outcome ∧
      (outcome = .ok () → Returned x.trace .ok) ∧
      (outcome = .error (.timeout q.limit q.mask) → Returned x.trace .timeout) := by
  have h := beleaguered_of_besets (State.wellFormed_of_reachable hreach) hrun
  refine ⟨fun host proxy w => waitFor_apply isFile host proxy q.mask q.limit w, ?_,
    fun outcome hdone => ?_⟩
  · rintro y (rfl | ⟨code, rfl⟩) k hforeign
    · revert hforeign
      unfold Scene.turn
      split
      · exact fun _ => rfl
      · rename_i hturn
        exact h.withdraws.frame hturn
    · unfold Scene.fail
      split <;> rfl
  · have hwithdraws := h.withdraws
    rw [hdone] at hwithdraws
    cases hwithdraws with
    | finished rid decided =>
        refine ⟨fun k hk => (rid k hk).2, fun k w hw => h.foreign hw fun hmade => ?_, decided, ?_,
          ?_⟩
        · rw [(rid k hmade).2] at hw
          cases hw
        · rintro rfl
          exact decided.ok
        · rintro rfl
          exact decided.timeout

/-! ### A wait whose entity goes -/

/-- A wait for incompatible policies of a reader, of which there are none. -/
def mismatchOfReader : Watch := ⟨⟨6⟩, .ofKind .requestedIncompatibleQos, .zero⟩

/-- The wait goes on by some calls of its own. -/
def turns : Nat → Scene Unit WaitOutcome → Scene Unit WaitOutcome
  | 0, x => x
  | n + 1, x => (turns n x).turn (fun _ => false) ()

theorem Besets.turns {q : Watch} {s : State} {x : Scene Unit WaitOutcome}
    (before : Besets (fun _ => false) q s x) (n : Nat) :
    Besets (fun _ => false) q s (turns n x) := by
  induction n with
  | zero => exact before
  | succ n ih => exact ih.turn

/-- While the wait is blocked its entity is deleted with all of its participant. The time is up,
and then the condition cannot be detached. -/
def bereaved : Scene Unit WaitOutcome :=
  let s := State.new.run (fun _ => false) State.chatRun
  let blocked := turns 5 (.start (fun _ => mismatchOfReader.client) s)
  let woken := turns 1 (blocked.other (fun _ => false) (.deleteContained ⟨1⟩))
  turns 1 (woken.fail () .error)

theorem bereaved_besets :
    Besets (fun _ => false) mismatchOfReader (State.new.run (fun _ => false) State.chatRun)
      bereaved :=
  ((((Besets.start.turns 5).other (.deleteContained ⟨1⟩) nofun).turns 1).fail .error).turns 1

/-- The wait set goes although it still holds the condition of an entity that is gone, and the
outcome is that of the wait. -/
theorem wait_leaves_nothing_bereaved :
    bereaved.threads () =
        .ready (.done (.error (.timeout .zero (.ofKind .requestedIncompatibleQos)))) ∧
      .asked (some ()) .createWaitSet (.waitSet ⟨8⟩) ∈ bereaved.trace ∧
      bereaved.state.waitSets.get? ⟨8⟩ = none ∧ Returned bereaved.trace .timeout := by
  have hreach : Reachable (fun _ => false) (State.new.run (fun _ => false) State.chatRun) :=
    State.reachable_run (.new _) State.chatRun
  have hdone : bereaved.threads () =
      .ready (.done (.error (.timeout .zero (.ofKind .requestedIncompatibleQos)))) := rfl
  have hmade : .asked (some ()) .createWaitSet (.waitSet ⟨8⟩) ∈ bereaved.trace := by
    decide +kernel
  obtain ⟨-, -, hover⟩ := wait_leaves_nothing hreach bereaved_besets
  obtain ⟨hgone, -, -, -, htimeout⟩ := hover _ hdone
  exact ⟨hdone, hmade, hgone ⟨8⟩ hmade, htimeout rfl⟩

end Bridge

end DdsBridge
