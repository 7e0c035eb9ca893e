import DdsBridge.Bridge.Samples
import DdsBridge.Proofs.Bridge.Gate
import DdsBridge.Proofs.Provider.Interleaving
import DdsBridge.Proofs.Provider.Matching

/-!
# Waits that share an entity

Several clients may wait for statuses of one entity at the same time. Each has a wait set of its
own, but they share the entity's condition, and each enables it for its own statuses before it
waits. So a wait tells whether the entity carries one of the statuses that were enabled *last*,
which are the client's own only if no other client came in between.

* **`Watch.client`** — a wait for statuses, call by call; **`waitFor_apply`** says that it is what
  the bridge does.
* **`Stands`** — where a client is, and what it can rely on there: **`Stands.others`** for what the
  others do, **`Stands.turn`** for its own next call.
* **`wait_tells_of_last_mask`** — what the end of a wait tells.
* **`wait_woken_for_another`** — a wait that succeeds although the entity carries none of the
  statuses waited for.
-/

namespace DdsBridge

open Provider

/-! ## Calls of any operation -/

namespace Gate

variable {B ε α : Type} {isFile : String → Bool} {operation : Operation} {method : Method}

theorem perform_apply (hmethod : operation.method? = some method) (w : World B) :
    (perform isFile operation : Action B ε Reply).apply w =
      match takeFault method w.faults with
      | none => (.ok (w.provider.perform isFile operation).1,
          w.advance (w.provider.perform isFile operation).2)
      | some (code, faults) => (.ok (.failed code), { w with faults }) := by
  rw [perform, hmethod, Action.apply_bind, nextFault_apply]
  cases takeFault method w.faults with
  | none => rfl
  | some found => rfl

/-- A call that answers with a return code, as any operation. -/
theorem perform_run (isFile : String → Bool) (operation : Operation)
    {op : State → Result Unit} (hmethod : operation.method? = some method)
    (hop : ∀ s : State, s.perform isFile operation = (op s).settle) (w : World B) :
    ∃ reply w', (perform isFile operation : Action B ε Reply).apply w = (.ok reply, w') ∧
      (run method op : Action B ε ReturnCode).apply w = (.ok reply.code, w') := by
  rw [perform_apply hmethod, run_apply, hop]
  cases takeFault method w.faults with
  | some found => exact ⟨_, _, rfl, rfl⟩
  | none =>
      rcases op w.provider with ⟨code | _, s⟩
      · exact ⟨_, _, rfl, rfl⟩
      · exact ⟨_, _, rfl, rfl⟩

/-- A call that answers with something, as any operation. -/
theorem perform_fetch (isFile : String → Bool) (operation : Operation) (reply : α → Reply)
    {op : State → Result α} (hmethod : operation.method? = some method)
    (hop : ∀ s : State, s.perform isFile operation = (op s).settleWith reply) (w : World B) :
    (∃ a w', (perform isFile operation : Action B ε Reply).apply w = (.ok (reply a), w') ∧
      (fetch method op : Action B ε (Except ReturnCode α)).apply w = (.ok (.ok a), w')) ∨
    ∃ code w', (perform isFile operation : Action B ε Reply).apply w = (.ok (.failed code), w') ∧
      (fetch method op : Action B ε (Except ReturnCode α)).apply w = (.ok (.error code), w') := by
  rw [perform_apply hmethod, fetch_apply, hop]
  cases takeFault method w.faults with
  | some found => exact .inr ⟨_, _, rfl, rfl⟩
  | none =>
      rcases op w.provider with ⟨code | a, s⟩
      · exact .inr ⟨_, _, rfl, rfl⟩
      · exact .inl ⟨_, _, rfl, rfl⟩

end Gate

namespace Bridge

/-! ## A wait, call by call -/

/-- How a wait of the bridge ends. -/
abbrev WaitOutcome := Except Error Unit

/-- What a client waits for: statuses of an entity, and how long. -/
structure Watch where
  entity : Handle
  mask : StatusMask
  limit : Duration

namespace Watch

/-- An operation that failed ends the wait. -/
def refused (name : String) (reply : Reply) : WaitOutcome := .error (.operation name reply.code)

/-- What the end of the wait is to the client. -/
def outcome (q : Watch) : ReturnCode → WaitOutcome
  | .ok => .ok ()
  | .timeout => .error (.timeout q.limit q.mask)
  | code => .error (.operation "wait" code)

/-- Deletes the wait set. -/
def dismiss (waitSet : WaitSetId) (outcome : WaitOutcome) : Client WaitOutcome :=
  .ask (.deleteWaitSet waitSet) fun _ => .done outcome

/-- Takes the condition out of the wait set. -/
def leave (q : Watch) (waitSet : WaitSetId) (c : ConditionId) (code : ReturnCode) :
    Client WaitOutcome :=
  .ask (.detach waitSet c) fun _ => dismiss waitSet (q.outcome code)

/-- Waits. -/
def await (q : Watch) (waitSet : WaitSetId) (c : ConditionId) : Client WaitOutcome :=
  .wait waitSet q.limit (q.leave waitSet c)

/-- Attaches the condition to the wait set. -/
def attach (q : Watch) (waitSet : WaitSetId) (c : ConditionId) : Client WaitOutcome :=
  .ask (.attach waitSet c) fun reply =>
    if reply.code.isOk then q.await waitSet c
    else dismiss waitSet (refused "attach_condition" reply)

/-- Makes a wait set. -/
def prepare (q : Watch) (c : ConditionId) : Client WaitOutcome :=
  .ask .createWaitSet fun
    | .waitSet waitSet => q.attach waitSet c
    | reply => .done (refused "create_waitset" reply)

/-- Enables the condition. -/
def enable (q : Watch) (c : ConditionId) : Client WaitOutcome :=
  .ask (.setEnabled c q.mask) fun reply =>
    if reply.code.isOk then q.prepare c else .done (refused "set_enabled_statuses" reply)

/-- The client from the start: it asks for the condition of the entity. -/
def client (q : Watch) : Client WaitOutcome :=
  .ask (.statusCondition q.entity) fun
    | .condition c => q.enable c
    | reply => .done (refused "get_statuscondition" reply)

end Watch

variable {B : Type}

/-- Runs a client through the calls of a bridge, while no other client acts. -/
def runClient (isFile : String → Bool) : Client WaitOutcome → BridgeAction B Unit
  | .done outcome => Action.ofExcept outcome
  | .ask operation next => do
    let reply ← Gate.perform isFile operation
    runClient isFile (next reply)
  | .wait waitSet limit next => do
    let code ← unlocked (Gate.wait waitSet limit)
    runClient isFile (next code)

section Alone

variable (isFile : String → Bool) (q : Watch) (w : World B)

theorem runClient_ask {operation : Operation} {next : Reply → Client WaitOutcome} {reply : Reply}
    {w' : World B}
    (h : (Gate.perform isFile operation : BridgeAction B Reply).apply w = (.ok reply, w')) :
    (runClient isFile (.ask operation next)).apply w = (runClient isFile (next reply)).apply w' :=
  Action.apply_bind_of_ok h

/-- The end of a wait. -/
theorem leave_apply (waitSet : WaitSetId) (c : ConditionId) (code : ReturnCode) :
    (runClient isFile (q.leave waitSet c code)).apply w =
      (do
        detachCondition waitSet c
        match code with
        | .ok => return
        | .timeout => Action.raise (.timeout q.limit q.mask)
        | code => Action.raise (.operation "wait" code) : BridgeAction B Unit).apply w := by
  obtain ⟨reply₁, w₁, hask₁, hrun₁⟩ := Gate.perform_run (ε := Error) isFile
    (.detach waitSet c) rfl (fun _ => rfl) w
  obtain ⟨reply₂, w₂, hask₂, hrun₂⟩ := Gate.perform_run (ε := Error) isFile
    (.deleteWaitSet waitSet) rfl (fun _ => rfl) w₁
  have hdetach : (detachCondition waitSet c : BridgeAction B Unit).apply w = (.ok (), w₂) := by
    rw [detachCondition, Action.apply_bind_of_ok hrun₁, Action.apply_bind_of_ok hrun₂]
    rfl
  rw [Watch.leave, runClient_ask isFile w hask₁, Watch.dismiss, runClient_ask isFile w₁ hask₂,
    Action.apply_bind_of_ok hdetach]
  cases code <;> rfl

/-- From the new wait set on. -/
theorem attach_apply (waitSet : WaitSetId) (c : ConditionId) :
    (runClient isFile (q.attach waitSet c)).apply w =
      (do
        let code ← Gate.run .attachCondition fun s => s.attach waitSet c
        if !code.isOk then
          let _ ← Gate.run (ε := Error) .deleteWaitset fun s => s.deleteWaitSet waitSet
        Gate.check "attach_condition" code
        runClient isFile (q.await waitSet c) : BridgeAction B Unit).apply w := by
  obtain ⟨reply, w₁, hask, hrun⟩ := Gate.perform_run (ε := Error) isFile
    (.attach waitSet c) rfl (fun _ => rfl) w
  rw [Watch.attach, runClient_ask isFile w hask, Action.apply_bind_of_ok hrun]
  by_cases hok : reply.code.isOk = true
  · rw [if_pos hok]
    simp only [hok]
    rw [Gate.check, if_pos hok]
    rfl
  · have hnot : reply.code.isOk = false := by simpa using hok
    obtain ⟨reply', w₂, hask', hrun'⟩ := Gate.perform_run (ε := Error) isFile
      (.deleteWaitSet waitSet) rfl (fun _ => rfl) w₁
    rw [if_neg hok, Watch.dismiss, runClient_ask isFile w₁ hask', Gate.check, if_neg hok]
    simp only [hnot]
    show _ = ((do
      let _ ← Gate.run (ε := Error) .deleteWaitset fun s => s.deleteWaitSet waitSet
      Action.raise (.operation "attach_condition" reply.code)
      runClient isFile (q.await waitSet c)) : BridgeAction B Unit).apply w₁
    rw [Action.apply_bind_of_ok hrun']
    rfl

/-- From the condition on. -/
theorem enable_apply (c : ConditionId) :
    (runClient isFile (q.enable c)).apply w =
      (do
        let code ← Gate.run .setEnabledStatuses fun s => s.setEnabled c q.mask
        Gate.check "set_enabled_statuses" code
        let (waitSet, s) := (← Action.world).provider.createWaitSet
        Action.change fun w => w.advance s
        runClient isFile (q.attach waitSet c) : BridgeAction B Unit).apply w := by
  obtain ⟨reply, w₁, hask, hrun⟩ := Gate.perform_run (ε := Error) isFile
    (.setEnabled c q.mask) rfl (fun _ => rfl) w
  rw [Watch.enable, runClient_ask isFile w hask, Action.apply_bind_of_ok hrun]
  by_cases hok : reply.code.isOk = true
  · rw [if_pos hok, Gate.check, if_pos hok]
    rfl
  · rw [if_neg hok, Gate.check, if_neg hok]
    rfl

/-- The client is what the bridge does once it knows the entity. -/
theorem client_apply :
    (runClient isFile q.client).apply w =
      (do
        let (waitSet, c) ← attachCondition q.entity q.mask
        runClient isFile (q.await waitSet c) : BridgeAction B Unit).apply w := by
  rw [attachCondition, bind_assoc]
  rcases Gate.perform_fetch (ε := Error) isFile (.statusCondition q.entity) .condition rfl
      (fun _ => rfl) w with
    ⟨c, w₁, hask, hfetch⟩ | ⟨code, w₁, hask, hfetch⟩
  · rw [Watch.client, runClient_ask isFile w hask, Action.apply_bind_of_ok hfetch, Gate.expect]
    dsimp only
    rw [enable_apply, pure_bind, bind_assoc, Action.apply_bind, Action.apply_bind]
    rcases (Gate.run .setEnabledStatuses fun s => s.setEnabled c q.mask :
      BridgeAction B ReturnCode).apply w₁ with ⟨stop | code, w₂⟩
    · rfl
    dsimp only
    rw [bind_assoc, Action.apply_bind, Action.apply_bind]
    rcases (Gate.check "set_enabled_statuses" code : BridgeAction B Unit).apply w₂ with
      ⟨stop | _, w₃⟩
    · rfl
    dsimp only
    rw [bind_assoc, Action.apply_bind_of_ok (Action.apply_world w₃),
      Action.apply_bind_of_ok (Action.apply_world w₃)]
    rw [bind_assoc, Action.apply_bind_of_ok (Action.apply_change _ _),
      Action.apply_bind_of_ok (Action.apply_change _ _), attach_apply]
    simp only [bind_assoc]
    refine congrArg (fun x => Action.apply x _) (bind_congr fun code => ?_)
    split <;> simp only [bind_assoc, pure_bind]
  · rw [Watch.client, runClient_ask isFile w hask, Action.apply_bind_of_ok hfetch, Gate.expect]
    rfl

end Alone

/-- A wait of the bridge is the client for the entity that the proxy stands for. -/
theorem waitFor_apply (isFile : String → Bool) (h : Host B) (proxy : Ref) (mask : StatusMask)
    (limit : Duration) (w : World B) :
    (waitFor h proxy mask limit).apply w =
      (do
        let (_, entity) ← Proxies.resolve h proxy "entity"
        runClient isFile (Watch.client ⟨entity, mask, limit⟩) : BridgeAction B Unit).apply w := by
  rw [waitFor, Action.apply_bind, Action.apply_bind]
  rcases (Proxies.resolve h proxy "entity").apply w with ⟨stop | ⟨kind, entity⟩, w₁⟩
  · rfl
  dsimp only
  rw [client_apply, Action.apply_bind, Action.apply_bind]
  dsimp only
  rcases (attachCondition entity mask).apply w₁ with ⟨stop | ⟨waitSet, c⟩, w₂⟩
  · rfl
  dsimp only
  rw [Watch.await, runClient, Action.apply_bind, Action.apply_bind]
  rcases (unlocked (Gate.wait waitSet limit) : BridgeAction B ReturnCode).apply w₂ with
    ⟨stop | code, w₃⟩
  · rfl
  exact (leave_apply isFile ⟨entity, mask, limit⟩ w₃ waitSet c code).symm

/-! ## Where a client is -/

section Clients

variable {ι : Type} {isFile : String → Bool}

/-- A client was given the condition of its entity. -/
structure Given (q : Watch) (i : ι) (t : List (Entry ι)) (s : State) (c : ConditionId) : Prop where
  asked : .asked (some i) (.statusCondition q.entity) (.condition c) ∈ t
  serves : s.Serves q.entity c

/-- And somebody enabled the condition. -/
structure Armed (q : Watch) (i : ι) (t : List (Entry ι)) (s : State) (c : ConditionId) : Prop
    extends Given q i t s c where
  enabled : ∃ last, lastMask c t = some last

/-- The outcome of a wait is that of its end: it succeeds only if the wait ended well, and its time
was up only if the wait ended so. -/
structure Told (q : Watch) (i : ι) (t : List (Entry ι)) (outcome : WaitOutcome) : Prop where
  ok : outcome = .ok () → ∃ waitSet s, .ended i waitSet .ok s ∈ t
  timeout : outcome = .error (.timeout q.limit q.mask) → ∃ waitSet s, .ended i waitSet .timeout s ∈ t

/-- Where a client is, and what it can rely on there. -/
inductive Stands (q : Watch) (i : ι) (t : List (Entry ι)) (s : State) : Thread WaitOutcome → Prop
  | asking : Stands q i t s (.ready q.client)
  | enabling {c : ConditionId} (given : Given q i t s c) : Stands q i t s (.ready (q.enable c))
  | preparing {c : ConditionId} (armed : Armed q i t s c) : Stands q i t s (.ready (q.prepare c))
  | attaching {c : ConditionId} {waitSet : WaitSetId} (armed : Armed q i t s c)
      (made : Made t i waitSet) (empty : s.waitSets.get? waitSet = some ⟨[], false⟩) :
      Stands q i t s (.ready (q.attach waitSet c))
  | entering {c : ConditionId} {waitSet : WaitSetId} (armed : Armed q i t s c)
      (made : Made t i waitSet) (watches : s.Watches waitSet c false) :
      Stands q i t s (.ready (q.await waitSet c))
  | waiting {c : ConditionId} {waitSet : WaitSetId} (armed : Armed q i t s c)
      (made : Made t i waitSet) (watches : s.Watches waitSet c true) :
      Stands q i t s (.blocked waitSet q.limit (q.leave waitSet c))
  | leaving {c : ConditionId} {waitSet : WaitSetId} {code : ReturnCode}
      (made : Made t i waitSet) (told : Told q i t (q.outcome code)) :
      Stands q i t s (.ready (q.leave waitSet c code))
  | dismissing {waitSet : WaitSetId} {outcome : WaitOutcome} (made : Made t i waitSet)
      (told : Told q i t outcome) : Stands q i t s (.ready (Watch.dismiss waitSet outcome))
  | finished {outcome : WaitOutcome} (told : Told q i t outcome) :
      Stands q i t s (.ready (.done outcome))

variable {q : Watch} {i : ι} {t : List (Entry ι)} {s s' : State} {entry : Entry ι}
  {operation : Operation}

theorem lastMask_cons_isSome {c : ConditionId} (h : ∃ last, lastMask c t = some last)
    (entry : Entry ι) : ∃ last, lastMask c (entry :: t) = some last := by
  unfold lastMask
  split
  · rename_i heq
    cases heq
  · rename_i heq
    cases heq
    split
    · exact ⟨_, rfl⟩
    · exact h
  · rename_i heq
    cases heq
    exact h

theorem Given.leaves {c : ConditionId} (h : Given q i t s c) (hstep : s.Leaves s' operation)
    (entry : Entry ι) : Given q i (entry :: t) s' c :=
  ⟨List.mem_cons_of_mem entry h.asked, h.serves.leaves hstep⟩

theorem Armed.leaves {c : ConditionId} (h : Armed q i t s c) (hstep : s.Leaves s' operation)
    (entry : Entry ι) : Armed q i (entry :: t) s' c :=
  ⟨h.toGiven.leaves hstep entry, lastMask_cons_isSome h.enabled entry⟩

theorem Told.cons {outcome : WaitOutcome} (h : Told q i t outcome) (entry : Entry ι) :
    Told q i (entry :: t) outcome := by
  constructor
  · intro hok
    obtain ⟨waitSet, s, hended⟩ := h.ok hok
    exact ⟨waitSet, s, List.mem_cons_of_mem entry hended⟩
  · intro htimeout
    obtain ⟨waitSet, s, hended⟩ := h.timeout htimeout
    exact ⟨waitSet, s, List.mem_cons_of_mem entry hended⟩

/-- An operation that failed tells nothing. -/
theorem Told.refused (q : Watch) (i : ι) (t : List (Entry ι)) (name : String) (reply : Reply) :
    Told q i t (Watch.refused name reply) := by
  constructor
  · intro h
    cases h
  · intro h
    cases h

/-- What the others do leaves a client where it is, for nobody else touches its wait set. -/
theorem Stands.others {thread : Thread WaitOutcome} (h : Stands q i t s thread)
    (hissued : ∀ {waitSet}, Made t i waitSet → waitSet.id ≤ s.lastId)
    (hstep : s.Leaves s' operation)
    (huntouched : ∀ waitSet, operation.waitSet? = some waitSet → ¬Made t i waitSet)
    (entry : Entry ι) : Stands q i (entry :: t) s' thread := by
  have hother : ∀ {waitSet}, Made t i waitSet → operation.waitSet? ≠ some waitSet :=
    fun hmade hnames => huntouched _ hnames hmade
  cases h with
  | asking => exact .asking
  | enabling given => exact .enabling (given.leaves hstep entry)
  | preparing armed => exact .preparing (armed.leaves hstep entry)
  | attaching armed made empty =>
      exact .attaching (armed.leaves hstep entry) (made.cons entry)
        (hstep.empty (hissued made) (hother made) empty)
  | entering armed made watches =>
      exact .entering (armed.leaves hstep entry) (made.cons entry)
        (watches.leaves (hissued made) armed.serves.issued hstep (hother made))
  | waiting armed made watches =>
      exact .waiting (armed.leaves hstep entry) (made.cons entry)
        (watches.leaves (hissued made) armed.serves.issued hstep (hother made))
  | leaving made told => exact .leaving (made.cons entry) (told.cons entry)
  | dismissing made told => exact .dismissing (made.cons entry) (told.cons entry)
  | finished told => exact .finished (told.cons entry)

/-- A client touches no wait set but its own. -/
theorem Stands.touches {thread thread' : Thread WaitOutcome} (h : Stands q i t s thread)
    (hturn : thread.turn isFile s i = some (entry, thread', s')) {waitSet : WaitSetId}
    (hnames : entry.operation.waitSet? = some waitSet) : Made t i waitSet := by
  cases h with
  | asking => cases hturn; cases hnames
  | enabling given => cases hturn; cases hnames
  | preparing armed => cases hturn; cases hnames
  | attaching armed made empty => cases hturn; cases hnames; exact made
  | entering armed made watches => cases hturn; cases hnames; exact made
  | waiting armed made watches =>
      obtain ⟨code, rfl, -⟩ := Thread.turn_blocked hturn
      cases hnames
      exact made
  | leaving made told => cases hturn; cases hnames; exact made
  | dismissing made told => cases hturn; cases hnames; exact made
  | finished told => cases hturn

/-- A client enables its condition for its own statuses. -/
theorem Stands.enables {thread thread' : Thread WaitOutcome} (h : Stands q i t s thread)
    {who : Option ι} {c : ConditionId} {mask : StatusMask} {reply : Reply}
    (hturn : thread.turn isFile s i =
      some (.asked who (.setEnabled c mask) reply, thread', s')) :
    who = some i ∧ mask = q.mask := by
  cases h with
  | enabling given => cases hturn; exact ⟨rfl, rfl⟩
  | waiting armed made watches =>
      obtain ⟨code, hended, -⟩ := Thread.turn_blocked hturn
      cases hended
  | _ => cases hturn

/-- Every call brings a client one step further. -/
theorem Stands.turn {thread thread' : Thread WaitOutcome} (h : Stands q i t s thread)
    (hwf : s.WellFormed) (hconditioned : s.Conditioned)
    (hturn : thread.turn isFile s i = some (entry, thread', s')) :
    Stands q i (entry :: t) s' thread' := by
  have hleaves : s.Leaves s' entry.operation := by
    rw [(Thread.turn_happens hturn).state_eq]
    exact State.perform_leaves hwf isFile _
  have hconditioned' : s'.Conditioned := by
    rw [(Thread.turn_happens hturn).state_eq]
    exact State.conditioned_perform hconditioned hwf isFile _
  cases h with
  | asking =>
      rcases Thread.turn_settleWith (s.statusCondition_keeps _) hturn rfl with
        ⟨code, -, rfl, rfl, rfl⟩ | ⟨c, hok, rfl, rfl⟩
      · exact .finished (.refused q i _ _ _)
      · exact .enabling ⟨List.mem_cons_self, .given hwf hconditioned' hok⟩
  | enabling given =>
      rcases Thread.turn_settle (s.setEnabled_keeps _ _) hturn rfl with
        ⟨code, hfails, rfl, rfl, rfl⟩ | ⟨hok, rfl, rfl⟩
      · obtain ⟨-, rfl⟩ := State.setEnabled_eq_error hfails
        exact .finished (.refused q i _ _ _)
      · refine .preparing ⟨given.leaves hleaves _, ?_⟩
        exact ⟨(some i, q.mask), if_pos rfl⟩
  | preparing armed =>
      rw [Watch.prepare, Thread.turn] at hturn
      cases hturn
      refine .attaching (armed.leaves hleaves _) List.mem_cons_self ?_
      show (s.waitSets.insert _ _).get? _ = _
      rw [Table.get?_insert, if_pos rfl]
  | attaching armed made empty =>
      rcases Thread.turn_settle (s.attach_keeps _ _) hturn rfl with
        ⟨code, hfails, rfl, rfl, rfl⟩ | ⟨hok, rfl, rfl⟩
      · obtain rfl := State.attach_eq_error hfails
        exact .dismissing (made.cons _) (.refused q i _ _ _)
      · exact .entering (armed.leaves hleaves _) (made.cons _) (.attached empty hok)
  | entering armed made watches =>
      obtain ⟨s₁, hok, hwaits⟩ := watches.enterWait
      rw [Watch.await, Thread.turn, State.perform, hok] at hturn
      cases hturn
      exact .waiting (armed.leaves hleaves _) (made.cons _) hwaits
  | waiting armed made watches =>
      -- a condition has triggered, or the time is up
      obtain ⟨code, rfl, rfl, rfl, ⟨-, rfl⟩ | ⟨-, rfl⟩⟩ := Thread.turn_blocked hturn
      · refine .leaving (made.cons _) ⟨fun _ => ⟨_, _, List.mem_cons_self⟩, fun h => ?_⟩
        cases h
      · refine .leaving (made.cons _) ⟨fun h => ?_, fun _ => ⟨_, _, List.mem_cons_self⟩⟩
        cases h
  | leaving made told =>
      cases hturn
      exact .dismissing (made.cons _) (told.cons _)
  | dismissing made told =>
      cases hturn
      exact .finished (told.cons _)
  | finished told => cases hturn

/-! ## What the end of a wait tells -/

/-- The end of a client's wait tells whether the entity carried, as the wait ended, one of the
statuses that its condition was enabled for last. -/
def TellsOfLastMask (q : Watch) (i : ι) (before : List (Entry ι)) (code : ReturnCode) (s : State) :
    Prop :=
  ∃ c who mask, .asked (some i) (.statusCondition q.entity) (.condition c) ∈ before ∧
    lastMask c before = some (who, mask) ∧ (who = some i → mask = q.mask) ∧
    (code = .ok ∧ (s.raisedOn q.entity).intersects mask = true ∨
      code = .timeout ∧ (s.raisedOn q.entity).intersects mask = false)

/-- The clients stand where they should, each enabled conditions for its own statuses only, and
every wait that ended told of the statuses enabled last. -/
structure Concerted (q : ι → Watch) (x : Scene ι WaitOutcome) : Prop where
  sound : x.Sound
  stands : ∀ i, Stands (q i) i x.trace x.state (x.threads i)
  own : ∀ {c i mask}, lastMask c x.trace = some (some i, mask) → mask = (q i).mask
  tells : ∀ {after before i waitSet code s},
    x.trace = after ++ .ended i waitSet code s :: before →
      TellsOfLastMask (q i) i before code s

namespace Concerted

variable {q : ι → Watch} {x : Scene ι WaitOutcome}

/-- What happens next, once it is known who enabled what, where the clients are and what the end
of a wait tells. -/
theorem step (h : Concerted q x) {threads : ι → Thread WaitOutcome}
    (hstep : Happens isFile x.state entry s')
    (hstands : ∀ i, Stands (q i) i (entry :: x.trace) s' (threads i))
    (hown : ∀ {i c mask reply}, entry = .asked (some i) (.setEnabled c mask) reply →
      mask = (q i).mask)
    (htells : ∀ {i waitSet code s}, entry = .ended i waitSet code s →
      TellsOfLastMask (q i) i x.trace code s) :
    Concerted q ⟨entry :: x.trace, threads, s'⟩ := by
  refine ⟨h.sound.step hstep threads, hstands, fun hlast => ?_, fun heq => ?_⟩
  · rcases Scene.Sound.lastMask_cons hstep hlast with ⟨hentry, -⟩ | ⟨-, hlast⟩
    · exact hown hentry
    · exact h.own hlast
  · rcases List.cons_eq_append_iff.mp heq with ⟨-, hsplit⟩ | ⟨after, -, hsplit⟩
    · obtain ⟨hentry, rfl⟩ := List.cons.inj hsplit
      exact htells hentry.symm
    · exact h.tells hsplit

/-- The end of a client's wait tells of the statuses enabled last. -/
theorem tells_of_turn (h : Concerted q x) {i j : ι} {waitSet : WaitSetId} {code : ReturnCode}
    {thread' : Thread WaitOutcome}
    (hturn : (x.threads i).turn isFile x.state i =
      some (.ended j waitSet code s, thread', s')) :
    TellsOfLastMask (q j) j x.trace code s := by
  have hstands := h.stands i
  generalize hthread : x.threads i = thread at hturn hstands
  cases hstands with
  | waiting armed made watches =>
      obtain ⟨code', hentry, -, -, hcode⟩ := Thread.turn_blocked hturn
      cases hentry
      obtain ⟨⟨who, mask⟩, hlast⟩ := armed.enabled
      have hforce := (h.sound.inForce hlast).2
      rw [State.anyTriggered_iff h.sound.conditioned armed.serves watches hforce] at hcode
      refine ⟨_, who, mask, armed.asked, hlast, fun hwho => ?_, ?_⟩
      · exact h.own (hwho ▸ hlast)
      · rcases hcode with ⟨hraised, hok⟩ | ⟨hnone, htimeout⟩
        · exact .inl ⟨hok, hraised⟩
        · exact .inr ⟨htimeout, hnone⟩
  | _ => cases hturn

/-- A client's turn. -/
theorem turn [DecidableEq ι] (h : Concerted q x) (i : ι) : Concerted q (x.turn isFile i) := by
  unfold Scene.turn
  split
  · exact h
  · rename_i entry thread s' hturn
    have hstep := Thread.turn_happens hturn
    refine h.step hstep (fun j => ?_) (fun hentry => ?_) fun hentry => ?_
    · split
      · rename_i hij
        exact hij ▸ (h.stands i).turn h.sound.wellFormed h.sound.conditioned hturn
      · rename_i hij
        -- the client touches no wait set but its own, and no two clients have the same
        refine (h.stands j).others h.sound.issued (h.sound.leaves hstep) (fun _ hnames hmade => ?_) _
        exact hij (h.sound.made_unique hmade ((h.stands i).touches hturn hnames))
    · subst hentry
      obtain ⟨hwho, hmask⟩ := (h.stands i).enables hturn
      cases hwho
      exact hmask
    · subst hentry
      exact h.tells_of_turn hturn

/-- A call of another party. -/
theorem other (h : Concerted q x) (operation : Operation)
    (untouched : ∀ waitSet, operation.waitSet? = some waitSet → ∀ i, ¬Made x.trace i waitSet) :
    Concerted q (x.other isFile operation) := by
  have hstep : Happens isFile x.state (.asked (none : Option ι) operation _) _ :=
    .asked none operation
  refine h.step hstep (fun j => ?_) (fun hentry => ?_) fun hentry => ?_
  · exact (h.stands j).others h.sound.issued (h.sound.leaves hstep)
      (fun waitSet hnames => untouched waitSet hnames j) _
  · cases hentry
  · cases hentry

end Concerted

/-- However the clients take turns, with each other and with other parties. -/
theorem concerted_of_interleaves [DecidableEq ι] {q : ι → Watch} {x : Scene ι WaitOutcome}
    (hreach : Reachable isFile s) (hrun : Interleaves isFile (fun i => (q i).client) s x) :
    Concerted q x := by
  induction hrun with
  | start =>
      refine ⟨Interleaves.start.sound hreach, fun i => .asking, fun hlast => ?_, fun heq => ?_⟩
      · cases hlast
      · exact absurd heq (by simp [Scene.start])
  | turn before i ih => exact ih.turn i
  | other before operation untouched ih => exact ih.other operation untouched

/-- Clients that wait for statuses take turns, with each other and with other parties. When a
client's wait ends, it ends well exactly if the entity carries one of the statuses that the
entity's condition was enabled for last, by whomever, and else its time was up. These are the
statuses that the client itself waits for if it was the last to enable the condition. A wait
succeeds only if it ended well, and its time was up only if it ended so. -/
theorem wait_tells_of_last_mask [DecidableEq ι] {q : ι → Watch} {x : Scene ι WaitOutcome}
    (hreach : Reachable isFile s) (hrun : Interleaves isFile (fun i => (q i).client) s x) (i : ι) :
    (∀ after before waitSet code s', x.trace = after ++ .ended i waitSet code s' :: before →
      ∃ c who mask, .asked (some i) (.statusCondition (q i).entity) (.condition c) ∈ before ∧
        lastMask c before = some (who, mask) ∧ (who = some i → mask = (q i).mask) ∧
        (code = .ok ∧ (s'.raisedOn (q i).entity).intersects mask = true ∨
          code = .timeout ∧ (s'.raisedOn (q i).entity).intersects mask = false)) ∧
    (x.threads i = .ready (.done (.ok ())) →
      ∃ waitSet s', .ended i waitSet .ok s' ∈ x.trace) ∧
    (x.threads i = .ready (.done (.error (.timeout (q i).limit (q i).mask))) →
      ∃ waitSet s', .ended i waitSet .timeout s' ∈ x.trace) := by
  have hconcerted := concerted_of_interleaves hreach hrun
  have htold : ∀ {outcome}, x.threads i = .ready (.done outcome) →
      Told (q i) i x.trace outcome := by
    intro outcome hdone
    have hstands := hconcerted.stands i
    rw [hdone] at hstands
    cases hstands with
    | finished told => exact told
  refine ⟨fun after before waitSet code s' heq => hconcerted.tells heq, fun hdone => ?_,
    fun hdone => ?_⟩
  · exact (htold hdone).ok rfl
  · exact (htold hdone).timeout rfl

end Clients

/-! ### Two clients of one writer -/

/-- One client waits for a writer's match, which there is, the other for incompatible policies,
which there are not. -/
def matchAndMismatch : Bool → Watch
  | true => ⟨⟨5⟩, .ofKind .publicationMatched, .zero⟩
  | false => ⟨⟨5⟩, .ofKind .offeredIncompatibleQos, .zero⟩

/-- The client that waits for the mismatch prepares its wait, the other enables the condition for
the match, and then the first waits. -/
def overlap : List Bool :=
  [false, false, false, false, true, true, false, false, false, false]

/-- The scene after the overlap. -/
def overlapped : Scene Bool WaitOutcome :=
  overlap.foldl (Scene.turn fun _ => false)
    (.start (fun i => (matchAndMismatch i).client) (State.new.run (fun _ => false) State.chatRun))

theorem overlapped_interleaves :
    Interleaves (fun _ => false) (fun i => (matchAndMismatch i).client)
      (State.new.run (fun _ => false) State.chatRun) overlapped :=
  Interleaves.start.play overlap

theorem overlapped_quiet {waitSet : WaitSetId} {code : ReturnCode} {s : State}
    (hended : .ended false waitSet code s ∈ overlapped.trace) :
    code = .ok ∧ (s.raisedOn (matchAndMismatch false).entity).intersects
      (matchAndMismatch false).mask = false := by
  have hall : overlapped.trace.all (fun
      | .ended false _ code s => code == .ok &&
          !(s.raisedOn (matchAndMismatch false).entity).intersects (matchAndMismatch false).mask
      | _ => true) = true := by
    decide +kernel
  simpa using List.all_eq_true.mp hall _ hended

/-- The wait for a mismatch succeeds although the writer carries none when the wait ends. -/
theorem wait_woken_for_another :
    Interleaves (fun _ => false) (fun i => (matchAndMismatch i).client)
        (State.new.run (fun _ => false) State.chatRun) overlapped ∧
      overlapped.threads false = .ready (.done (.ok ())) ∧
      ∀ waitSet code s, .ended false waitSet code s ∈ overlapped.trace →
        (s.raisedOn (matchAndMismatch false).entity).intersects (matchAndMismatch false).mask =
          false :=
  ⟨overlapped_interleaves, rfl, fun _ _ _ hended => (overlapped_quiet hended).2⟩

/-- What the wait told of was not enabled by the client itself. -/
theorem wait_tells_of_last_mask_overlapped :
    ∃ before after waitSet s', overlapped.trace = after ++ .ended false waitSet .ok s' :: before ∧
      ∃ c who mask, lastMask c before = some (who, mask) ∧ who ≠ some false ∧
        (s'.raisedOn (matchAndMismatch false).entity).intersects mask = true := by
  have hreach : Reachable (fun _ => false) (State.new.run (fun _ => false) State.chatRun) :=
    State.reachable_run (.new _) State.chatRun
  obtain ⟨htells, hok, -⟩ := wait_tells_of_last_mask hreach overlapped_interleaves false
  obtain ⟨waitSet, s', hended⟩ := hok rfl
  obtain ⟨after, before, hsplit⟩ := List.append_of_mem hended
  obtain ⟨c, who, mask, -, hlast, hown, ⟨-, hraised⟩ | ⟨htimeout, -⟩⟩ :=
    htells after before waitSet .ok s' hsplit
  · refine ⟨before, after, waitSet, s', hsplit, c, who, mask, hlast, fun hwho => ?_, hraised⟩
    rw [hown hwho, (overlapped_quiet hended).2] at hraised
    cases hraised
  · cases htimeout

end Bridge

end DdsBridge
