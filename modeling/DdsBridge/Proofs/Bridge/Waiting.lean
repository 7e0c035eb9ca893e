import DdsBridge.Bridge.Samples
import DdsBridge.Proofs.Bridge.Gate
import DdsBridge.Proofs.Bridge.Samples
import DdsBridge.Proofs.Host.Collect
import DdsBridge.Proofs.Provider.Conditions
import DdsBridge.Proofs.Provider.DataStatus
import DdsBridge.Proofs.Provider.Inbox

/-!
# A wait that nobody disturbs

A wait for statuses of an entity makes its own wait set, and while no other client acts it finds
out one thing: whether one of the statuses is raised on the entity. The statuses about data are
raised exactly while there is something to take, so a wait for them tells whether the next take
finds anything.

* **`attachCondition_undisturbed`** — the condition is enabled and attached.
* **`waitFor_undisturbed`** — the whole wait.
* **`waitFor_tells_of_data`** — waits for data on readers and on subscribers.
-/

namespace DdsBridge

open Provider (Record Reader State)

/-! ## Waits that end in between -/

namespace Provider.State

theorem SameEntities.agree {β : Type} {view : Record → β} {s s' : State}
    (h : s.SameEntities s') : Agree view s s' := .of_entities h.1 h.2.1 h.2.2

/-- States that agree in the core agree in what is queued. -/
theorem Agree.reader_queue {s s' : State} (ha : Agree Record.core s s') {e : Handle} {x : Reader}
    (hx : s.reader? e = some x) : ∃ x', s'.reader? e = some x' ∧ x'.queue = x.queue := by
  obtain ⟨rejected, hbox⟩ := inbox_of_reader? hx
  have hinbox := (ha.of_core Record.inbox_core).inbox e
  rw [hbox] at hinbox
  obtain ⟨r', x', hr', hbody', hsame⟩ := inbox_eq_some_iff.mp hinbox
  exact ⟨x', reader?_eq_some_iff.mpr ⟨r', hr', hbody'⟩, (congrArg Inbox.queue hsame).symm⟩

theorem SameEntities.trans {s₁ s₂ s₃ : State} (h : s₁.SameEntities s₂)
    (h' : s₂.SameEntities s₃) : s₁.SameEntities s₃ :=
  ⟨h'.1.trans h.1, Nat.le_trans h.2.1 h'.2.1, h'.2.2.trans h.2.2⟩

theorem SameEntities.refl (s : State) : s.SameEntities s := ⟨rfl, Nat.le_refl _, rfl⟩

/-- Where an operation that keeps the state when it fails leaves the entities when it succeeds, it
leaves them in any case. -/
theorem Keeps.sameEntities {α : Type} {s : State} {result : Result α} (hkeeps : s.Keeps result)
    (hok : ∀ a s', result = (.ok a, s') → s.SameEntities s') : s.SameEntities result.2 := by
  obtain ⟨_ | a, s'⟩ := result
  · rw [hkeeps _ rfl]
    exact .refl s
  · exact hok a s' rfl

theorem detach_sameEntities (s : State) (waitSet : WaitSetId) (c : ConditionId) :
    s.SameEntities (s.detach waitSet c).2 := by
  refine (s.detach_keeps waitSet c).sameEntities fun _ s' hok => ?_
  obtain ⟨w, -, ⟨-, rfl⟩ | ⟨-, rfl⟩⟩ := detach_eq_ok hok
  · exact ⟨rfl, Nat.le_refl _, rfl⟩
  · exact ⟨rfl, Nat.le_refl _, rfl⟩

theorem deleteWaitSet_sameEntities (s : State) (waitSet : WaitSetId) :
    s.SameEntities (s.deleteWaitSet waitSet).2 := by
  refine (s.deleteWaitSet_keeps waitSet).sameEntities fun _ s' hok => ?_
  obtain ⟨-, rfl⟩ := deleteWaitSet_eq_ok hok
  exact ⟨rfl, Nat.le_refl _, rfl⟩

/-- The wait of a client whose wait set holds one condition ends well if one of the statuses is
raised on the condition's entity, and else when its time is up. -/
theorem waitAlone_watched {s : State} {waitSet : WaitSetId} {c : ConditionId} {e : Handle}
    {mask : StatusMask} {r : Record} (henabled : s.conditions.get? c = some ⟨e, mask⟩)
    (hattached : s.waitSets.get? waitSet = some ⟨[c], false⟩)
    (hr : s.entities.get? e = some r) (limit : Duration) :
    ∃ s', s.waitAlone waitSet limit =
        (if r.raised.intersects mask then .code .ok
          else if limit.isInfinite then .never else .code .timeout, s') ∧
      s.SameEntities s' := by
  have henter : s.enterWait waitSet = (.ok (), { s with
      waitSets := s.waitSets.modify waitSet fun w => { w with waiting := true } }) := by
    unfold enterWait
    rw [hattached]
    rfl
  have htest : anyTriggered { s with
      waitSets := s.waitSets.modify waitSet fun w => { w with waiting := true } } waitSet =
        r.raised.intersects mask := by
    unfold anyTriggered
    rw [Table.get?_modify_self, hattached]
    simp [isTriggered, henabled, hr]
  unfold waitAlone
  rw [henter]
  dsimp only
  rw [htest]
  split
  · exact ⟨_, rfl, rfl, Nat.le_refl _, rfl⟩
  · split
    · exact ⟨_, rfl, rfl, Nat.le_refl _, rfl⟩
    · exact ⟨_, rfl, rfl, Nat.le_refl _, rfl⟩

/-- A wait set on which nobody waits is as before. -/
theorem leaveAll_idle {s : State} {waitSet : WaitSetId} {attached : List ConditionId}
    (h : s.waitSets.get? waitSet = some ⟨attached, false⟩) (ended : List WaitSetId) :
    (s.leaveAll ended).waitSets.get? waitSet = some ⟨attached, false⟩ := by
  unfold leaveAll
  induction ended generalizing s with
  | nil => exact h
  | cons gone rest ih =>
      refine ih ?_
      show (s.waitSets.modify gone fun w => { w with waiting := false }).get? waitSet = _
      rw [Table.get?_modify, h]
      split <;> rfl

end Provider.State

namespace World

variable {B : Type}

/-- A world that took over a state of the provider: the due calls were made, and waits that were
over have ended. -/
structure Adopts (w : World B) (s : State) (w' : World B) : Prop where
  faults : w'.faults = w.faults
  conditions : w'.provider.conditions = s.conditions
  same : s.SameEntities w'.provider
  idle : ∀ {waitSet attached}, s.waitSets.get? waitSet = some ⟨attached, false⟩ →
    w'.provider.waitSets.get? waitSet = some ⟨attached, false⟩

theorem adopts_advance (w : World B) (s : State) : w.Adopts s (w.advance s) := by
  obtain ⟨_, _, ended, _, heq⟩ := w.advance_eq s
  rw [heq]
  have hleave : ∃ waitSets, { s with calls := [] }.leaveAll ended =
      { s with calls := [], waitSets } := State.leaveAll_eq _ ended
  obtain ⟨waitSets, hleave⟩ := hleave
  refine ⟨rfl, ?_, ?_, fun {waitSet attached} hidle => ?_⟩
  · show ({ s with calls := [] }.leaveAll ended).conditions = s.conditions
    rw [hleave]
  · show s.SameEntities ({ s with calls := [] }.leaveAll ended)
    rw [hleave]
    exact ⟨rfl, Nat.le_refl _, rfl⟩
  · have hidle' : ({ s with calls := [] } : State).waitSets.get? waitSet =
        some ⟨attached, false⟩ := hidle
    exact State.leaveAll_idle hidle' ended

end World

namespace Gate

variable {B ε α : Type} {w : World B} {method : Provider.Method}

theorem fetch_ok {op : State → Provider.Result α} {a : α} {s : State}
    (hfaults : w.faults = []) (hok : op w.provider = (.ok a, s)) :
    (fetch method op : Action B ε (Except ReturnCode α)).apply w =
      (.ok (.ok a), w.advance s) := by
  rw [fetch_apply, hfaults]
  simp only [takeFault, hok]

theorem run_ok {op : State → Provider.Result Unit} {s : State} (hfaults : w.faults = [])
    (hok : op w.provider = (.ok (), s)) :
    (run method op : Action B ε ReturnCode).apply w = (.ok .ok, w.advance s) := by
  rw [run_apply, hfaults]
  simp only [takeFault, hok]

/-- A call that leaves the entities, whatever its code. -/
theorem run_sees (method : Provider.Method) {op : State → Provider.Result Unit}
    (hfaults : w.faults = []) (hop : ∀ s : State, s.SameEntities (op s).2) :
    ∃ code w', (run method op : Action B ε ReturnCode).apply w = (.ok code, w') ∧
      w'.faults = [] ∧ w.provider.SameEntities w'.provider := by
  rw [run_apply, hfaults]
  simp only [takeFault]
  have hadopts := w.adopts_advance (op w.provider).2
  have hsame := (hop w.provider).trans hadopts.same
  have hnone := hadopts.faults.trans hfaults
  revert hsame hnone
  rcases op w.provider with ⟨_ | _, s⟩
  · exact fun hsame hnone => ⟨_, _, rfl, hnone, hsame⟩
  · exact fun hsame hnone => ⟨_, _, rfl, hnone, hsame⟩

/-- A wait that comes to an end. -/
theorem wait_ok {waitSet : WaitSetId} {limit : Duration} {code : ReturnCode} {s : State}
    (hfaults : w.faults = [])
    (hwait : w.provider.waitAlone waitSet limit = (.code code, s)) :
    (wait waitSet limit : Action B ε ReturnCode).apply w = (.ok code, w.advance s) := by
  rw [wait, Action.apply_bind, nextFault_apply, hfaults]
  dsimp only [takeFault]
  rw [Action.apply_bind_of_ok (Action.apply_world w), hwait]
  rfl

theorem check_ok (operation : String) (w : World B) :
    (check operation .ok : BridgeAction B Unit).apply w = (.ok (), w) := rfl

end Gate

namespace Bridge

variable {B : Type} {w : World B} {e : Handle} {mask : StatusMask}

/-! ## The steps of a wait -/

/-- A client that watches an entity through a wait set of its own, enabled for some statuses. -/
structure Watches (w : World B) (e : Handle) (mask : StatusMask) (waitSet : WaitSetId)
    (condition : ConditionId) : Prop where
  faults : w.faults = []
  enabled : w.provider.conditions.get? condition = some ⟨e, mask⟩
  attached : w.provider.waitSets.get? waitSet = some ⟨[condition], false⟩

/-- Asking for the condition of a live entity and enabling it succeeds. -/
theorem attachCondition_undisturbed {r : Record} (hfaults : w.faults = [])
    (hconditioned : w.provider.Conditioned) (hr : w.provider.entities.get? e = some r)
    (mask : StatusMask) :
    ∃ waitSet condition w',
      (attachCondition e mask : BridgeAction B _).apply w = (.ok (waitSet, condition), w') ∧
        Watches w' e mask waitSet condition ∧
        State.Agree State.coreAndRefs w.provider w'.provider := by
  -- four calls of the provider, and none of them can fail here
  obtain ⟨c, s₁, hasked⟩ := State.statusCondition_live hr
  have hw₁ := w.adopts_advance s₁
  obtain ⟨before, hbefore⟩ :=
    (hconditioned.statusCondition hasked).known (State.statusCondition_conditionOf hasked)
  rw [← hw₁.conditions] at hbefore
  obtain ⟨s₂, henabled, hmask, hsame₂⟩ := State.setEnabled_known hbefore mask
  have hw₂ := (w.advance s₁).adopts_advance s₂
  rw [← hw₂.conditions] at hmask
  obtain ⟨waitSet, s₃, hmade, hempty, hconds₃, hsame₃⟩ :=
    State.createWaitSet_new ((w.advance s₁).advance s₂).provider
  have hw₃ := ((w.advance s₁).advance s₂).adopts_advance s₃
  rw [← hconds₃, ← hw₃.conditions] at hmask
  obtain ⟨s₄, hattached, hwatched, hconds₄, hsame₄⟩ :=
    State.attach_known hmask (hw₃.idle hempty)
  have hw₄ := (((w.advance s₁).advance s₂).advance s₃).adopts_advance s₄
  have hfaults₃ := hw₃.faults.trans (hw₂.faults.trans (hw₁.faults.trans hfaults))
  refine ⟨waitSet, c, _, ?_, ⟨hw₄.faults.trans hfaults₃, ?_, hw₄.idle hwatched⟩, ?_⟩
  · rw [attachCondition, Action.apply_bind_of_ok (Gate.fetch_ok hfaults hasked)]
    dsimp only [Gate.expect]
    rw [pure_bind,
      Action.apply_bind_of_ok (Gate.run_ok (hw₁.faults.trans hfaults) henabled)]
    rw [Action.apply_bind_of_ok (Gate.check_ok _ _),
      Action.apply_bind_of_ok (Action.apply_world _), hmade]
    dsimp only
    rw [Action.apply_bind_of_ok (Action.apply_change _ _),
      Action.apply_bind_of_ok (Gate.run_ok hfaults₃ hattached)]
    rfl
  · rw [hw₄.conditions, hconds₄, hmask]
  · have hagree₁ := (State.agree_statusCondition hasked).trans hw₁.same.agree
    have hagree₂ := hagree₁.trans (hsame₂.agree.trans hw₂.same.agree)
    have hagree₃ := hagree₂.trans (hsame₃.agree.trans hw₃.same.agree)
    exact hagree₃.trans (hsame₄.agree.trans hw₄.same.agree)

/-- Taking the condition out again and deleting the wait set leaves the entities. -/
theorem detachCondition_undisturbed (hfaults : w.faults = []) (waitSet : WaitSetId)
    (condition : ConditionId) :
    ∃ w', (detachCondition waitSet condition : BridgeAction B Unit).apply w = (.ok (), w') ∧
      w.provider.SameEntities w'.provider := by
  obtain ⟨_, w₁, hdetach, hfaults₁, hsame₁⟩ :=
    Gate.run_sees (ε := Error) .detachCondition hfaults
      fun s => State.detach_sameEntities s waitSet condition
  obtain ⟨_, w₂, hdelete, -, hsame₂⟩ :=
    Gate.run_sees (ε := Error) .deleteWaitset hfaults₁
      fun s => State.deleteWaitSet_sameEntities s waitSet
  refine ⟨w₂, ?_, hsame₁.trans hsame₂⟩
  rw [detachCondition, Action.apply_bind_of_ok hdetach, Action.apply_bind_of_ok hdelete]
  rfl

/-- The wait itself, with an end. -/
theorem wait_undisturbed {waitSet : WaitSetId} {c : ConditionId} {r : Record}
    (hwatches : Watches w e mask waitSet c) (hr : w.provider.entities.get? e = some r)
    {limit : Duration} (hfinite : limit.isInfinite = false) :
    ∃ w', (unlocked (Gate.wait waitSet limit) : BridgeAction B ReturnCode).apply w =
        (.ok (if r.raised.intersects mask then .ok else .timeout), w') ∧
      w'.faults = [] ∧ w.provider.SameEntities w'.provider := by
  obtain ⟨s, hwait, hsame⟩ :=
    State.waitAlone_watched hwatches.enabled hwatches.attached hr limit
  have hcode : w.provider.waitAlone waitSet limit =
      (.code (if r.raised.intersects mask then .ok else .timeout), s) := by
    rw [hwait, hfinite]
    cases r.raised.intersects mask <;> rfl
  have hw' := World.adopts_advance { w with unlockCount := w.unlockCount + 1 } s
  refine ⟨_, ?_, hw'.faults.trans hwatches.faults, hsame.trans hw'.same⟩
  rw [unlocked, Action.apply_bind_of_ok (Action.apply_change _ w)]
  exact Gate.wait_ok hwatches.faults hcode

/-- A wait with an end that nobody disturbs succeeds if one of the statuses is raised on the
entity, and else its time is up. It leaves the entities as they are, but for the condition that it
may have made. -/
theorem waitFor_undisturbed {h : Host B} {proxy : Ref} {kind : EntityKind} {r : Record}
    {w₀ : World B} (hproxy : (Proxies.resolve h proxy "entity").apply w₀ = (.ok (kind, e), w))
    (hfaults : w.faults = []) (hconditioned : w.provider.Conditioned)
    (hr : w.provider.entities.get? e = some r) (mask : StatusMask) {limit : Duration}
    (hfinite : limit.isInfinite = false) :
    ∃ w', (waitFor h proxy mask limit).apply w₀ =
        (if r.raised.intersects mask then .ok ()
          else .error (.raised (.timeout limit mask)), w') ∧
      State.Agree State.coreAndRefs w.provider w'.provider := by
  obtain ⟨waitSet, c, w₁, hattach, hwatches, hagree₁⟩ :=
    attachCondition_undisturbed hfaults hconditioned hr mask
  have hraised : ∃ r₁, w₁.provider.entities.get? e = some r₁ ∧ r₁.raised = r.raised := by
    have hlook := hagree₁.look e
    rw [hr, Option.map_some] at hlook
    obtain ⟨r₁, hr₁, hsame⟩ := Option.map_eq_some_iff.mp hlook
    exact ⟨r₁, hr₁, congrArg (fun x => Record.raised x.1) hsame⟩
  obtain ⟨r₁, hr₁, hsame⟩ := hraised
  obtain ⟨w₂, hwait, hfaults₂, hsame₂⟩ := wait_undisturbed hwatches hr₁ hfinite
  obtain ⟨w₃, hdetach, hsame₃⟩ := detachCondition_undisturbed hfaults₂ waitSet c
  rw [hsame] at hwait
  refine ⟨w₃, ?_, hagree₁.trans (hsame₂.trans hsame₃).agree⟩
  rw [waitFor, Action.apply_bind_of_ok hproxy]
  dsimp only
  rw [Action.apply_bind_of_ok hattach]
  dsimp only
  rw [Action.apply_bind_of_ok hwait, Action.apply_bind_of_ok hdetach]
  cases r.raised.intersects mask with
  | true => rfl
  | false => rfl

/-! ## Waiting for data -/

/-- A wait for one status. -/
theorem waitFor_kind {h : Host B} {proxy : Ref} {kind : EntityKind} {r : Record}
    {w₀ : World B} (hproxy : (Proxies.resolve h proxy "entity").apply w₀ = (.ok (kind, e), w))
    (hfaults : w.faults = []) (hconditioned : w.provider.Conditioned)
    (hr : w.provider.entities.get? e = some r) (status : StatusKind) {limit : Duration}
    (hfinite : limit.isInfinite = false) :
    ∃ result w', (waitFor h proxy (.ofKind status) limit).apply w₀ = (result, w') ∧
      (result = .ok () ↔ r.raised.contains status = true) ∧
      (result ≠ .ok () → result = .error (.raised (.timeout limit (.ofKind status)))) ∧
      State.Agree Record.core w.provider w'.provider := by
  obtain ⟨w', hwait, hagree⟩ :=
    waitFor_undisturbed hproxy hfaults hconditioned hr (.ofKind status) hfinite
  rw [StatusMask.intersects_ofKind] at hwait
  refine ⟨_, w', hwait, ?_, ?_, hagree.map Prod.fst⟩
  · cases r.raised.contains status <;> simp
  · cases r.raised.contains status <;> simp

/-- The statuses about data say in every reachable state whether something is queued, on a reader
itself and on a subscriber in one of the readers created on it.

So a wait for them that nobody else disturbs and that has an end finds out whether there is
something to take. It succeeds exactly if the next take on the reader, or on some reader of the
subscriber, would not report that there is no data, and else its time is up. -/
theorem waitFor_tells_of_data {isFile : String → Bool} {s : State}
    (hreach : Provider.Reachable isFile s) :
    (∀ e r x, s.entities.get? e = some r → r.body = .reader x →
      (r.raised.contains .dataAvailable = true ↔ x.queue ≠ [])) ∧
    (∀ e r partition, s.entities.get? e = some r → r.body = .subscriber partition →
      (r.raised.contains .dataOnReaders = true ↔
        ∃ k rk x, s.entities.get? k = some rk ∧ rk.parent = some e ∧ rk.body = .reader x ∧
          x.queue ≠ [])) ∧
    ∀ (h : Host B) (w₀ w : World B) (proxy : Ref) (kind : EntityKind) (e : Handle)
      (limit : Duration),
      (Proxies.resolve h proxy "entity").apply w₀ = (.ok (kind, e), w) →
      w.provider = { s with calls := w.provider.calls } → w.faults = [] →
      limit.isInfinite = false →
      (∀ x, s.reader? e = some x →
        ∃ result w', (waitFor h proxy (.ofKind .dataAvailable) limit).apply w₀ = (result, w') ∧
          (result = .ok () ↔ (w'.provider.take e).1 ≠ .error .noData) ∧
          (result ≠ .ok () →
            result = .error (.raised (.timeout limit (.ofKind .dataAvailable))))) ∧
      (∀ r partition, s.entities.get? e = some r → r.body = .subscriber partition →
        ∃ result w', (waitFor h proxy (.ofKind .dataOnReaders) limit).apply w₀ = (result, w') ∧
          (result = .ok () ↔ ∃ k rk x, w'.provider.entities.get? k = some rk ∧
            rk.parent = some e ∧ rk.body = .reader x ∧
            (w'.provider.take k).1 ≠ .error .noData) ∧
          (result ≠ .ok () →
            result = .error (.raised (.timeout limit (.ofKind .dataOnReaders))))) := by
  have hsigned := State.dataSigned_of_reachable hreach
  have hwf := State.wellFormed_of_reachable hreach
  refine ⟨fun e r x hr hx => hsigned.reader hr hx,
    fun e r partition hr hbody => hsigned.subscriber hr hbody, ?_⟩
  intro h w₀ w proxy kind e limit hproxy hprovider hfaults hfinite
  have hsame : s.SameEntities w.provider := by
    rw [hprovider]
    exact ⟨rfl, Nat.le_refl _, rfl⟩
  have hconditioned : w.provider.Conditioned := by
    rw [hprovider]
    exact (State.conditioned_of_reachable hreach).of_same rfl rfl (Nat.le_refl _)
  constructor
  · intro x hx
    obtain ⟨r, hr, hbody⟩ := State.reader?_eq_some_iff.mp hx
    obtain ⟨result, w', hwait, hresult, htimeout, hagree⟩ :=
      waitFor_kind hproxy hfaults hconditioned (hsame.1 ▸ hr) .dataAvailable hfinite
    -- the wait leaves the queue, so the next take finds what the status told of
    have hkept := hsame.agree.trans hagree
    have hwf' := hwf.of_agree (hkept.of_core Record.outline_core).stem
    obtain ⟨x', hx', hqueue⟩ := hkept.reader_queue hx
    refine ⟨result, w', hwait, ?_, htimeout⟩
    rw [hresult, hsigned.reader hr hbody, State.take_ne_noData_iff hwf' hx', hqueue]
  · intro r partition hr hbody
    obtain ⟨result, w', hwait, hresult, htimeout, hagree⟩ :=
      waitFor_kind hproxy hfaults hconditioned (hsame.1 ▸ hr) .dataOnReaders hfinite
    have hkept := hsame.agree.trans hagree
    have hwf' := hwf.of_agree (hkept.of_core Record.outline_core).stem
    have hpending : w'.provider.HasPending e ↔ s.HasPending e :=
      State.hasPending_congr (fun k => (hkept.of_core Record.signs_core).signs k) e
    refine ⟨result, w', hwait, ?_, htimeout⟩
    rw [hresult, hsigned.subscriber hr hbody, ← State.hasPending_iff, ← hpending,
      State.hasPending_iff]
    refine exists_congr fun k => exists_congr fun rk => exists_congr fun x => ?_
    refine and_congr_right fun hrk => and_congr_right fun _ => and_congr_right fun hx => ?_
    exact (State.take_ne_noData_iff hwf' (State.reader?_eq_some_iff.mpr ⟨rk, hrk, hx⟩)).symm

/-- A sample was written to the reader, so a wait for data on it succeeds; the wait leaves the
sample to be taken. -/
theorem waitFor_tells_of_data_point :
    ∃ w', (waitFor pointHost ⟨22⟩ (.ofKind .dataAvailable) .zero).apply pointSent =
        (.ok (), w') ∧ (w'.provider.take ⟨6⟩).1 ≠ .error .noData := by
  have hreach : Provider.Reachable (fun _ => false) (State.new.run (fun _ => false)
      (State.chatRun ++ [.write ⟨5⟩ [0, 1, 0, 0, 7, 0, 0, 0, 1, 0, 0, 0, 1]])) :=
    State.reachable_run (.new _) _
  obtain ⟨result, w', hwait, hresult, -⟩ := ((waitFor_tells_of_data hreach).2.2 pointHost
    pointSent pointSent ⟨22⟩ .reader ⟨6⟩ .zero (by rfl) (by decide +kernel) rfl rfl).1
    ⟨⟨2⟩, .readerDefault, [⟨5⟩], [⟨[0, 1, 0, 0, 7, 0, 0, 0, 1, 0, 0, 0, 1], .valid ⟨5⟩⟩], none⟩
    (by decide)
  have hw' : w' = ((waitFor pointHost ⟨22⟩ (.ofKind .dataAvailable) .zero).apply pointSent).2 :=
    (congrArg Prod.snd hwait).symm
  have htake : (w'.provider.take ⟨6⟩).1 ≠ .error .noData := by
    rw [hw']
    decide +kernel
  exact ⟨w', hresult.mpr htake ▸ hwait, htake⟩

end Bridge

end DdsBridge
