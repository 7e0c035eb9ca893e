import DdsBridge.Proofs.Provider.DataStatus
import DdsBridge.Proofs.Provider.Matching

/-!
# Operations that fail

Nearly every operation checks its arguments before it changes anything, so that one which fails has
no resulting state. Two of them find out late. A take pops the queue and settles the statuses
before it reports that there was nothing; a wait marks the wait set as occupied before its time is
up. Both undo nothing. That they leave the state as it was rests on the statuses about data, which
are down already wherever nothing waits to be taken, and on the mark, which was not set.

* **`settleReader_of_drained`** — settling a drained reader changes nothing.
* **`leaveWait_enterWait`** — entering a wait and leaving it again changes nothing.
* **`failure_keeps_state`** — an operation or a wait that fails leaves the whole state as it was.
-/

namespace DdsBridge

namespace Table

variable {κ α : Type} [DecidableEq κ]

/-- A change that leaves the value of its key alone is none. -/
theorem modify_eq_self {t : Table κ α} {k : κ} {f : α → α}
    (h : ∀ a, t.get? k = some a → f a = a) : t.modify k f = t := by
  refine ext ?_
  show t.entries.map (fun e => (e.1, if e.1 = k then f e.2 else e.2)) = t.entries
  refine (List.map_congr_left fun e he => ?_).trans (List.map_id _)
  obtain ⟨k', a⟩ := e
  by_cases hk : k' = k
  · subst hk
    simp [h a (mem_entries_iff.mp he)]
  · simp [hk]

/-- Two changes of one value, made at once. -/
theorem modify_modify (t : Table κ α) (k : κ) (f g : α → α) :
    (t.modify k f).modify k g = t.modify k (g ∘ f) := by
  refine ext ?_
  show (t.entries.map _).map _ = t.entries.map _
  rw [List.map_map]
  refine List.map_congr_left fun e _ => ?_
  by_cases hk : e.1 = k <;> simp [hk]

end Table

end DdsBridge

namespace DdsBridge.Provider

namespace State

variable {isFile : String → Bool} {s : State}

/-! ## A take that finds nothing -/

/-- A status that is not raised cannot be lowered. -/
theorem lower_of_not_raised {h : Handle} {kind : StatusKind}
    (hdown : ∀ r, s.entities.get? h = some r → r.raised.contains kind = false) :
    s.lower h kind = s := by
  have hsame : s.entities.modify h (fun r => { r with raised := r.raised.remove kind }) =
      s.entities := by
    refine Table.modify_eq_self fun r hr => ?_
    rw [StatusMask.remove_of_not_contains (hdown r hr)]
  unfold lower modifyEntity
  rw [hsame]

/-- A subscriber none of whose readers has anything to take has its status down. -/
theorem DataSigned.settleSubscriber (hs : s.DataSigned) {g : Handle} {rg : Record}
    {partition : List String} (hg : s.entities.get? g = some rg)
    (hbody : rg.body = .subscriber partition) : s.settleSubscriber g = s := by
  unfold State.settleSubscriber
  split
  · rfl
  · rename_i hdrained
    refine lower_of_not_raised fun r hr => ?_
    obtain rfl := Option.some.inj (hg.symm.trans hr)
    rw [Bool.eq_false_iff]
    intro hraised
    exact hdrained (hasData_iff.mpr (hasPending_iff.mpr ((hs.subscriber hg hbody).mp hraised)))

/-- Settling a drained reader changes nothing: its status is down, and that of its subscriber says
what is in the other queues. -/
theorem settleReader_of_drained (hs : s.DataSigned) (hwf : s.WellFormed) {h : Handle} {x : Reader}
    (hx : s.reader? h = some x) (hdrained : x.queue = []) : s.settleReader h = s := by
  obtain ⟨r, hr, hbody⟩ := reader?_eq_some_iff.mp hx
  have hlower : s.lower h .dataAvailable = s := by
    refine lower_of_not_raised fun r' hr' => ?_
    obtain rfl := Option.some.inj (hr.symm.trans hr')
    rw [Bool.eq_false_iff]
    exact fun hraised => (hs.reader hr hbody).mp hraised hdrained
  have hparent : (s.entities.get? h).bind Record.parent = r.parent := by rw [hr]; rfl
  unfold settleReader
  rw [hlower, hparent]
  cases hg : r.parent with
  | none => rfl
  | some g =>
      obtain ⟨rg, partition, hrg, hsub⟩ := hwf.subscriber_of_reader hr hbody hg
      exact hs.settleSubscriber hrg hsub

/-- A take that fails changes nothing, also if it fails because the queue is empty. -/
theorem take_failed (hs : s.DataSigned) (hwf : s.WellFormed) {h : Handle} {code : ReturnCode}
    (hfail : (s.take h).1 = .error code) : (s.take h).2 = s := by
  cases hget : s.get h .reader with
  | error refused => simp only [take, hget, proceed, fail]
  | ok r =>
      cases hx : s.reader? h with
      | none => simp only [take, hget, hx, proceed, fail]
      | some x =>
          cases hqueue : x.queue with
          | nil =>
              simp only [take, hget, hx, hqueue, proceed, fail]
              exact settleReader_of_drained hs hwf hx hqueue
          | cons y rest => simp [take, hget, hx, hqueue, proceed, succeed] at hfail

/-! ## A wait whose time is up -/

/-- A wait that is entered and left again has not been there. -/
theorem leaveWait_enterWait {s' : State} {waitSet : WaitSetId}
    (hok : s.enterWait waitSet = (.ok (), s')) : s'.leaveWait waitSet = s := by
  obtain ⟨⟨w, hw, hidle⟩, rfl⟩ := enterWait_eq_ok hok
  -- nobody waited before, so the mark that is taken back is one that was not there
  have hsame : (s.waitSets.modify waitSet fun w => { w with waiting := true }).modify waitSet
      (fun w => { w with waiting := false }) = s.waitSets := by
    rw [Table.modify_modify]
    refine Table.modify_eq_self fun w' hw' => ?_
    obtain rfl := Option.some.inj (hw.symm.trans hw')
    show { w with waiting := false } = w
    rw [← hidle]
  unfold leaveWait
  rw [hsame]

/-- A wait that ends, with a triggered condition or without, leaves the state as it was. -/
theorem waitAlone_code {waitSet : WaitSetId} {limit : Duration} {code : ReturnCode}
    (hend : (s.waitAlone waitSet limit).1 = .code code) : (s.waitAlone waitSet limit).2 = s := by
  unfold waitAlone at hend ⊢
  split
  · rename_i refused s' hrefused
    exact (congrArg Prod.snd hrefused).symm.trans
      (s.enterWait_keeps waitSet refused (congrArg Prod.fst hrefused))
  · rename_i s' hok
    rw [hok] at hend
    split
    · exact leaveWait_enterWait hok
    · split
      · simp_all
      · exact leaveWait_enterWait hok

/-! ## Every operation -/

/-- An operation that fails changes nothing, provided the statuses about data are right and what
entities refer to is there. -/
theorem perform_failed (hs : s.DataSigned) (hwf : s.WellFormed) {operation : Operation}
    (hfail : (s.perform isFile operation).1.code ≠ .ok) : (s.perform isFile operation).2 = s := by
  have hcase := perform_cases isFile s operation
  generalize s.perform isFile operation = result at hcase hfail ⊢
  cases hcase with
  | refused => rfl
  | took r =>
      cases htake : (s.take r).1 with
      | ok sample => exact absurd (by rw [htake]; rfl) hfail
      | error code => exact take_failed hs hwf htake
  | _ => exact absurd rfl hfail

/-- In every reachable state an operation that ends with a code other than `ok` leaves the whole
state as it was, with no listener call due that was not due before; and so does a wait that ends
while no other client acts, also one whose time is up. -/
theorem failure_keeps_state (hreach : Reachable isFile s) :
    (∀ operation, (s.perform isFile operation).1.code ≠ .ok →
      (s.perform isFile operation).2 = s) ∧
    ∀ waitSet limit code, (s.waitAlone waitSet limit).1 = .code code →
      (s.waitAlone waitSet limit).2 = s := by
  have hs := dataSigned_of_reachable hreach
  have hwf := wellFormed_of_reachable hreach
  exact ⟨fun _ hfail => perform_failed hs hwf hfail, fun _ _ _ hend => waitAlone_code hend⟩

/-- In a chat in which nothing was written, a take finds nothing, a wait runs out of time and a
topic of a type that nobody registered is refused. -/
theorem failure_keeps_state_chat :
    let s := new.run (fun _ => false) (chatRun ++ [.createWaitSet])
    Reachable (fun _ => false) s ∧
      (s.perform (fun _ => false) (.take ⟨6⟩)).1.code = .noData ∧
      (s.perform (fun _ => false) (.take ⟨6⟩)).2 = s ∧
      (s.perform (fun _ => false) (.createTopic ⟨1⟩ "chat" "Image")).1.code = .preconditionNotMet ∧
      (s.perform (fun _ => false) (.createTopic ⟨1⟩ "chat" "Image")).2 = s ∧
      (s.waitAlone ⟨7⟩ ⟨0, 0⟩).1 = .code .timeout ∧ (s.waitAlone ⟨7⟩ ⟨0, 0⟩).2 = s := by
  intro s
  have hreach : Reachable (fun _ => false) s := reachable_run (.new _) _
  have htake : (s.perform (fun _ => false) (.take ⟨6⟩)).1.code = .noData := by decide
  have htopic : (s.perform (fun _ => false) (.createTopic ⟨1⟩ "chat" "Image")).1.code =
      .preconditionNotMet := by decide
  have hwait : (s.waitAlone ⟨7⟩ ⟨0, 0⟩).1 = .code .timeout := by decide
  obtain ⟨hperform, halone⟩ := failure_keeps_state hreach
  exact ⟨hreach, htake, hperform _ (by simp [htake]), htopic, hperform _ (by simp [htopic]),
    hwait, halone _ _ _ hwait⟩

end State

end DdsBridge.Provider
