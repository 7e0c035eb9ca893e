import DdsBridge.Proofs.Provider.Offers

/-!
# Every queue is explained by what was offered

Whatever the order in which endpoints are created, written, read and cleaned up: with each operation
the queue of a reader goes by the law of queues, at the queue of that moment, and the events of a
whole run are those of its operations, one after the other. Of the samples of one writer the reader
hands out some of the payloads written, in the order of the writes.

* **`Logged`**, **`Logged.step`** — the invariant of a reader.
* **`Traced`**, **`Traced.step`** — the invariant of a writer with a reader.
* **`queue_follows_offers`** — every run.
-/

namespace DdsBridge.Provider.State

/-! ## The invariant of a reader -/

/-- What is known of a reader when some events happened to its queue: there are none before it is
there, and while it is there they lead from an empty queue to its queue. -/
structure Logged (s : State) (r : Handle) (log : List QueueEvent) : Prop where
  unborn : s.lastId < r.id → log = []
  live : ∀ b, s.inbox r = some b → (⟨b.qos, [], false⟩ : Inbox).Moves s.maxSamples log b
  order : (takenBy log).Sublist (offeredBy log)

theorem Logged.length_le {s : State} {r : Handle} {log : List QueueEvent} (h : s.Logged r log)
    (b : Inbox) (hb : s.inbox r = some b) :
    b.queue.length ≤ b.qos.history.capacity s.maxSamples :=
  (h.live b hb).run.length_le (Nat.zero_le _)

/-- Nobody has a handle that was not given out. -/
theorem WellFormed.inbox_of_unborn {s : State} (hwf : s.WellFormed) {r : Handle}
    (hr : s.lastId < r.id) : s.inbox r = none := by
  cases hb : s.inbox r with
  | none => rfl
  | some b =>
      obtain ⟨record, x, hrecord, -⟩ := inbox_eq_some_iff.mp hb
      have hissued := hwf.issued (profile_of_get? hrecord)
      omega

/-- A reader that is there with the queue to which all its events lead is known by them. -/
theorem Logged.of_moves {s : State} {r : Handle} {log : List QueueEvent} {b : Inbox}
    (hwf : s.WellFormed) (hb : s.inbox r = some b)
    (hmoves : (⟨b.qos, [], false⟩ : Inbox).Moves s.maxSamples log b) : s.Logged r log := by
  refine ⟨fun hr => ?_, fun other hother => ?_, hmoves.order⟩
  · cases (hwf.inbox_of_unborn hr).symm.trans hb
  · cases hb.symm.trans hother
    exact hmoves

theorem Logged.step {s s' : State} {operation : Operation} {reply : Reply} {r : Handle}
    {log events : List QueueEvent} (h : s.Logged r log) (hwf : s.WellFormed)
    (hstep : s.Evolves operation (reply, s')) {offered taken : List Sample}
    (hmoves : QueueMoves s s' r offered taken events) : s'.Logged r (log ++ events) := by
  have hid := hstep.lastId_le
  have hmax := hstep.maxSamples_eq
  -- the reader is not there afterwards, or its queue went on, or it starts one
  cases hmoves with
  | absent hgone =>
      rw [List.append_nil]
      refine ⟨fun hr => h.unborn (by omega), fun b hb => ?_, h.order⟩
      cases hgone.symm.trans hb
  | @moved b b' _ hb hb' hmoves =>
      refine .of_moves (hwf.evolves hstep) hb' ?_
      rw [hmax, hmoves.qos]
      exact (h.live b hb).trans hmoves
  | @born qos b' _ hnew hb' hmoves =>
      have hlog : log = [] := h.unborn (by rw [hnew]; exact Nat.lt_succ_self _)
      refine .of_moves (hwf.evolves hstep) hb' ?_
      rw [hmax, hmoves.qos, hlog]
      exact hmoves

/-! ## The invariant of a writer -/

theorem remember_sublist (qos : EndpointQos) (bound : Nat) (history : List (List UInt8))
    (payload : List UInt8) :
    (remember qos bound history payload).Sublist (history ++ [payload]) := by
  unfold remember
  split
  · exact List.drop_sublist _ _
  · exact List.sublist_append_left _ _

/-- A write is kept by its writer, if at all, after what the writer kept before. -/
theorem write_history {s s' : State} {w : Handle} {payload : List UInt8}
    (hok : s.write w payload = (.ok (), s')) (k : Handle) :
    s'.history k = if k = w then
        (s.writer? w).map fun x => remember x.qos s.maxSamples x.history payload
      else s.history k := by
  obtain ⟨x, hx, rfl⟩ := write_eq_ok hok
  have hoffered := Agree.foldl (fun s r => agree_offer history_ignoresTraffic.raised
    history_ignoresTraffic.queue s r ⟨payload, .valid w⟩)
    (s.modifyWriter w fun x =>
      { x with history := remember x.qos s.maxSamples x.history payload }) x.matched
  refine (hoffered.history k).trans ?_
  unfold history modifyWriter
  rw [modifyEntity_get?]
  obtain ⟨r, hr, hb⟩ := writer?_eq_some_iff.mp hx
  split
  · rename_i hk
    simp [hk, hr, hb, hx, Record.history]
  · rfl

/-- What a writer keeps after an operation: a new writer keeps nothing, and another one remembers
what the operation wrote on it after what it kept before. -/
theorem Evolves.history_eq {s s' : State} {operation : Operation} {reply : Reply}
    (hstep : s.Evolves operation (reply, s')) (w : Handle) {kept : List (List UInt8)}
    (hkept : s'.history w = some kept) :
    (w = s.next ∧ kept = [] ∧ writes w operation reply = []) ∨
      ∃ x, s.writer? w = some x ∧
        kept = (writes w operation reply).foldl (remember x.qos s.maxSamples) x.history := by
  -- all that is not the write itself: nothing is written and the history is the old one
  have hsame : writes w operation reply = [] → s'.history w = s.history w →
      (w = s.next ∧ kept = [] ∧ writes w operation reply = []) ∨
        ∃ x, s.writer? w = some x ∧
          kept = (writes w operation reply).foldl (remember x.qos s.maxSamples) x.history := by
    intro hnothing h
    rw [h, State.history_eq] at hkept
    obtain ⟨x, hx, rfl⟩ := Option.map_eq_some_iff.mp hkept
    exact .inr ⟨x, hx, by rw [hnothing]; rfl⟩
  cases hstep with
  | quiet hquiet hagree =>
      have hnothing := (unnoted_of_quiet s s' w w reply hquiet).2.2
      exact hsame hnothing ((hagree.of_core Record.history_core).history w)
  | @wrote w' payload _ hok =>
      have hwrite := write_history hok w
      by_cases hw : w = w'
      · subst hw
        rw [if_pos rfl, hkept] at hwrite
        obtain ⟨x, hx, hremember⟩ := Option.map_eq_some_iff.mp hwrite.symm
        exact .inr ⟨x, hx, by rw [writes_write, if_pos rfl]; exact hremember.symm⟩
      · exact hsame (if_neg (Ne.symm hw)) (hwrite.trans (if_neg hw))
  | took r =>
      exact hsame rfl ((agree_take history_ignoresTraffic.raised history_ignoresTraffic.queue
        s r).history w)
  | @created _ participant parent body hquiet hside hplaced =>
      have hnothing := (unnoted_of_quiet s s w w (.entity s.next) (.inl hquiet)).2.2
      by_cases hw : w = s.next
      · have hnone : (s.insert body.kind participant parent body).2.history w = none := by
          unfold history
          rw [insert_get?, if_pos hw]
          cases body with
          | writer x => exact absurd rfl (hside .writer x.topic x.qos)
          | _ => rfl
        exact absurd (hnone.symm.trans hkept) (by simp)
      · exact hsame hnothing (insert_history s body.kind participant parent body w hw)
  | @joined side p g t qos hplaced =>
      have hnothing := writes_create w (.entity s.next) side g t qos
      rw [discover_history] at hkept hsame
      by_cases hw : w = s.next
      · rw [hw, withEndpoint_history] at hkept
        split at hkept
        · exact .inl ⟨hw, (Option.some.inj hkept).symm, hnothing⟩
        · exact absurd hkept (by simp)
      · exact hsame hnothing (insert_history s side.kind (some p) (some g) (side.newBody t qos) w hw)
  | @cleared p d hp =>
      have hgone : (s.deleteAll (s.contained p)).history w =
          if w ∈ s.contained p then none else s.history w := by
        have htold := agree_unmatchAll history_ignoresTraffic s (s.contained p) (s.contained p)
        rw [← htold.history w]
        unfold deleteAll history
        rw [foldl_remove_get?]
        split <;> rfl
      rw [hgone] at hkept hsame
      split at hkept
      · exact absurd hkept (by simp)
      · rename_i hstays
        exact hsame rfl (if_neg hstays)
  | @released p d s' hp hempty hagree =>
      have hgone : s'.history w = if w = p then none else s.history w := by
        rw [(hagree.of_core Record.history_core).history]
        unfold history
        rw [remove_get?]
        split <;> rfl
      rw [hgone] at hkept hsame
      split at hkept
      · exact absurd hkept (by simp)
      · rename_i hstays
        exact hsame rfl (if_neg hstays)

theorem foldl_remember_sublist (qos : EndpointQos) (bound : Nat) (history : List (List UInt8))
    (payloads : List (List UInt8)) :
    (payloads.foldl (remember qos bound) history).Sublist (history ++ payloads) := by
  induction payloads generalizing history with
  | nil => simp
  | cons payload rest ih =>
      have hfirst := (remember_sublist qos bound history payload).append (List.Sublist.refl rest)
      rw [List.append_assoc] at hfirst
      exact (ih _).trans hfirst

/-- What a writer keeps after an operation is, in order, among what it kept before and what the
operation wrote. -/
theorem Evolves.history_sublist {s s' : State} {operation : Operation} {reply : Reply}
    (hstep : s.Evolves operation (reply, s')) (w : Handle) {kept : List (List UInt8)}
    (hkept : s'.history w = some kept) :
    kept = [] ∨ ∃ before, s.history w = some before ∧
      kept.Sublist (before ++ writes w operation reply) := by
  rcases hstep.history_eq w hkept with ⟨-, hnothing, -⟩ | ⟨x, hx, rfl⟩
  · exact .inl hnothing
  · refine .inr ⟨x.history, by rw [State.history_eq, hx]; rfl, ?_⟩
    exact foldl_remember_sublist x.qos s.maxSamples x.history _

/-- A replay takes from one writer at most what that writer has kept. -/
theorem payloadsFrom_keptFor (s : State) (w k r : Handle) :
    (payloadsFrom w (s.keptFor k r)).Sublist (if k = w then (s.history w).getD [] else []) := by
  rw [history_eq]
  unfold keptFor
  cases hx : s.writer? k with
  | none => exact List.nil_sublist _
  | some x =>
      cases hy : s.reader? r with
      | none => exact List.nil_sublist _
      | some y =>
          -- what a writer has kept bears its own handle, so another one contributes nothing
          by_cases hk : k = w
          · subst hk
            have hall : payloadsFrom k ((replay x y.qos).map fun payload =>
                (⟨payload, .valid k⟩ : Sample)) = replay x y.qos := by
              simp [payloadsFrom, SampleInfo.valid, List.filter_map, Function.comp_def]
            simp only [if_true, hx, Option.map_some, Option.getD_some, hall]
            unfold replay
            split
            · exact List.Sublist.refl _
            · exact List.nil_sublist _
          · have hnone : payloadsFrom w ((replay x y.qos).map fun payload =>
                (⟨payload, .valid k⟩ : Sample)) = [] := by
              simp [payloadsFrom, SampleInfo.valid, List.filter_map, Function.comp_def, hk]
            simp only [hnone]
            exact List.nil_sublist _

theorem payloadsFrom_flatMap_keptFor (s : State) (w r : Handle) {writers : List Handle}
    (hnodup : writers.Nodup) :
    (payloadsFrom w (writers.flatMap fun k => s.keptFor k r)).Sublist
      (if w ∈ writers then (s.history w).getD [] else []) := by
  induction writers with
  | nil => exact List.nil_sublist _
  | cons k rest ih =>
      obtain ⟨hk, hrest⟩ := List.nodup_cons.mp hnodup
      rw [List.flatMap_cons, payloadsFrom_append]
      have happ := (payloadsFrom_keptFor s w k r).append (ih hrest)
      by_cases hkw : k = w
      · subst hkw
        simpa [hk] using happ
      · simpa [hkw, Ne.symm hkw] using happ

theorem payloadsFrom_replayed (s s' : State) (w r : Handle) :
    (payloadsFrom w (s.replayed s' r)).Sublist ((s'.history w).getD []) := by
  refine (payloadsFrom_flatMap_keptFor s' w r (s.entities.distinct.filter _)).trans ?_
  split
  · exact List.Sublist.refl _
  · exact List.nil_sublist _

/-- What an operation offers of a writer's samples is what it writes on that writer, or the replay
to a reader that is new. -/
theorem Evolves.payloads {s s' : State} {operation : Operation} {reply : Reply}
    (hm : s.Matching) (hwf : s.WellFormed) (hstep : s.Evolves operation (reply, s'))
    (w r : Handle) :
    (payloadsFrom w (s.offers s' r operation reply)).Sublist (writes w operation reply) ∨
      (s.lastId < r.id ∧
        (payloadsFrom w (s.offers s' r operation reply)).Sublist ((s'.history w).getD [])) := by
  cases hstep with
  | quiet hquiet hagree =>
      rw [(unnoted_of_quiet s s' r w reply hquiet).1]
      exact .inl (List.nil_sublist _)
  | @wrote w' payload _ hok =>
      rw [offers_write, writes_write]
      refine .inl ?_
      split
      · by_cases hw : w' = w <;> simp [payloadsFrom, SampleInfo.valid, hw]
      · exact List.nil_sublist _
  | took r' =>
      rw [offers_take]
      exact .inl (List.nil_sublist _)
  | created hquiet hside hplaced =>
      rw [(unnoted_of_quiet s _ r w _ (.inl hquiet)).1]
      exact .inl (List.nil_sublist _)
  | @joined side p g t qos hplaced =>
      rw [offers_create]
      by_cases hr : r = s.next
      · exact .inr ⟨by rw [hr]; exact Nat.lt_succ_self _, payloadsFrom_replayed ..⟩
      · rw [replayed_of_old hm hwf hplaced hr]
        exact .inl (List.nil_sublist _)
  | @cleared p d hp =>
      rw [offers_deleteContained]
      refine .inl ?_
      split <;> exact List.nil_sublist _
  | released hp hempty hagree => exact .inl (List.nil_sublist _)

/-- What is known of a writer and a reader when some samples were offered to the reader and some
payloads written on the writer. -/
structure Traced (s : State) (w : Handle) (offered : List Sample)
    (written : List (List UInt8)) : Prop where
  kept : ∀ kept, s.history w = some kept → kept.Sublist written
  order : (payloadsFrom w offered).Sublist written

theorem Traced.step {s s' : State} {operation : Operation} {reply : Reply} {w r : Handle}
    {log : List QueueEvent} {written : List (List UInt8)}
    (htraced : s.Traced w (offeredBy log) written) (hlogged : s.Logged r log)
    (hm : s.Matching) (hwf : s.WellFormed) (hstep : s.Evolves operation (reply, s')) :
    s'.Traced w (offeredBy log ++ s.offers s' r operation reply)
      (written ++ writes w operation reply) := by
  have hkept : ∀ kept, s'.history w = some kept →
      kept.Sublist (written ++ writes w operation reply) := by
    intro kept hk
    rcases hstep.history_sublist w hk with rfl | ⟨before, hbefore, hsub⟩
    · exact List.nil_sublist _
    · exact hsub.trans ((htraced.kept before hbefore).append (List.Sublist.refl _))
  refine ⟨hkept, ?_⟩
  rw [payloadsFrom_append]
  rcases hstep.payloads hm hwf w r with hsub | ⟨hnew, hsub⟩
  · exact htraced.order.append hsub
  · rw [hlogged.unborn hnew, show offeredBy [] = [] from rfl, payloadsFrom_nil, List.nil_append]
    refine hsub.trans ?_
    cases hk : s'.history w with
    | none => exact List.nil_sublist _
    | some kept => exact hkept kept hk

/-! ## Every run -/

/-- All that is known when some events happened to the queue of a reader and some payloads were
written on each writer. -/
structure Explained (s : State) (r : Handle) (log : List QueueEvent)
    (written : Handle → List (List UInt8)) : Prop where
  wellFormed : s.WellFormed
  matching : s.Matching
  bound : 0 < s.maxSamples
  logged : s.Logged r log
  traced : ∀ w, s.Traced w (offeredBy log) (written w)

theorem explained_new (maxSamples : Nat) (r : Handle) :
    (State.new maxSamples).Explained r [] fun _ => [] where
  wellFormed := wellFormed_new maxSamples
  matching := matching_new maxSamples
  bound := Nat.lt_of_lt_of_le Nat.zero_lt_one (Nat.le_max_right maxSamples 1)
  logged :=
    { unborn := fun _ => rfl
      live := fun b hb => by simp [inbox, State.new] at hb
      order := List.Sublist.refl _ }
  traced := fun w =>
    { kept := fun kept hkept => by simp [history, State.new] at hkept
      order := List.Sublist.refl _ }

/-- One operation, and the events that it is to the queue. -/
theorem Explained.step {s s' : State} {operation : Operation} {reply : Reply} {r : Handle}
    {log : List QueueEvent} {written : Handle → List (List UInt8)}
    (h : s.Explained r log written) (hstep : s.Evolves operation (reply, s')) :
    ∃ events, QueueMoves s s' r (s.offers s' r operation reply) (takes r operation reply) events ∧
      s'.Explained r (log ++ events) fun w => written w ++ writes w operation reply := by
  have hinbox := hstep.inboxStep h.matching h.wellFormed r
  obtain ⟨events, hmoves⟩ := hinbox.exists_queueMoves h.bound h.logged.length_le
    (hstep.offers_of_absent h.matching h.wellFormed)
  refine ⟨events, hmoves, h.wellFormed.evolves hstep, h.matching.evolves h.wellFormed hstep,
    hstep.maxSamples_eq ▸ h.bound, h.logged.step h.wellFormed hstep hmoves, fun w => ?_⟩
  rw [offeredBy_append, hmoves.offeredBy_eq]
  exact (h.traced w).step h.logged h.matching h.wellFormed hstep

theorem Explained.run {s : State} {r : Handle} {log : List QueueEvent}
    {written : Handle → List (List UInt8)} (h : s.Explained r log written)
    (isFile : String → Bool) (operations : List Operation) :
    ∃ later, QueueLog isFile r s operations later ∧
      (s.run isFile operations).Explained r (log ++ later.flatten)
        fun w => written w ++ writtenBy isFile w s operations := by
  induction operations generalizing s log written with
  | nil => exact ⟨[], .nil s, by simpa [State.run, writtenBy, trace] using h⟩
  | cons operation rest ih =>
      obtain ⟨events, hmoves, hnext⟩ := h.step (perform_evolves h.wellFormed isFile operation)
      obtain ⟨later, hlater, hend⟩ := ih hnext
      refine ⟨events :: later, .cons rfl hmoves hlater, ?_⟩
      simp only [List.append_assoc] at hend
      exact hend

theorem run_maxSamples {isFile : String → Bool} {s : State} (hwf : s.WellFormed)
    (operations : List Operation) : (s.run isFile operations).maxSamples = s.maxSamples := by
  induction operations generalizing s with
  | nil => rfl
  | cons operation rest ih =>
      have hstep : s.Evolves operation
          ((s.perform isFile operation).1, (s.perform isFile operation).2) :=
        perform_evolves hwf isFile operation
      exact (ih (hwf.evolves hstep)).trans hstep.maxSamples_eq

theorem perform_take (isFile : String → Bool) {s : State} (hwf : s.WellFormed) {r : Handle}
    {x : Reader} (hx : s.reader? r = some x) :
    (s.perform isFile (.take r)).1 =
      match x.queue with
      | [] => .failed .noData
      | sample :: _ => .sample sample := by
  show Reply.of .sample (s.take r).1 = _
  rw [take_fst hwf hx]
  cases x.queue with
  | nil => rfl
  | cons sample rest => rfl

/-- In every run, what each operation does to the queue of a reader goes by the law of queues: of the
samples that the operation offers, each is accepted, displaces the oldest one or is refused as the
history policy says at the queue of that moment, and what it takes is the oldest sample. The events of
the run are those of its operations, one after the other, and they lead from the empty queue to the
queue of the reader, if it is there; the status of a refusal is up exactly if one of them is a
refusal. If the reader keeps the last samples, its queue is the end of what was offered, no longer
than its depth, and nothing was refused; if it keeps all, nothing was given up. What is taken next is
its oldest sample. Whether the reader lives or not, what was taken is, in order, among what was
offered, and what was taken of one writer is, in order, among what was written. -/
theorem queue_follows_offers (isFile : String → Bool) (maxSamples : Nat)
    (operations : List Operation) (r : Handle) :
    ∃ log, QueueLog isFile r (State.new maxSamples) operations log ∧
      offeredBy log.flatten = offeredTo isFile r (State.new maxSamples) operations ∧
      takenBy log.flatten = takenFrom isFile r (State.new maxSamples) operations ∧
      (∀ rec x, ((State.new maxSamples).run isFile operations).entities.get? r = some rec →
        rec.body = .reader x →
        QueueRun x.qos.history (max maxSamples 1) [] log.flatten x.queue ∧
        (rec.raised.contains .sampleRejected = true ↔ ∃ y, QueueEvent.refused y ∈ log.flatten) ∧
        (x.qos.history.kind = .keepLast →
          (∀ y, QueueEvent.refused y ∉ log.flatten) ∧
          x.queue <:+ offeredTo isFile r (State.new maxSamples) operations ∧
          (x.queue.length : Int) ≤ x.qos.history.depth ∧
          (x.qos.history.capacity (max maxSamples 1) : Int) = x.qos.history.depth) ∧
        (x.qos.history.kind = .keepAll →
          (∀ y z, QueueEvent.displaced y z ∉ log.flatten) ∧
          x.qos.history.capacity (max maxSamples 1) = max maxSamples 1) ∧
        (((State.new maxSamples).run isFile operations).perform isFile (.take r)).1 =
          match x.queue with
          | [] => .failed .noData
          | sample :: _ => .sample sample) ∧
      (takenFrom isFile r (State.new maxSamples) operations).Sublist
        (offeredTo isFile r (State.new maxSamples) operations) ∧
      ∀ w, (payloadsFrom w (takenFrom isFile r (State.new maxSamples) operations)).Sublist
        (writtenBy isFile w (State.new maxSamples) operations) := by
  obtain ⟨log, hlog, h⟩ := (explained_new maxSamples r).run isFile operations
  have hmax : ((State.new maxSamples).run isFile operations).maxSamples = max maxSamples 1 :=
    run_maxSamples (wellFormed_new maxSamples) operations
  simp only [List.nil_append] at h
  have hoffered := hlog.offeredBy_eq
  have htaken := hlog.takenBy_eq
  have horder := h.logged.order
  refine ⟨log, hlog, hoffered, htaken, fun rec x hrec hx => ?_, htaken ▸ hoffered ▸ horder,
    fun w => ?_⟩
  · have hreader := reader?_eq_some_iff.mpr ⟨rec, hrec, hx⟩
    have hmoves := h.logged.live _ (inbox_eq_some_iff.mpr ⟨rec, x, hrec, hx, rfl⟩)
    rw [hmax] at hmoves
    have hrun : QueueRun x.qos.history (max maxSamples 1) [] log.flatten x.queue := hmoves.run
    refine ⟨hrun, by simpa using hmoves.rejected, fun hkind => ⟨fun y hy => ?_, ?_⟩,
      fun hkind => ⟨fun y z hyz => ?_, capacity_keepAll _ hkind⟩,
      perform_take isFile h.wellFormed hreader⟩
    · -- which events occur tells the kind of the history
      exact absurd (hkind.symm.trans (hrun.kind_of_refused hy)) (by simp)
    · obtain ⟨site, -, -, hconsistent⟩ := h.wellFormed.readerAt hreader
      have hdepth := capacity_keepLast (max maxSamples 1) hconsistent hkind
      have hlength := hrun.length_le (Nat.zero_le _)
      have hsuffix := hrun.suffix hkind
      rw [List.nil_append, hoffered] at hsuffix
      exact ⟨hsuffix, by omega, hdepth⟩
    · exact absurd (hkind.symm.trans (hrun.kind_of_displaced hyz)) (by simp)
  · rw [← htaken]
    exact (payloadsFrom_sublist w horder).trans (h.traced w).order

/-- Two writes to a reader that keeps the last sample: both were offered, the second is queued. -/
theorem queue_follows_offers_chat :
    ∃ log, QueueRun { kind := .keepLast, depth := 1 } 5000 [] log [⟨[2], .valid ⟨5⟩⟩] ∧
      offeredBy log = [⟨[1], .valid ⟨5⟩⟩, ⟨[2], .valid ⟨5⟩⟩] ∧ takenBy log = [] := by
  obtain ⟨log, -, hoffered, htaken, hlive, -⟩ := queue_follows_offers (fun _ => false) 5000
    (chatRun ++ [.write ⟨5⟩ [1], .write ⟨5⟩ [2]]) ⟨6⟩
  obtain ⟨hrun, -⟩ := hlive
    ⟨.reader, ⟨1⟩, some ⟨4⟩, 1, ⟨0x4400⟩, none,
      .reader ⟨⟨2⟩, .readerDefault, [⟨5⟩], [⟨[2], .valid ⟨5⟩⟩], none⟩⟩
    ⟨⟨2⟩, .readerDefault, [⟨5⟩], [⟨[2], .valid ⟨5⟩⟩], none⟩ (by decide) rfl
  exact ⟨log.flatten, hrun, hoffered.trans (by decide), htaken.trans (by decide)⟩

end DdsBridge.Provider.State
