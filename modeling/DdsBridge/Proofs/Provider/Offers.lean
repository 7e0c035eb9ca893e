import DdsBridge.Proofs.Provider.Inbox

/-!
# What is offered to a reader

Three things offer samples to a reader: the replay of a match, a write on a matched writer, and the
notice when its last writer is gone. Which samples an operation offers, hands out or writes is read
off from the outside, from its reply and from the matched peers before and after it.

* **`State.offers`**, **`takes`**, **`writes`** — what an observer of one operation notes down.
* **`State.offeredTo`**, **`State.takenFrom`**, **`State.writtenBy`** — the notes of a run.
* **`Inbox.Moves`** — the law of queues leads from one inbox to another.
* **`InboxStep`**, **`Evolves.inboxStep`** — one operation does to each inbox what was noted down.
* **`QueueMoves`**, **`QueueLog`** — the events that an operation, and a run, is to a queue.
-/

namespace DdsBridge.Provider

/-- The payloads that a writer contributed to some samples. -/
def payloadsFrom (w : Handle) (samples : List Sample) : List (List UInt8) :=
  (samples.filter fun x => x.info.publication = some w).map Sample.payload

@[simp] theorem payloadsFrom_nil (w : Handle) : payloadsFrom w [] = [] := rfl

@[simp] theorem payloadsFrom_append (w : Handle) (a b : List Sample) :
    payloadsFrom w (a ++ b) = payloadsFrom w a ++ payloadsFrom w b := by
  simp [payloadsFrom]

theorem payloadsFrom_sublist (w : Handle) {a b : List Sample} (h : a.Sublist b) :
    (payloadsFrom w a).Sublist (payloadsFrom w b) := (h.filter _).map _

/-- The sample that a reply hands out to somebody who takes from a reader. -/
def takes (r : Handle) : Operation → Reply → List Sample
  | .take r', .sample x => if r' = r then [x] else []
  | _, _ => []

/-- The payload that a successful operation writes on a writer. -/
def writes (w : Handle) : Operation → Reply → List (List UInt8)
  | .write w' payload, .done => if w' = w then [payload] else []
  | _, _ => []

namespace State

/-- What the new peers of a reader have kept for it, in the order in which the table lists them at
that moment. -/
def replayed (s s' : State) (r : Handle) : List Sample :=
  (s.entities.keys.filter fun w => w ∈ s'.matchedWith r ∧ w ∉ s.matchedWith r).flatMap fun w =>
    s'.keptFor w r

/-- The samples that an operation which leads from one state to the other offers to a reader. -/
def offers (s s' : State) (r : Handle) : Operation → Reply → List Sample
  | .createWriter .., .entity _ => s.replayed s' r
  | .createReader .., .entity _ => s.replayed s' r
  | .write w payload, .done => if r ∈ s.matchedWith w then [⟨payload, .valid w⟩] else []
  | .deleteContained _, .done =>
    if s.matchedWith r ≠ [] ∧ s'.matchedWith r = [] ∧ (s'.reader? r).isSome then [orphanNotice]
    else []
  | _, _ => []

section

variable {operation : Operation} (s s' : State) (r w h : Handle) (reply : Reply)

/-- Nothing is noted down of an operation that moves no sample, or that fails. -/
theorem unnoted_of_quiet
    (hquiet : operation.moves = false ∨ ∃ code, reply = .failed code) :
    s.offers s' r operation reply = [] ∧ takes r operation reply = [] ∧
      writes w operation reply = [] := by
  rcases hquiet with hquiet | ⟨code, rfl⟩
  · cases operation <;> first | exact ⟨rfl, rfl, rfl⟩ | nomatch hquiet
  · cases operation <;> exact ⟨rfl, rfl, rfl⟩

theorem offers_write (payload : List UInt8) :
    s.offers s' r (.write w payload) .done =
      if r ∈ s.matchedWith w then [⟨payload, .valid w⟩] else [] := rfl

theorem writes_write (w' : Handle) (payload : List UInt8) :
    writes w (.write w' payload) .done = if w' = w then [payload] else [] := rfl

theorem offers_take (r' : Handle) : s.offers s' r (.take r') reply = [] := by
  cases reply <;> rfl

theorem offers_deleteContained (p : Handle) :
    s.offers s' r (.deleteContained p) .done =
      if s.matchedWith r ≠ [] ∧ s'.matchedWith r = [] ∧ (s'.reader? r).isSome then [orphanNotice]
      else [] := rfl

variable (side : Side) (g t : Handle) (qos : EndpointQos)

theorem offers_create : s.offers s' r (side.create g t qos) (.entity h) = s.replayed s' r := by
  cases side <;> rfl

theorem takes_create : takes r (side.create g t qos) reply = [] := by
  cases side <;> rfl

theorem writes_create : writes w (side.create g t qos) reply = [] := by
  cases side <;> rfl

end

/-- What an observer notes down during a run. -/
def trace {α : Type} (isFile : String → Bool) (note : State → Operation → Reply × State → List α)
    (s : State) : List Operation → List α
  | [] => []
  | operation :: rest =>
    let step := s.perform isFile operation
    note s operation step ++ trace isFile note step.2 rest

theorem trace_append {α : Type} (isFile : String → Bool)
    (note : State → Operation → Reply × State → List α) (s : State) (before after : List Operation) :
    trace isFile note s (before ++ after) =
      trace isFile note s before ++ trace isFile note (s.run isFile before) after := by
  induction before generalizing s with
  | nil => rfl
  | cons operation rest ih =>
      rw [List.cons_append, trace, trace, ih, List.append_assoc]
      rfl

/-- The samples offered to a reader during a run. -/
def offeredTo (isFile : String → Bool) (r : Handle) : State → List Operation → List Sample :=
  trace isFile fun s operation step => s.offers step.2 r operation step.1

/-- The samples taken from a reader during a run. -/
def takenFrom (isFile : String → Bool) (r : Handle) : State → List Operation → List Sample :=
  trace isFile fun _ operation step => takes r operation step.1

/-- The payloads written on a writer during a run. -/
def writtenBy (isFile : String → Bool) (w : Handle) :
    State → List Operation → List (List UInt8) :=
  trace isFile fun _ operation step => writes w operation step.1

end State

/-! ## Inboxes and the law of queues -/

/-- Events lead from one inbox to another: the queue goes by the law, and the status of a refusal is
there if it was there before or one of the events is a refusal. -/
structure Inbox.Moves (bound : Nat) (b : Inbox) (events : List QueueEvent) (b' : Inbox) : Prop where
  qos : b'.qos = b.qos
  run : QueueRun b.qos.history bound b.queue events b'.queue
  rejected : b'.rejected = true ↔ b.rejected = true ∨ ∃ x, QueueEvent.refused x ∈ events

namespace Inbox.Moves

variable {bound : Nat} {b b₁ b' : Inbox} {events more : List QueueEvent}

theorem refl (bound : Nat) (b : Inbox) : b.Moves bound [] b :=
  ⟨rfl, .nil, by simp⟩

theorem trans (h : b.Moves bound events b₁) (h' : b₁.Moves bound more b') :
    b.Moves bound (events ++ more) b' where
  qos := h'.qos.trans h.qos
  run := h.run.trans (h.qos ▸ h'.run)
  rejected := by
    rw [h'.rejected, h.rejected]
    simp only [List.mem_append, exists_or, or_assoc]

/-- Offering a sample is one event. -/
theorem exists_offer (hlength : b.queue.length ≤ b.qos.history.capacity bound) (hbound : 0 < bound)
    (x : Sample) : ∃ event, event.offered? = some x ∧ event.taken? = none ∧
      b.Moves bound [event] (b.offer bound x) := by
  obtain ⟨event, hoffered, htaken, hstep⟩ := QueueStep.exists_offer hlength hbound x
  refine ⟨event, hoffered, htaken, ?_⟩
  unfold Inbox.offer
  cases hqueue : State.enqueue b.qos.history bound b.queue x with
  | none =>
      rw [hqueue] at hstep
      obtain ⟨hstep, rfl⟩ := hstep
      exact ⟨rfl, .step hstep, by simp⟩
  | some queue =>
      rw [hqueue] at hstep
      obtain ⟨hstep, hkept⟩ := hstep
      exact ⟨rfl, .step hstep, by simp [fun y => (hkept y).symm]⟩

/-- Offering samples is one event for each of them. -/
theorem exists_offerAll (hlength : b.queue.length ≤ b.qos.history.capacity bound)
    (hbound : 0 < bound) (xs : List Sample) : ∃ events, offeredBy events = xs ∧
      takenBy events = [] ∧ b.Moves bound events (b.offerAll bound xs) := by
  induction xs generalizing b with
  | nil => exact ⟨[], rfl, rfl, .refl bound b⟩
  | cons x rest ih =>
      obtain ⟨event, hoffered, htaken, hfirst⟩ := exists_offer hlength hbound x
      have hnext : (b.offer bound x).queue.length ≤ (b.offer bound x).qos.history.capacity bound :=
        hfirst.qos.symm ▸ hfirst.run.length_le hlength
      obtain ⟨events, rfl, hnothing, hrest⟩ := ih hnext
      refine ⟨event :: events, ?_, ?_, hfirst.trans hrest⟩
      · rw [← List.singleton_append, offeredBy_append, offeredBy_singleton, hoffered]
        rfl
      · rw [← List.singleton_append, takenBy_append, takenBy_singleton, htaken, hnothing]
        rfl

/-- Taking the oldest sample is one event. -/
theorem take {x : Sample} {rest : List Sample} (hqueue : b.queue = x :: rest) :
    b.Moves bound [.taken x] { b with queue := rest } :=
  ⟨rfl, hqueue.symm ▸ .step .taken, by simp⟩

/-- What is taken of a new queue is among what is offered to it. -/
theorem order {qos : EndpointQos} (h : (⟨qos, [], false⟩ : Inbox).Moves bound events b) :
    (takenBy events).Sublist (offeredBy events) :=
  (List.sublist_append_left _ _).trans h.run.sublist

end Inbox.Moves

namespace State

/-! ## One operation and one inbox -/

/-- What an operation does to the inbox of a reader: the reader is gone or not there, its inbox is
offered samples, a sample is taken from it, or the reader is new. -/
inductive InboxStep (s s' : State) (r : Handle) (offered taken : List Sample) : Prop where
  | absent (hgone : s'.inbox r = none) (htaken : taken = [])
  | offered {b : Inbox} (hb : s.inbox r = some b) (htaken : taken = [])
      (hb' : s'.inbox r = some (b.offerAll s.maxSamples offered))
  | taken {b : Inbox} {x : Sample} {rest : List Sample} (hb : s.inbox r = some b)
      (hq : b.queue = x :: rest) (hoffered : offered = []) (htaken : taken = [x])
      (hb' : s'.inbox r = some { b with queue := rest })
  | born (qos : EndpointQos) (hnew : r = s.next) (htaken : taken = [])
      (hb' : s'.inbox r = some ((⟨qos, [], false⟩ : Inbox).offerAll s.maxSamples offered))

/-- An inbox that is not touched is offered nothing. -/
theorem InboxStep.same {s s' : State} {r : Handle} (hsame : s'.inbox r = s.inbox r) :
    InboxStep s s' r [] [] := by
  cases hb : s.inbox r with
  | none => exact .absent (hsame.trans hb) rfl
  | some b => exact .offered hb rfl (hsame.trans hb)

theorem InboxStep.map {s s' : State} {r : Handle} {xs : List Sample}
    (hmap : s'.inbox r = (s.inbox r).map fun b => b.offerAll s.maxSamples xs) :
    InboxStep s s' r xs [] := by
  cases hb : s.inbox r with
  | none => exact .absent (by rw [hmap, hb]; rfl) rfl
  | some b => exact .offered hb rfl (by rw [hmap, hb]; rfl)

theorem insert_inbox (s : State) (kind : EntityKind) (participant parent : Option Handle)
    (body : Body) (k : Handle) (hk : k ≠ s.next) :
    (s.insert kind participant parent body).2.inbox k = s.inbox k := by
  unfold inbox
  rw [insert_get?, if_neg hk]

theorem insert_history (s : State) (kind : EntityKind) (participant parent : Option Handle)
    (body : Body) (k : Handle) (hk : k ≠ s.next) :
    (s.insert kind participant parent body).2.history k = s.history k := by
  unfold history
  rw [insert_get?, if_neg hk]

section Joined

variable {s : State} {side : Side} {p g t r : Handle} {qos : EndpointQos}

/-- A new endpoint has kept nothing. -/
theorem withEndpoint_history (s : State) (side : Side) (p g t : Handle) (qos : EndpointQos) :
    (s.withEndpoint side p g t qos).history s.next = if side = .writer then some [] else none := by
  unfold withEndpoint history
  rw [insert_get?, if_pos rfl]
  cases side <;> rfl

theorem discover_history (s : State) (e w : Handle) : (s.discover e).history w = s.history w :=
  (agree_discover history_ignoresTraffic s e).history w

theorem discover_linked (s : State) (e k x : Handle) :
    (s.discover e).Linked k x ↔ s.Linked k x :=
  linked_congr (agree_discover profile_ignoresTraffic s e).look k x

theorem discover_keptFor (s : State) (e w r : Handle) :
    (s.discover e).keptFor w r = s.keptFor w r :=
  keptFor_congr (discover_history s e w) ((agree_discover profile_ignoresTraffic s e).look r)

/-- A new endpoint replays nothing to the readers that are there already. -/
theorem replayed_of_old (hm : s.Matching) (hwf : s.WellFormed)
    (hplaced : s.Placed s.next ⟨p, some g, side.endpoint t qos⟩) (hr : r ≠ s.next) :
    s.replayed ((s.withEndpoint side p g t qos).discover s.next) r = [] := by
  unfold replayed
  refine List.flatMap_eq_nil_iff.mpr fun w hw => ?_
  obtain ⟨hnow, hbefore⟩ := of_decide_eq_true (List.mem_filter.mp hw).2
  rw [(hm.joined hwf hplaced).mem_iff, discover_linked] at hnow
  by_cases hnew : w = s.next
  · subst hnew
    refine keptFor_of_history ?_ r
    rw [discover_history, withEndpoint_history]
    cases side
    · exact .inr rfl
    · exact .inl rfl
  · exact absurd ((hm.mem_iff r w).mpr ((hwf.linked_insert hr hnew).mp hnow)) hbefore

theorem peersOf_eq_filter (s : State) (e : Handle) :
    ∃ p : Handle → Bool, s.peersOf e = s.entities.keys.filter p := by
  unfold peersOf
  split
  · exact ⟨_, rfl⟩
  · exact ⟨fun _ => false, (List.filter_eq_nil_iff.mpr fun _ _ => by simp).symm⟩

/-- The peers of an endpoint that are among some of its peers, in the order of the table. -/
theorem filter_peersOf {s : State} {e : Handle} {linked : List Handle}
    (hsub : ∀ w ∈ linked, w ∈ s.peersOf e) :
    (s.peersOf e).filter (· ∈ linked) = s.entities.keys.filter (· ∈ linked) := by
  obtain ⟨met, hmet⟩ := peersOf_eq_filter s e
  rw [hmet, List.filter_filter]
  refine List.filter_congr fun w hw => ?_
  by_cases hin : w ∈ linked
  · have hpeer := hsub w hin
    rw [hmet, List.mem_filter] at hpeer
    simp [hin, hpeer.2]
  · simp [hin]

/-- What the meetings of a new reader put into the inboxes. -/
theorem newReader_meets (hm : s.Matching) (hwf : s.WellFormed)
    (hplaced : s.Placed s.next ⟨p, some g, Side.reader.endpoint t qos⟩) (k : Handle) :
    ((s.withEndpoint .reader p g t qos).discover s.next).inbox k =
      if k = s.next then
        ((s.withEndpoint .reader p g t qos).inbox k).map fun b => b.offerAll s.maxSamples
          (s.replayed ((s.withEndpoint .reader p g t qos).discover s.next) s.next)
      else (s.withEndpoint .reader p g t qos).inbox k := by
  have hwf₁ := hwf.withEndpoint hplaced
  have hm' := hm.joined hwf hplaced
  obtain ⟨site, hat⟩ := hwf.newEndpointAt hplaced
  have hlinked : ∀ f, f ∈ ((s.withEndpoint .reader p g t qos).discover s.next).matchedWith s.next ↔
      (s.withEndpoint .reader p g t qos).Linked s.next f := by
    intro f
    rw [hm'.mem_iff, discover_linked]
  have hnone : s.matchedWith s.next = [] := by
    refine List.eq_nil_iff_forall_not_mem.mpr fun k hk => ?_
    exact (((hm.mem_iff _ k).mp hk).ne_fresh hwf).1 rfl
  -- the reader itself comes last in the table and is no peer of its own
  have hkeys : (s.withEndpoint .reader p g t qos).entities.keys.filter
        (· ∈ ((s.withEndpoint .reader p g t qos).discover s.next).matchedWith s.next) =
      s.entities.keys.filter
        (· ∈ ((s.withEndpoint .reader p g t qos).discover s.next).matchedWith s.next) := by
    have hself : s.next ∉
        ((s.withEndpoint .reader p g t qos).discover s.next).matchedWith s.next := fun h =>
      ((hlinked s.next).mp h).irrefl
    have hlast : (s.withEndpoint .reader p g t qos).entities.keys = s.entities.keys ++ [s.next] :=
      hwf.insert_keys ..
    rw [hlast, List.filter_append]
    simpa using hself
  -- the peers that are new for the reader are all of them
  have hreplayed : s.replayed ((s.withEndpoint .reader p g t qos).discover s.next) s.next =
      (((s.withEndpoint .reader p g t qos).peersOf s.next).filter
        (· ∈ ((s.withEndpoint .reader p g t qos).discover s.next).matchedWith s.next)).flatMap
          fun f => (s.withEndpoint .reader p g t qos).keptFor f s.next := by
    rw [filter_peersOf fun w hw => Linked.mem_peersOf hwf₁ ((hlinked w).mp hw) hat, hkeys]
    unfold replayed
    simp only [hnone, discover_keptFor, List.not_mem_nil, not_false_eq_true, and_true]
  rw [hreplayed]
  exact meetAll_inbox_reader hat _ (fun f hf => (mem_peersOf_iff hwf₁ hat).mp hf)
    (fun f _ => hlinked f) k

/-- A new writer meets readers without offering them anything. -/
theorem newWriter_meets (hwf : s.WellFormed)
    (hplaced : s.Placed s.next ⟨p, some g, Side.writer.endpoint t qos⟩) (k : Handle) :
    ((s.withEndpoint .writer p g t qos).discover s.next).inbox k =
      (s.withEndpoint .writer p g t qos).inbox k := by
  obtain ⟨site, hat⟩ := hwf.newEndpointAt hplaced
  exact meetAll_inbox_writer hat (withEndpoint_history s .writer p g t qos) _ k

/-- The inbox of a new endpoint is empty, and there is none if it is a writer. -/
theorem withEndpoint_inbox (s : State) (side : Side) (p g t : Handle) (qos : EndpointQos) :
    (s.withEndpoint side p g t qos).inbox s.next =
      if side = .reader then some ⟨qos, [], false⟩ else none := by
  unfold withEndpoint inbox
  rw [insert_get?, if_pos rfl]
  cases side
  · rfl
  · simp [Record.inbox, Side.newBody]

/-- What a new endpoint does to the inbox of a reader. -/
theorem joined_inboxStep (hm : s.Matching) (hwf : s.WellFormed)
    (hplaced : s.Placed s.next ⟨p, some g, side.endpoint t qos⟩) (r : Handle) :
    InboxStep s ((s.withEndpoint side p g t qos).discover s.next) r
      (s.replayed ((s.withEndpoint side p g t qos).discover s.next) r) [] := by
  by_cases hr : r = s.next
  · subst hr
    cases side with
    | writer =>
        refine .absent ?_ rfl
        rw [newWriter_meets hwf hplaced, withEndpoint_inbox]
        rfl
    | reader =>
        refine .born qos rfl rfl ?_
        rw [newReader_meets hm hwf hplaced, if_pos rfl, withEndpoint_inbox]
        rfl
  · rw [replayed_of_old hm hwf hplaced hr]
    have hkept : (s.withEndpoint side p g t qos).inbox r = s.inbox r :=
      insert_inbox s side.kind (some p) (some g) (side.newBody t qos) r hr
    refine .same ?_
    cases side with
    | writer => rw [newWriter_meets hwf hplaced, hkept]
    | reader => rw [newReader_meets hm hwf hplaced, if_neg hr, hkept]

end Joined

/-- A survivor of a clean-up has no peer left if all its peers are gone. -/
theorem deleteAll_matchedWith_eq_nil_iff {s : State} (hm : s.Matching) {doomed : List Handle}
    {r : Handle} (hstays : r ∉ doomed) :
    (s.deleteAll doomed).matchedWith r = [] ↔ ∀ g ∈ s.matchedWith r, g ∈ doomed := by
  rw [deleteAll_matchedWith, if_neg hstays, List.filter_eq_nil_iff]
  constructor
  · intro h g hg
    have hgone := h g hg
    simp only [decide_eq_true_eq, Decidable.not_not] at hgone
    exact hgone.1
  · intro h g hg
    simp only [decide_eq_true_eq, Decidable.not_not]
    exact ⟨h g hg, hm.symm hg⟩

theorem contained_nodup (s : State) (p : Handle) : (s.contained p).Nodup :=
  s.entities.distinct.filter _

/-- What a clean-up does to the inbox of a reader. -/
theorem cleared_inboxStep {s : State} (hm : s.Matching) (p r : Handle) :
    InboxStep s (s.deleteAll (s.contained p)) r
      (s.offers (s.deleteAll (s.contained p)) r (.deleteContained p) .done) [] := by
  have hinbox := deleteAll_inbox hm (s.contained_nodup p) r
  by_cases hgone : r ∈ s.contained p
  · exact .absent (by rw [hinbox, if_pos hgone]) rfl
  · rw [if_neg hgone] at hinbox
    have hmatched := deleteAll_matchedWith_eq_nil_iff hm hgone
    refine .map ?_
    rw [offers_deleteContained, hinbox]
    by_cases hlast : s.matchedWith r ≠ [] ∧ ∀ g ∈ s.matchedWith r, g ∈ s.contained p
    · rw [if_pos hlast]
      cases hx : (s.deleteAll (s.contained p)).reader? r with
      | some x =>
          rw [if_pos ⟨hlast.1, hmatched.mpr hlast.2, rfl⟩]
          rfl
      | none =>
          have hbox := inbox_of_reader?_none hx
          rw [hinbox, if_pos hlast, Option.map_eq_none_iff] at hbox
          rw [hbox]
          rfl
    · rw [if_neg hlast, if_neg fun h => hlast ⟨h.1, hmatched.mp h.2.1⟩]
      simp [Inbox.offerAll]

/-- What one operation does to the inbox of a reader. -/
theorem Evolves.inboxStep {s s' : State} {operation : Operation} {reply : Reply}
    (hm : s.Matching) (hwf : s.WellFormed) (hstep : s.Evolves operation (reply, s')) (r : Handle) :
    InboxStep s s' r (s.offers s' r operation reply) (takes r operation reply) := by
  cases hstep with
  | quiet hquiet hagree =>
      obtain ⟨hoffers, htakes, -⟩ := unnoted_of_quiet s s' r r reply hquiet
      rw [hoffers, htakes]
      exact .same ((hagree.of_core Record.inbox_core).inbox r)
  | @wrote w payload s' hok =>
      refine .map ?_
      rw [write_inbox hm hok, offers_write]
      -- the sample goes to the readers that match the writer, and to no other
      by_cases hr : r ∈ s.matchedWith w
      · rw [if_pos hr, if_pos hr]
        rfl
      · rw [if_neg hr, if_neg hr]
        simp [Inbox.offerAll]
  | took r' =>
      rw [offers_take]
      rcases take_inbox s r' with ⟨b, x, rest, hb, hq, hreply, hinbox⟩ | ⟨code, hreply, hinbox⟩
      · rw [hreply]
        by_cases hr : r' = r
        · subst hr
          exact .taken hb hq rfl (if_pos rfl) ((hinbox r').trans (if_pos rfl))
        · have htakes : takes r (.take r') (.of .sample (.ok x)) = [] := if_neg hr
          rw [htakes]
          exact .same ((hinbox r).trans (if_neg fun h => hr h.symm))
      · rw [hreply]
        exact .same (hinbox r)
  | @created _ participant parent body hquiet hside hplaced =>
      obtain ⟨hoffers, htakes, -⟩ := unnoted_of_quiet s
        (s.insert body.kind participant parent body).2 r r (.entity s.next) (.inl hquiet)
      rw [hoffers, htakes]
      by_cases hr : r = s.next
      · refine .absent ?_ rfl
        unfold inbox
        rw [insert_get?, if_pos hr]
        -- readers are not made this way, and nothing else has an inbox
        cases body with
        | reader x => exact absurd rfl (hside .reader x.topic x.qos)
        | _ => rfl
      · exact .same (insert_inbox s body.kind participant parent body r hr)
  | @joined side p g t qos hplaced =>
      rw [offers_create, takes_create]
      exact joined_inboxStep hm hwf hplaced r
  | @cleared p d hp => exact cleared_inboxStep hm p r
  | @released p d s' hp hempty hagree =>
      have hinbox : s'.inbox r = if r ∈ [p] then none else s.inbox r := by
        rw [(hagree.of_core Record.inbox_core).inbox]
        exact foldl_remove_inbox s [p] r
      by_cases hr : r ∈ [p]
      · exact .absent (hinbox.trans (if_pos hr)) rfl
      · exact .same (hinbox.trans (if_neg hr))

/-- A reader that is not there after an operation was not offered anything by it. -/
theorem Evolves.offers_of_absent {s s' : State} {operation : Operation} {reply : Reply}
    (hm : s.Matching) (hwf : s.WellFormed) (hstep : s.Evolves operation (reply, s')) {r : Handle}
    (hgone : s'.inbox r = none) : s.offers s' r operation reply = [] := by
  have hreader : s'.reader? r = none := by
    cases hx : s'.reader? r with
    | none => rfl
    | some x =>
        obtain ⟨_, hbox⟩ := inbox_of_reader? hx
        cases hgone.symm.trans hbox
  have hreplayed : s.replayed s' r = [] := by
    refine List.flatMap_eq_nil_iff.mpr fun w _ => ?_
    unfold keptFor
    rw [hreader]
    split
    · rename_i hnone
      cases hnone
    · rfl
  cases hstep with
  | quiet hquiet => exact (unnoted_of_quiet s s' r r reply hquiet).1
  | @wrote w payload _ hok =>
      -- a write goes to matched readers, and deletes none of them
      refine (offers_write s s' r w payload).trans (if_neg fun hmatched => ?_)
      obtain ⟨x, hx, -⟩ := write_eq_ok hok
      have hinbox := write_inbox hm hok r
      rw [hgone, if_pos hmatched] at hinbox
      rw [matchedWith_of_writer? hx] at hmatched
      obtain ⟨-, y, hy⟩ := hm.reader_of_matched hwf hx hmatched
      obtain ⟨_, hbox⟩ := inbox_of_reader? hy
      rw [hbox] at hinbox
      cases hinbox
  | took r' => exact offers_take ..
  | created hquiet => exact (unnoted_of_quiet _ _ r r _ (.inl hquiet)).1
  | joined => exact (offers_create ..).trans hreplayed
  | cleared =>
      refine (offers_deleteContained ..).trans (if_neg fun h => ?_)
      rw [hreader] at h
      cases h.2.2
  | released => rfl

/-! ## One operation and the law of queues -/

/-- The events that an operation is to the queue of a reader, which tell of the samples that it
offers and takes: none if the reader is not there afterwards, and else those that lead from the
queue before the operation to the queue after it. The queue of a new reader is empty at first. -/
inductive QueueMoves (s s' : State) (r : Handle) (offered taken : List Sample) :
    List QueueEvent → Prop where
  | absent (hgone : s'.inbox r = none) (hoffered : offered = []) (htaken : taken = []) :
    QueueMoves s s' r offered taken []
  | moved {b b' : Inbox} {events : List QueueEvent} (hb : s.inbox r = some b)
      (hb' : s'.inbox r = some b') (hmoves : b.Moves s.maxSamples events b')
      (hoffered : offeredBy events = offered) (htaken : takenBy events = taken) :
    QueueMoves s s' r offered taken events
  | born {qos : EndpointQos} {b' : Inbox} {events : List QueueEvent} (hnew : r = s.next)
      (hb' : s'.inbox r = some b')
      (hmoves : (⟨qos, [], false⟩ : Inbox).Moves s.maxSamples events b')
      (hoffered : offeredBy events = offered) (htaken : takenBy events = taken) :
    QueueMoves s s' r offered taken events

theorem QueueMoves.offeredBy_eq {s s' : State} {r : Handle} {offered taken : List Sample}
    {events : List QueueEvent} (h : QueueMoves s s' r offered taken events) :
    offeredBy events = offered := by
  cases h with
  | absent _ hoffered => exact hoffered.symm
  | moved _ _ _ hoffered => exact hoffered
  | born _ _ _ hoffered => exact hoffered

theorem QueueMoves.takenBy_eq {s s' : State} {r : Handle} {offered taken : List Sample}
    {events : List QueueEvent} (h : QueueMoves s s' r offered taken events) :
    takenBy events = taken := by
  cases h with
  | absent _ _ htaken => exact htaken.symm
  | moved _ _ _ _ htaken => exact htaken
  | born _ _ _ _ htaken => exact htaken

/-- What an operation does to an inbox goes by the law, if the queue is not longer than it may be. -/
theorem InboxStep.exists_queueMoves {s s' : State} {r : Handle} {offered taken : List Sample}
    (h : InboxStep s s' r offered taken) (hbound : 0 < s.maxSamples)
    (hlength : ∀ b, s.inbox r = some b → b.queue.length ≤ b.qos.history.capacity s.maxSamples)
    (habsent : s'.inbox r = none → offered = []) :
    ∃ events, QueueMoves s s' r offered taken events := by
  cases h with
  | absent hgone htaken => exact ⟨_, .absent hgone (habsent hgone) htaken⟩
  | offered hb htaken hb' =>
      obtain ⟨events, hoffered, hnothing, hmoves⟩ :=
        Inbox.Moves.exists_offerAll (hlength _ hb) hbound offered
      exact ⟨events, .moved hb hb' hmoves hoffered (hnothing.trans htaken.symm)⟩
  | taken hb hqueue hoffered htaken hb' =>
      exact ⟨_, .moved hb hb' (.take hqueue) hoffered.symm htaken.symm⟩
  | born qos hnew htaken hb' =>
      obtain ⟨events, hoffered, hnothing, hmoves⟩ :=
        Inbox.Moves.exists_offerAll (b := ⟨qos, [], false⟩) (Nat.zero_le _) hbound offered
      exact ⟨events, .born hnew hb' hmoves hoffered (hnothing.trans htaken.symm)⟩

/-- The events that a run is to the queue of a reader, one list of them for each operation. -/
inductive QueueLog (isFile : String → Bool) (r : Handle) :
    State → List Operation → List (List QueueEvent) → Prop where
  | nil (s : State) : QueueLog isFile r s [] []
  | cons {s s' : State} {operation : Operation} {reply : Reply} {rest : List Operation}
      {events : List QueueEvent} {log : List (List QueueEvent)}
      (hperform : s.perform isFile operation = (reply, s'))
      (hmoves : QueueMoves s s' r (s.offers s' r operation reply) (takes r operation reply) events)
      (later : QueueLog isFile r s' rest log) :
    QueueLog isFile r s (operation :: rest) (events :: log)

namespace QueueLog

variable {isFile : String → Bool} {r : Handle} {s : State} {operations : List Operation}
  {log : List (List QueueEvent)}

/-- The events of a run tell of all samples that were offered. -/
theorem offeredBy_eq (h : QueueLog isFile r s operations log) :
    offeredBy log.flatten = offeredTo isFile r s operations := by
  induction h with
  | nil => rfl
  | cons hperform hmoves _ ih =>
      rw [List.flatten_cons, offeredBy_append, ih, hmoves.offeredBy_eq, offeredTo, trace, hperform]

/-- The events of a run tell of all samples that were taken. -/
theorem takenBy_eq (h : QueueLog isFile r s operations log) :
    takenBy log.flatten = takenFrom isFile r s operations := by
  induction h with
  | nil => rfl
  | cons hperform hmoves _ ih =>
      rw [List.flatten_cons, takenBy_append, ih, hmoves.takenBy_eq, takenFrom, trace, hperform]

end QueueLog

end State

end DdsBridge.Provider
