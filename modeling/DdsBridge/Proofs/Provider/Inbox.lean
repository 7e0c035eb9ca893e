import DdsBridge.Proofs.Provider.Matching
import DdsBridge.Proofs.Provider.Queue
import DdsBridge.Proofs.Status

/-!
# What an operation puts into a reader's queue

The part of a reader that delivery is about is its inbox: its policies, its queue, and whether it
ever refused a sample. Each update of the provider is described by what it does to every inbox.

* **`Inbox`**, **`State.inbox`** — that part of a reader.
* **`offer_inbox`**, **`write_inbox`**, **`take_inbox`** — samples that come and go.
* **`connect_inbox`**, **`meetAll_inbox`** — a meeting replays what the writer has kept.
* **`deleteAll_inbox`** — a clean-up gives one notice to a reader that loses its last writer.
-/

namespace DdsBridge.Provider

/-- The policies and the queue of a reader, and whether it has the status of a refusal. -/
structure Inbox where
  qos : EndpointQos
  queue : List Sample
  rejected : Bool
  deriving DecidableEq

/-- An inbox after a sample was offered to it. -/
def Inbox.offer (bound : Nat) (b : Inbox) (x : Sample) : Inbox :=
  match State.enqueue b.qos.history bound b.queue x with
  | none => { b with rejected := true }
  | some queue => { b with queue }

/-- An inbox after samples were offered to it, one after the other. -/
def Inbox.offerAll (bound : Nat) (b : Inbox) (xs : List Sample) : Inbox :=
  xs.foldl (Inbox.offer bound) b

theorem Inbox.offerAll_append (bound : Nat) (b : Inbox) (xs ys : List Sample) :
    b.offerAll bound (xs ++ ys) = (b.offerAll bound xs).offerAll bound ys :=
  List.foldl_append

/-- The inbox of a reader. -/
def Record.inbox (r : Record) : Option Inbox :=
  match r.body with
  | .reader x => some ⟨x.qos, x.queue, r.raised.contains .sampleRejected⟩
  | _ => none

/-- What a writer has kept. -/
def Record.history (r : Record) : Option (List (List UInt8)) :=
  match r.body with
  | .writer w => some w.history
  | _ => none

@[simp] theorem Record.inbox_core (r : Record) : r.core.inbox = r.inbox := by
  obtain ⟨_, _, _, _, _, _, body⟩ := r
  cases body <;> rfl

@[simp] theorem Record.history_core (r : Record) : r.core.history = r.history := by
  obtain ⟨_, _, _, _, _, _, body⟩ := r
  cases body <;> rfl

namespace State

/-- The inbox of a live reader. -/
def inbox (s : State) (h : Handle) : Option Inbox := (s.entities.get? h).bind Record.inbox

/-- What a live writer has kept. -/
def history (s : State) (h : Handle) : Option (List (List UInt8)) :=
  (s.entities.get? h).bind Record.history

theorem Agree.bind {β : Type} {view : Record → Option β} {s s' : State} (ha : Agree view s s')
    (h : Handle) : (s'.entities.get? h).bind view = (s.entities.get? h).bind view := by
  have hlook := congrArg (fun o => o.bind id) (ha.look h)
  simpa only [Option.bind_map, Function.id_comp] using hlook

theorem Agree.inbox {s s' : State} (ha : Agree Record.inbox s s') (h : Handle) :
    s'.inbox h = s.inbox h := ha.bind h

theorem Agree.history {s s' : State} (ha : Agree Record.history s s') (h : Handle) :
    s'.history h = s.history h := ha.bind h

theorem inbox_eq_some_iff {s : State} {h : Handle} {b : Inbox} :
    s.inbox h = some b ↔ ∃ r x, s.entities.get? h = some r ∧ r.body = .reader x ∧
      b = ⟨x.qos, x.queue, r.raised.contains .sampleRejected⟩ := by
  unfold inbox
  cases hr : s.entities.get? h with
  | none => simp
  | some r =>
      obtain ⟨_, _, _, _, _, _, body⟩ := r
      cases body <;> simp [Record.inbox, eq_comm]

theorem inbox_of_reader? {s : State} {h : Handle} {x : Reader} (hx : s.reader? h = some x) :
    ∃ rejected, s.inbox h = some ⟨x.qos, x.queue, rejected⟩ := by
  obtain ⟨r, hr, hb⟩ := reader?_eq_some_iff.mp hx
  exact ⟨_, inbox_eq_some_iff.mpr ⟨r, x, hr, hb, rfl⟩⟩

theorem inbox_of_reader?_none {s : State} {h : Handle} (hx : s.reader? h = none) :
    s.inbox h = none := by
  cases hb : s.inbox h with
  | none => rfl
  | some b =>
      obtain ⟨r, x, hr, hbody, -⟩ := inbox_eq_some_iff.mp hb
      rw [reader?_eq_some_iff.mpr ⟨r, hr, hbody⟩] at hx
      exact absurd hx (by simp)

/-! ## Updates that leave the inboxes alone -/

theorem inbox_ignoresStatus {kind : StatusKind} (hkind : kind ≠ .sampleRejected) :
    IgnoresStatus Record.inbox kind := by
  intro r
  obtain ⟨_, _, _, _, _, _, body⟩ := r
  cases body <;> simp [Record.inbox, StatusMask.contains_remove_of_ne _ hkind, hkind]

theorem inbox_ignoresData : IgnoresData Record.inbox :=
  ⟨inbox_ignoresStatus (by simp), inbox_ignoresStatus (by simp)⟩

theorem history_ignoresTraffic : IgnoresTraffic Record.history := by
  refine ⟨fun _ _ => ⟨rfl, rfl⟩, fun r x _ hx => ?_, fun r w _ hw => ?_, fun r x _ hx => ?_⟩
  · simp [Record.history, hx]
  · simp [Record.history, hw]
  · simp [Record.history, hx]

theorem raise_inbox {kind : StatusKind} (hkind : kind ≠ .sampleRejected) (s : State)
    (h k : Handle) : (s.raise h kind).inbox k = s.inbox k :=
  (agree_raise (inbox_ignoresStatus hkind) s h).inbox k

theorem modifyWriter_inbox (s : State) (h k : Handle) (f : Writer → Writer) :
    (s.modifyWriter h f).inbox k = s.inbox k := by
  refine Agree.inbox (agree_modifyWriter s h fun r w hw => ?_) k
  simp [Record.inbox, hw]

theorem setMatched_inbox (s : State) (h k : Handle) (f : Reader → List Handle) :
    (s.modifyReader h fun x => { x with matched := f x }).inbox k = s.inbox k := by
  refine Agree.inbox (agree_modifyReader s h fun r x hx => ?_) k
  simp [Record.inbox, hx]

/-! ## Updates of one inbox -/

theorem modifyEntity_inbox (s : State) (h k : Handle) (f : Record → Record) :
    (s.modifyEntity h f).inbox k =
      if k = h then (s.entities.get? k).bind fun r => (f r).inbox else s.inbox k := by
  unfold inbox
  rw [modifyEntity_get?]
  split
  · rw [Option.bind_map]
    rfl
  · rfl

theorem setQueue_inbox (s : State) (h k : Handle) (queue : List Sample) :
    (s.modifyReader h fun x => { x with queue }).inbox k =
      if k = h then (s.inbox k).map fun b => { b with queue } else s.inbox k := by
  unfold modifyReader
  rw [modifyEntity_inbox]
  split
  · unfold inbox
    cases hr : s.entities.get? k with
    | none => rfl
    | some r =>
        obtain ⟨_, _, _, _, _, _, body⟩ := r
        cases body <;> rfl
  · rfl

theorem reject_inbox (s : State) (h k : Handle) :
    (s.raise h .sampleRejected).inbox k =
      if k = h then (s.inbox k).map fun b => { b with rejected := true } else s.inbox k := by
  unfold inbox
  rw [raise_get?]
  split
  · cases hr : s.entities.get? k with
    | none => rfl
    | some r =>
        obtain ⟨_, _, _, _, _, _, body⟩ := r
        cases body <;> simp [Record.inbox]
  · rfl

/-- Offering a sample to a reader changes its inbox only. -/
theorem offer_inbox (s : State) (h k : Handle) (x : Sample) :
    (s.offer h x).inbox k =
      if k = h then (s.inbox k).map fun b => b.offer s.maxSamples x else s.inbox k := by
  unfold offer
  cases hr : s.reader? h with
  | none =>
      dsimp only
      split
      · rename_i hk
        rw [hk, inbox_of_reader?_none hr]
        rfl
      · rfl
  | some r =>
      obtain ⟨rejected, hbox⟩ := inbox_of_reader? hr
      dsimp only
      cases hq : enqueue r.qos.history s.maxSamples r.queue x with
      | none =>
          -- without room the sample is counted as rejected
          dsimp only
          rw [reject_inbox]
          split
          · rename_i hk
            simp [hk, hbox, Inbox.offer, hq]
          · rfl
      | some queue =>
          dsimp only
          rw [(agree_announce inbox_ignoresData _ h).inbox, setQueue_inbox]
          split
          · rename_i hk
            simp [hk, hbox, Inbox.offer, hq]
          · rfl

@[simp] theorem offer_maxSamples (s : State) (h : Handle) (x : Sample) :
    (s.offer h x).maxSamples = s.maxSamples :=
  (agree_offer outline_ignoresRaised outline_ignoresQueue s h x).maxSamples_eq

theorem offerAll_inbox (s : State) (h k : Handle) (xs : List Sample) :
    (s.offerAll h xs).inbox k =
      if k = h then (s.inbox k).map fun b => b.offerAll s.maxSamples xs else s.inbox k := by
  unfold offerAll
  induction xs generalizing s with
  | nil => split <;> simp [Inbox.offerAll]
  | cons x rest ih =>
      rw [List.foldl_cons, ih, offer_inbox, offer_maxSamples]
      split
      · rw [Option.map_map]
        rfl
      · rfl

/-! ## Writing and taking -/

/-- A payload goes once to each of a list of distinct readers. -/
theorem foldl_offer_inbox (s : State) (x : Sample) {readers : List Handle}
    (hnodup : readers.Nodup) (k : Handle) :
    (readers.foldl (fun s r => s.offer r x) s).inbox k =
      if k ∈ readers then (s.inbox k).map fun b => b.offer s.maxSamples x else s.inbox k := by
  induction readers generalizing s with
  | nil => simp
  | cons r rest ih =>
      obtain ⟨hr, hrest⟩ := List.nodup_cons.mp hnodup
      rw [List.foldl_cons, ih (s.offer r x) hrest, offer_inbox, offer_maxSamples]
      by_cases hk : k = r
      · subst hk
        simp [hr]
      · simp [hk]

/-- A successful write offers one sample to each matched reader. -/
theorem write_inbox {s s' : State} {w : Handle} {payload : List UInt8}
    (hm : s.Matching) (hok : s.write w payload = (.ok (), s')) (k : Handle) :
    s'.inbox k =
      if k ∈ s.matchedWith w then
        (s.inbox k).map fun b => b.offer s.maxSamples ⟨payload, .valid w⟩
      else s.inbox k := by
  obtain ⟨x, hx, rfl⟩ := write_eq_ok hok
  have hmatched := matchedWith_of_writer? hx
  rw [foldl_offer_inbox _ _ (hmatched ▸ (hm.ascending w).nodup), modifyWriter_inbox, hmatched]
  rfl

theorem settleReader_inbox (s : State) (r k : Handle) :
    (s.settleReader r).inbox k = s.inbox k := (agree_settleReader inbox_ignoresData s r).inbox k

/-- What taking does to the inboxes: the oldest sample leaves the queue of the reader asked, if
there is one. -/
theorem take_inbox (s : State) (r : Handle) :
    (∃ b x rest, s.inbox r = some b ∧ b.queue = x :: rest ∧ (s.take r).1 = .ok x ∧
      ∀ k, (s.take r).2.inbox k = if k = r then some { b with queue := rest } else s.inbox k) ∨
    (∃ code, (s.take r).1 = .error code ∧ ∀ k, (s.take r).2.inbox k = s.inbox k) := by
  unfold take proceed
  cases hget : s.get r .reader with
  | error code => exact .inr ⟨code, rfl, fun _ => rfl⟩
  | ok _ =>
      dsimp only
      cases hx : s.reader? r with
      | none => exact .inr ⟨_, rfl, fun _ => rfl⟩
      | some x =>
          obtain ⟨rejected, hbox⟩ := inbox_of_reader? hx
          dsimp only
          cases hq : x.queue with
          | nil => exact .inr ⟨_, rfl, settleReader_inbox s r⟩
          | cons y rest =>
              refine .inl ⟨_, y, rest, hbox, hq, rfl, fun k => ?_⟩
              have hpop : (s.modifyReader r fun r => { r with queue := rest }).inbox k =
                  if k = r then some ⟨x.qos, rest, rejected⟩ else s.inbox k := by
                rw [setQueue_inbox]
                split
                · rename_i hk
                  rw [hk, hbox]
                  rfl
                · rfl
              dsimp only [succeed]
              split
              · rw [settleReader_inbox, hpop]
              · exact hpop

/-! ## A meeting -/

/-- The samples that a writer has kept and that a reader asks for. -/
def keptFor (s : State) (w r : Handle) : List Sample :=
  match s.writer? w, s.reader? r with
  | some x, some y => (replay x y.qos).map fun payload => ⟨payload, .valid w⟩
  | _, _ => []

/-- A match replays to the reader what the writer has kept for it. -/
theorem connect_inbox {s : State} {w r : Handle} (hjoin : s.Joins w r) (k : Handle) :
    (s.connect w r).inbox k =
      if k = r then (s.inbox k).map fun b => b.offerAll s.maxSamples (s.keptFor w r)
      else s.inbox k := by
  obtain ⟨hshare, x, y, hw, hr, hqos⟩ := hjoin
  simp only [connect, hshare, Bool.not_true, Bool.false_eq_true, if_false, hw, hr, hqos]
  rw [offerAll_inbox, raise_inbox (by simp), raise_inbox (by simp), setMatched_inbox,
    modifyWriter_inbox]
  simp only [keptFor, hw, hr, raise_maxSamples]
  rfl

theorem connect_inbox_of_not {s : State} {w r : Handle} (hjoin : ¬s.Joins w r) (k : Handle) :
    (s.connect w r).inbox k = s.inbox k := by
  unfold connect
  split
  · rfl
  · rename_i hshare
    split
    · rename_i x y hw hr
      split
      · rw [raise_inbox (by simp), raise_inbox (by simp)]
      · rename_i hqos
        exact absurd ⟨by simpa using hshare, x, y, hw, hr, hqos⟩ hjoin
    · rfl

theorem history_eq (s : State) (w : Handle) : s.history w = (s.writer? w).map Writer.history := by
  unfold history writer?
  cases hr : s.entities.get? w with
  | none => rfl
  | some r =>
      obtain ⟨_, _, _, _, _, _, body⟩ := r
      cases body <;> rfl

theorem readerQos_congr {s s' : State} {r : Handle} (h : s'.profile r = s.profile r) :
    (s'.reader? r).map Reader.qos = (s.reader? r).map Reader.qos := by
  have hrole : ∀ s : State, (s.reader? r).map Reader.qos =
      (s.profile r).bind fun p => match p.role with
        | .reader _ qos => some qos
        | _ => none := by
    intro s
    unfold reader? State.profile
    cases s.entities.get? r with
    | none => rfl
    | some rec =>
        obtain ⟨_, _, _, _, _, _, body⟩ := rec
        cases body <;> rfl
  rw [hrole, hrole, h]

/-- What is replayed depends on what the writer has kept and on what the reader requests. -/
theorem keptFor_congr {s s' : State} {w r : Handle} (hw : s'.history w = s.history w)
    (hr : s'.profile r = s.profile r) : s'.keptFor w r = s.keptFor w r := by
  rw [history_eq, history_eq] at hw
  have hqos := readerQos_congr hr
  unfold keptFor
  cases hx' : s'.writer? w <;> cases hx : s.writer? w <;>
    cases hy' : s'.reader? r <;> cases hy : s.reader? r <;>
    simp_all [replay]

/-- A writer that has kept nothing replays nothing. -/
theorem keptFor_of_history {s : State} {w : Handle}
    (hw : s.history w = none ∨ s.history w = some []) (r : Handle) : s.keptFor w r = [] := by
  rw [history_eq] at hw
  unfold keptFor
  cases hx : s.writer? w with
  | none => rfl
  | some x =>
      have hnil : x.history = [] := by simpa [hx] using hw
      cases s.reader? r with
      | none => rfl
      | some y => simp [replay, hnil]

theorem EndpointAt.writer?_eq_none {s : State} {h : Handle} {site : Site}
    (hat : s.EndpointAt .reader h site) : s.writer? h = none := by
  obtain ⟨r, _, _, _, hr, -, -, hrole, -⟩ := hat.record
  unfold writer?
  cases hb : r.body <;> simp_all [Body.role, Side.endpoint]

/-- A new reader is offered what each writer that it is linked with has kept, one after the
other. -/
theorem meetAll_inbox_reader {s : State} {e : Handle} {site : Site}
    (hat : s.EndpointAt .reader e site) (linked : List Handle) {peers : List Handle}
    (hpeers : ∀ f ∈ peers, ∃ other, s.EndpointAt .writer f other ∧ other.key = site.key)
    (hlinked : ∀ f ∈ peers, f ∈ linked ↔ s.Linked e f) (k : Handle) :
    (s.meetAll e peers).inbox k =
      if k = e then
        (s.inbox k).map fun b => b.offerAll s.maxSamples
          ((peers.filter (· ∈ linked)).flatMap fun f => s.keptFor f e)
      else s.inbox k := by
  unfold meetAll
  induction peers generalizing s with
  | nil => split <;> simp [Inbox.offerAll]
  | cons f rest ih =>
      obtain ⟨other, hpeer, hkey⟩ := hpeers f List.mem_cons_self
      have hagree := agree_meet profile_ignoresTraffic s e f
      have hkeep : ∀ k p, s.profile k = some p → (s.meet e f).profile k = some p :=
        fun k p hk => (hagree.look k).trans hk
      have hrest : ∀ g ∈ rest, ∃ other,
          (s.meet e f).EndpointAt .writer g other ∧ other.key = site.key := by
        intro g hg
        obtain ⟨other, hg, hkey⟩ := hpeers g (List.mem_cons_of_mem _ hg)
        exact ⟨other, hg.mono hkeep, hkey⟩
      have hrestLinked : ∀ g ∈ rest, g ∈ linked ↔ (s.meet e f).Linked e g := by
        intro g hg
        rw [linked_congr hagree.look]
        exact hlinked g (List.mem_cons_of_mem _ hg)
      have hkept : ∀ g, (s.meet e f).keptFor g e = s.keptFor g e := fun g =>
        keptFor_congr ((agree_meet history_ignoresTraffic s e f).history g) (hagree.look e)
      have hmeet : s.meet e f = s.connect f e := by
        unfold meet
        rw [hat.writer?_eq_none]
      -- whether two are joined is decided by their profiles, which no meeting changes
      have hjoin : s.Joins f e ↔ f ∈ linked := by
        rw [joins_iff_serves hpeer hat hkey.symm, ← compatible_iff hpeer hat,
          ← linked_iff_of_reader hat, hlinked f List.mem_cons_self]
      rw [List.foldl_cons, ih (hat.mono hkeep) hrest hrestLinked, hagree.maxSamples_eq]
      simp only [hkept]
      rw [hmeet]
      by_cases hf : f ∈ linked
      · rw [connect_inbox (hjoin.mpr hf), List.filter_cons_of_pos (by simpa using hf),
          List.flatMap_cons]
        split
        · simp only [Option.map_map, Function.comp_def, Inbox.offerAll_append]
        · rfl
      · rw [connect_inbox_of_not fun h => hf (hjoin.mp h),
          List.filter_cons_of_neg (by simpa using hf)]

/-- A new writer has kept nothing, so no reader is offered anything. -/
theorem meetAll_inbox_writer {s : State} {e : Handle} {site : Site}
    (hat : s.EndpointAt .writer e site) (hnone : s.history e = some []) (peers : List Handle)
    (k : Handle) : (s.meetAll e peers).inbox k = s.inbox k := by
  unfold meetAll
  induction peers generalizing s with
  | nil => rfl
  | cons f rest ih =>
      have hkeep : ∀ k p, s.profile k = some p → (s.meet e f).profile k = some p :=
        fun k p hk => ((agree_meet profile_ignoresTraffic s e f).look k).trans hk
      have hhistory := ((agree_meet history_ignoresTraffic s e f).history e).trans hnone
      have hmeet : s.meet e f = s.connect e f := by
        obtain ⟨w, hw, -⟩ := hat.writer
        unfold meet
        rw [hw]
      rw [List.foldl_cons, ih (hat.mono hkeep) hhistory, hmeet]
      by_cases hjoin : s.Joins e f
      · rw [connect_inbox hjoin, keptFor_of_history (.inr hnone)]
        split <;> simp [Inbox.offerAll]
      · rw [connect_inbox_of_not hjoin]

/-! ## A clean-up -/

/-- A reader that forgets its last peer is offered a notice. -/
theorem unmatch_inbox (s : State) (gone peer k : Handle) :
    (s.unmatch gone peer).inbox k =
      if k = peer ∧ (s.matchedWith k).filter (· ≠ gone) = [] then
        (s.inbox k).map fun b => b.offer s.maxSamples orphanNotice
      else s.inbox k := by
  unfold unmatch
  split
  · rename_i w _ hw
    rw [raise_inbox (by simp), modifyWriter_inbox]
    split
    · rename_i hk
      have hbox : s.inbox k = none :=
        inbox_of_reader?_none (reader?_eq_none_of_writer? (hk.1 ▸ hw))
      rw [hbox]
      rfl
    · rfl
  · rename_i r hw hr
    dsimp only
    -- being told changes no inbox, so the notice is all that may come
    have htold : ∀ k, ((s.modifyReader peer fun x =>
        { x with matched := r.matched.filter (· ≠ gone) }).raise peer
          .subscriptionMatched).inbox k = s.inbox k := by
      intro k
      rw [raise_inbox (by simp), setMatched_inbox]
    have hmax : ((s.modifyReader peer fun x =>
        { x with matched := r.matched.filter (· ≠ gone) }).raise peer
          .subscriptionMatched).maxSamples = s.maxSamples := raise_maxSamples ..
    by_cases hlast : r.matched.filter (· ≠ gone) = []
    · rw [if_pos (by rw [hlast]; rfl), offer_inbox, htold, hmax]
      by_cases hk : k = peer
      · rw [if_pos hk, if_pos ⟨hk, by rw [hk, matchedWith_of_reader? hr, hlast]⟩]
      · rw [if_neg hk, if_neg fun h => hk h.1]
    · rw [if_neg (by simpa using hlast), htold]
      refine (if_neg fun h => hlast ?_).symm
      rw [← matchedWith_of_reader? hr, ← h.1, h.2]
  · rename_i hw hr
    split
    · rename_i hk
      rw [hk.1, inbox_of_reader?_none hr]
      rfl
    · rfl

theorem unmatch_maxSamples (s : State) (gone peer : Handle) :
    (s.unmatch gone peer).maxSamples = s.maxSamples :=
  (agree_unmatch profile_ignoresTraffic s gone peer).maxSamples_eq

theorem foldl_unmatch_inbox (s : State) (gone : Handle) {peers : List Handle}
    (hnodup : peers.Nodup) (k : Handle) :
    (peers.foldl (fun s peer => s.unmatch gone peer) s).inbox k =
      if k ∈ peers ∧ (s.matchedWith k).filter (· ≠ gone) = [] then
        (s.inbox k).map fun b => b.offer s.maxSamples orphanNotice
      else s.inbox k := by
  induction peers generalizing s with
  | nil => simp
  | cons peer rest ih =>
      obtain ⟨hpeer, hrest⟩ := List.nodup_cons.mp hnodup
      rw [List.foldl_cons, ih _ hrest, unmatch_inbox, unmatch_matchedWith, unmatch_maxSamples]
      by_cases hk : k = peer
      · subst hk
        simp [hpeer]
      · simp [hk]

theorem unmatchPeers_inbox (s : State) (doomed : List Handle) {gone : Handle}
    (hnodup : (s.matchedWith gone).Nodup) (k : Handle) :
    (s.unmatchPeers doomed gone).inbox k =
      if (k ∈ s.matchedWith gone ∧ k ∉ doomed) ∧ (s.matchedWith k).filter (· ≠ gone) = [] then
        (s.inbox k).map fun b => b.offer s.maxSamples orphanNotice
      else s.inbox k := by
  unfold unmatchPeers
  rw [foldl_unmatch_inbox s gone (hnodup.filter _)]
  simp

theorem forall_mem_filter_ne_iff {gone : Handle} {peers rest : List Handle} :
    (∀ g ∈ peers.filter (· ≠ gone), g ∈ rest) ↔ ∀ g ∈ peers, g ∈ gone :: rest := by
  simp only [List.mem_filter, decide_eq_true_eq, List.mem_cons]
  constructor
  · intro h g hg
    by_cases hgone : g = gone
    · exact .inl hgone
    · exact .inr (h g ⟨hg, hgone⟩)
  · exact fun h g hg => (h g hg.1).resolve_left hg.2

/-- A survivor is offered one notice if all its peers go, however many go. -/
theorem unmatchAll_inbox (s : State) {doomed rest : List Handle} {k : Handle}
    (hstays : k ∉ doomed) (hsub : ∀ g ∈ rest, g ∈ doomed) (hdistinct : rest.Nodup)
    (hnodup : ∀ g ∈ rest, (s.matchedWith g).Nodup)
    (hsym : ∀ g ∈ rest, k ∈ s.matchedWith g ↔ g ∈ s.matchedWith k) :
    (rest.foldl (fun s g => s.unmatchPeers doomed g) s).inbox k =
      if s.matchedWith k ≠ [] ∧ ∀ g ∈ s.matchedWith k, g ∈ rest then
        (s.inbox k).map fun b => b.offer s.maxSamples orphanNotice
      else s.inbox k := by
  induction rest generalizing s with
  | nil =>
      refine (if_neg fun h => ?_).symm
      obtain ⟨g, hg⟩ := List.exists_mem_of_ne_nil _ h.1
      exact absurd (h.2 g hg) (by simp)
  | cons gone rest ih =>
      obtain ⟨hgone, hrest⟩ := List.nodup_cons.mp hdistinct
      have hsub' : ∀ g ∈ rest, g ∈ doomed := fun g hg => hsub g (List.mem_cons_of_mem _ hg)
      -- the doomed keep their lists, and what is known of the rest holds after this one
      have hkept : ∀ g ∈ rest, (s.unmatchPeers doomed gone).matchedWith g = s.matchedWith g := by
        intro g hg
        rw [unmatchPeers_matchedWith, if_neg fun h => h.2 (hsub' g hg)]
      have hmatched : (s.unmatchPeers doomed gone).matchedWith k =
          if gone ∈ s.matchedWith k then (s.matchedWith k).filter (· ≠ gone)
          else s.matchedWith k := by
        rw [unmatchPeers_matchedWith]
        simp only [hstays, not_false_eq_true, and_true, hsym gone List.mem_cons_self]
      have hmax : (s.unmatchPeers doomed gone).maxSamples = s.maxSamples :=
        (agree_unmatchPeers profile_ignoresTraffic s doomed gone).maxSamples_eq
      have hsym' : ∀ g ∈ rest, k ∈ (s.unmatchPeers doomed gone).matchedWith g ↔
          g ∈ (s.unmatchPeers doomed gone).matchedWith k := by
        intro g hg
        have hne : g ≠ gone := fun h => hgone (h ▸ hg)
        rw [hkept g hg, hsym g (List.mem_cons_of_mem _ hg), hmatched]
        split <;> simp [hne]
      rw [List.foldl_cons, ih _ hsub' hrest
        (fun g hg => by rw [hkept g hg]; exact hnodup g (List.mem_cons_of_mem _ hg)) hsym',
        hmatched, hmax, unmatchPeers_inbox s doomed (hnodup gone List.mem_cons_self)]
      simp only [hstays, not_false_eq_true, and_true, hsym gone List.mem_cons_self]
      by_cases hin : gone ∈ s.matchedWith k
      · -- the one that goes was a peer: either it was the last one, or the others decide
        simp only [hin, if_true, true_and, forall_mem_filter_ne_iff]
        by_cases hlast : (s.matchedWith k).filter (· ≠ gone) = []
        · have hall : ∀ g ∈ s.matchedWith k, g ∈ gone :: rest :=
            forall_mem_filter_ne_iff.mp (by rw [hlast]; simp)
          rw [if_neg fun h => h.1 hlast, if_pos hlast,
            if_pos ⟨List.ne_nil_of_mem hin, hall⟩]
        · simp only [hlast, List.ne_nil_of_mem hin, if_false, ne_eq, not_false_eq_true, true_and]
      · -- it was no peer, so only the others decide
        have hothers : (s.matchedWith k).filter (· ≠ gone) = s.matchedWith k :=
          List.filter_eq_self.mpr fun g hg => decide_eq_true fun h => hin (h ▸ hg)
        simp only [hin, if_false, false_and, ← forall_mem_filter_ne_iff, hothers]

theorem foldl_remove_inbox (s : State) (doomed : List Handle) (k : Handle) :
    (doomed.foldl remove s).inbox k = if k ∈ doomed then none else s.inbox k := by
  unfold inbox
  rw [foldl_remove_get?]
  split <;> rfl

/-- After a clean-up, a survivor has a notice more if all its peers are gone. -/
theorem deleteAll_inbox {s : State} (hm : s.Matching) {doomed : List Handle}
    (hdistinct : doomed.Nodup) (k : Handle) :
    (s.deleteAll doomed).inbox k =
      if k ∈ doomed then none
      else if s.matchedWith k ≠ [] ∧ ∀ g ∈ s.matchedWith k, g ∈ doomed then
        (s.inbox k).map fun b => b.offer s.maxSamples orphanNotice
      else s.inbox k := by
  unfold deleteAll
  rw [foldl_remove_inbox]
  split
  · rfl
  · rename_i hstays
    exact unmatchAll_inbox s hstays (fun _ h => h) hdistinct (fun g _ => (hm.ascending g).nodup)
      fun g _ => ⟨hm.symm, hm.symm⟩

end State

end DdsBridge.Provider
