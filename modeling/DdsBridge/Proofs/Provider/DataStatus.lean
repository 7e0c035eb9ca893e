import DdsBridge.Proofs.Provider.Evolution
import DdsBridge.Proofs.Status

/-!
# The statuses about data

Two statuses tell a client where there is something to take: one is raised on a reader, the other
on the subscriber that the reader was created on. Delivery raises both, taking lowers them once a
queue, or all queues below a subscriber, are drained. They are caches of the queues, written in
different places; that they never differ from the queues is shown here for all runs.

* **`Signs`**, **`State.signs`** — the part of an entity that these statuses are about.
* **`announce_signs`**, **`settleReader_signs`** — how the statuses are raised and lowered.
* **`State.DataSigned`**, **`DataSigned.evolves`** — the invariant, and what keeps it.
* **`dataSigned_of_reachable`** — every reachable state.
-/

namespace DdsBridge.Provider

/-- What the statuses about data say of an entity, and what they are about: the entity it was
created on, whether it is a reader and then whether it has something to take, and whether it is a
subscriber. -/
structure Signs where
  parent : Option Handle
  pending : Option Bool
  gathers : Bool
  dataAvailable : Bool
  dataOnReaders : Bool

/-- Whether a reader has something to take. -/
def Body.pending : Body → Option Bool
  | .reader x => some !x.queue.isEmpty
  | _ => none

/-- Only a reader has anything to take, or nothing. -/
theorem Body.reader_of_pending {body : Body} {p : Bool} (h : body.pending = some p) :
    ∃ x, body = .reader x := by
  cases body with
  | reader x => exact ⟨x, rfl⟩
  | _ => simp [Body.pending] at h

/-- Whether readers are created on an entity. -/
def Body.gathers : Body → Bool
  | .subscriber _ => true
  | _ => false

/-- The part of an entity that the statuses about data are about. -/
def Record.signs (r : Record) : Signs where
  parent := r.parent
  pending := r.body.pending
  gathers := r.body.gathers
  dataAvailable := r.raised.contains .dataAvailable
  dataOnReaders := r.raised.contains .dataOnReaders

@[simp] theorem Record.signs_core (r : Record) : r.core.signs = r.signs := by
  obtain ⟨_, _, _, _, _, _, body⟩ := r
  cases body <;> rfl

namespace State

/-- The signs of a live entity. -/
def signs (s : State) (h : Handle) : Option Signs := (s.entities.get? h).map Record.signs

/-- Something waits to be taken from a reader that was created on an entity. -/
def HasPending (s : State) (g : Handle) : Prop :=
  ∃ k b, s.signs k = some b ∧ b.parent = some g ∧ b.pending = some true

/-- The statuses about data say what is in the queues. -/
structure DataSigned (s : State) : Prop where
  available : ∀ {h b p}, s.signs h = some b → b.pending = some p → b.dataAvailable = p
  onReaders : ∀ {h b}, s.signs h = some b → b.gathers = true →
    (b.dataOnReaders = true ↔ s.HasPending h)

theorem signs_eq_some_iff {s : State} {h : Handle} {b : Signs} :
    s.signs h = some b ↔ ∃ r, s.entities.get? h = some r ∧ r.signs = b := by
  simp [signs]

theorem Agree.signs {s s' : State} (ha : Agree Record.signs s s') (h : Handle) :
    s'.signs h = s.signs h := ha.look h

theorem hasPending_congr {s s' : State} (hsame : ∀ k, s'.signs k = s.signs k) (g : Handle) :
    s'.HasPending g ↔ s.HasPending g := by
  simp only [HasPending, hsame]

theorem DataSigned.of_signs_eq {s s' : State} (hs : s.DataSigned)
    (hsame : ∀ k, s'.signs k = s.signs k) : s'.DataSigned := by
  constructor
  · intro h b p hb hp
    rw [hsame] at hb
    exact hs.available hb hp
  · intro h b hb hg
    rw [hsame] at hb
    rw [hasPending_congr hsame]
    exact hs.onReaders hb hg

/-- The look-up that settles a subscriber asks for exactly this. -/
theorem hasData_iff {s : State} {g : Handle} : s.hasData g = true ↔ s.HasPending g := by
  have hentry : ∀ r : Record, ((decide (r.parent = some g) && match r.body with
      | .reader reader => !reader.queue.isEmpty
      | _ => false) = true) ↔ (r.signs.parent = some g ∧ r.signs.pending = some true) := by
    intro r
    obtain ⟨_, _, _, _, _, _, body⟩ := r
    cases body <;> simp [Record.signs, Body.pending]
  simp only [hasData, Table.any, List.any_eq_true, Prod.exists, Table.mem_entries_iff]
  constructor
  · rintro ⟨k, r, hr, htest⟩
    exact ⟨k, r.signs, signs_eq_some_iff.mpr ⟨r, hr, rfl⟩, (hentry r).mp htest⟩
  · rintro ⟨k, b, hb, htest⟩
    obtain ⟨r, hr, rfl⟩ := signs_eq_some_iff.mp hb
    exact ⟨k, r, hr, (hentry r).mpr htest⟩

/-- Something waits in the queue of a reader that was created on the entity. -/
theorem hasPending_iff {s : State} {g : Handle} :
    s.HasPending g ↔ ∃ k r x, s.entities.get? k = some r ∧ r.parent = some g ∧
      r.body = .reader x ∧ x.queue ≠ [] := by
  constructor
  · rintro ⟨k, b, hb, hg, hp⟩
    obtain ⟨r, hr, rfl⟩ := signs_eq_some_iff.mp hb
    obtain ⟨x, hx⟩ := Body.reader_of_pending hp
    have hqueue : (some !x.queue.isEmpty : Option Bool) = some true := by
      have hpending : r.signs.pending = some !x.queue.isEmpty := by
        simp [Record.signs, hx, Body.pending]
      rw [← hpending, hp]
    exact ⟨k, r, x, hr, hg, hx, by simpa using hqueue⟩
  · rintro ⟨k, r, x, hr, hg, hx, hqueue⟩
    refine ⟨k, r.signs, signs_eq_some_iff.mpr ⟨r, hr, rfl⟩, hg, ?_⟩
    simp [Record.signs, hx, Body.pending, hqueue]

/-- The status of a reader says whether its queue holds anything. -/
theorem DataSigned.reader {s : State} (hs : s.DataSigned) {e : Handle} {r : Record} {x : Reader}
    (hr : s.entities.get? e = some r) (hx : r.body = .reader x) :
    r.raised.contains .dataAvailable = true ↔ x.queue ≠ [] := by
  have hsigns : s.signs e = some r.signs := signs_eq_some_iff.mpr ⟨r, hr, rfl⟩
  have hpending : r.signs.pending = some !x.queue.isEmpty := by
    simp [Record.signs, hx, Body.pending]
  show r.signs.dataAvailable = true ↔ _
  rw [hs.available hsigns hpending]
  simp

/-- The status of a subscriber says whether the queue of some reader created on it holds
anything. -/
theorem DataSigned.subscriber {s : State} (hs : s.DataSigned) {e : Handle} {r : Record}
    {partition : List String} (hr : s.entities.get? e = some r)
    (hbody : r.body = .subscriber partition) :
    r.raised.contains .dataOnReaders = true ↔
      ∃ k rk x, s.entities.get? k = some rk ∧ rk.parent = some e ∧ rk.body = .reader x ∧
        x.queue ≠ [] := by
  have hsigns : s.signs e = some r.signs := signs_eq_some_iff.mpr ⟨r, hr, rfl⟩
  have hgathers : r.signs.gathers = true := by simp [Record.signs, hbody, Body.gathers]
  rw [← hasPending_iff]
  exact hs.onReaders hsigns hgathers

/-- A take reports that there is no data exactly if the queue is empty. -/
theorem take_ne_noData_iff {s : State} (hwf : s.WellFormed) {h : Handle} {x : Reader}
    (hx : s.reader? h = some x) : (s.take h).1 ≠ .error .noData ↔ x.queue ≠ [] := by
  rw [take_fst hwf hx]
  cases x.queue with
  | nil => simp
  | cons y rest => simp

/-! ## Statuses that are raised and lowered -/

theorem raise_signs (s : State) (h k : Handle) (kind : StatusKind) :
    (s.raise h kind).signs k =
      (s.signs k).map fun b =>
        { b with
          dataAvailable := b.dataAvailable || decide (k = h ∧ kind = .dataAvailable)
          dataOnReaders := b.dataOnReaders || decide (k = h ∧ kind = .dataOnReaders) } := by
  unfold signs
  rw [raise_get?]
  by_cases hk : k = h <;> cases s.entities.get? k <;> simp [Record.signs, hk]

/-- A status that is not about data changes no signs. -/
theorem raise_signs_of_ne {kind : StatusKind} (hreader : kind ≠ .dataAvailable)
    (hgroup : kind ≠ .dataOnReaders) (s : State) (h k : Handle) :
    (s.raise h kind).signs k = s.signs k := by
  simp [raise_signs, hreader, hgroup]

theorem lower_signs (s : State) (h k : Handle) (kind : StatusKind) :
    (s.lower h kind).signs k =
      (s.signs k).map fun b =>
        { b with
          dataAvailable := b.dataAvailable && !decide (k = h ∧ kind = .dataAvailable)
          dataOnReaders := b.dataOnReaders && !decide (k = h ∧ kind = .dataOnReaders) } := by
  have hmask : ∀ (mask : StatusMask) (other : StatusKind),
      (mask.remove kind).contains other = (mask.contains other && !decide (kind = other)) := by
    intro mask other
    by_cases hk : kind = other
    · simp [hk]
    · simp [StatusMask.contains_remove_of_ne _ hk, hk]
  unfold signs lower
  rw [modifyEntity_get?]
  by_cases hk : k = h <;> cases s.entities.get? k <;> simp [Record.signs, hk, hmask]

theorem modifyWriter_signs (s : State) (h k : Handle) (f : Writer → Writer) :
    (s.modifyWriter h f).signs k = s.signs k := by
  refine Agree.signs (agree_modifyWriter s h fun r w hw => ?_) k
  simp [Record.signs, hw, Body.pending, Body.gathers]

theorem setMatched_signs (s : State) (h k : Handle) (f : Reader → List Handle) :
    (s.modifyReader h fun x => { x with matched := f x }).signs k = s.signs k := by
  refine Agree.signs (agree_modifyReader s h fun r x hx => ?_) k
  simp [Record.signs, hx, Body.pending, Body.gathers]

theorem setQueue_signs (s : State) (h k : Handle) (queue : List Sample) :
    (s.modifyReader h fun x => { x with queue }).signs k =
      if k = h then
        (s.signs k).map fun b => { b with pending := b.pending.map fun _ => !queue.isEmpty }
      else s.signs k := by
  unfold signs modifyReader
  rw [modifyEntity_get?]
  split
  · cases hr : s.entities.get? k with
    | none => rfl
    | some r =>
        obtain ⟨_, _, _, _, _, _, body⟩ := r
        cases body <;> rfl
  · rfl

theorem parent_eq (s : State) (h : Handle) :
    (s.entities.get? h).bind Record.parent = (s.signs h).bind Signs.parent := by
  unfold signs
  rw [Option.bind_map]
  rfl

/-- An accepted sample raises one status on the reader and one on what the reader was created
on. -/
theorem announce_signs (s : State) (h k : Handle) :
    (s.announce h).signs k =
      (s.signs k).map fun b =>
        { b with
          dataAvailable := b.dataAvailable || decide (k = h)
          dataOnReaders := b.dataOnReaders || decide ((s.signs h).bind Signs.parent = some k) } := by
  unfold announce
  rw [parent_eq]
  cases hparent : (s.signs h).bind Signs.parent with
  | none => simp [raise_signs]
  | some g => simp [raise_signs, Function.comp_def, eq_comm]

/-- Settling a drained reader lowers its status, and that of its subscriber if all readers of the
subscriber are drained. -/
theorem settleReader_signs (s : State) (h k : Handle) :
    (s.settleReader h).signs k =
      (s.signs k).map fun b =>
        { b with
          dataAvailable := b.dataAvailable && !decide (k = h)
          dataOnReaders := b.dataOnReaders &&
            (s.hasData k || !decide ((s.signs h).bind Signs.parent = some k)) } := by
  -- lowering the reader's status does not change what is in the queues
  have hdata : ∀ g, (s.lower h .dataAvailable).hasData g = s.hasData g := by
    intro g
    rw [Bool.eq_iff_iff, hasData_iff, hasData_iff]
    constructor
    · rintro ⟨k, b, hb, hg, hp⟩
      rw [lower_signs] at hb
      obtain ⟨b₀, hb₀, rfl⟩ := Option.map_eq_some_iff.mp hb
      exact ⟨k, b₀, hb₀, hg, hp⟩
    · rintro ⟨k, b, hb, hg, hp⟩
      exact ⟨k, _, (lower_signs s h k _).trans (congrArg _ hb), hg, hp⟩
  unfold settleReader
  rw [parent_eq]
  cases hparent : (s.signs h).bind Signs.parent with
  | none => simp [lower_signs]
  | some g =>
      dsimp only
      unfold settleSubscriber
      rw [hdata]
      by_cases hk : k = g
      · subst hk
        split
        · rename_i hmore
          simp [lower_signs, hmore]
        · rename_i hdrained
          simp [lower_signs, hdrained, Function.comp_def]
      · have hgk : ¬g = k := fun e => hk e.symm
        split
        · simp [lower_signs, hgk]
        · simp [lower_signs, hk, hgk, Function.comp_def]

/-- What a reader shows of its queue. -/
theorem signs_of_reader? {s : State} {h : Handle} {x : Reader} (hx : s.reader? h = some x) :
    ∃ b, s.signs h = some b ∧ b.pending = some !x.queue.isEmpty := by
  obtain ⟨r, hr, hbody⟩ := reader?_eq_some_iff.mp hx
  exact ⟨r.signs, signs_eq_some_iff.mpr ⟨r, hr, rfl⟩, by simp [Record.signs, hbody, Body.pending]⟩

/-! ## Samples that come -/

/-- A sample that a reader accepts raises what it should raise. -/
theorem DataSigned.accept {s : State} (hs : s.DataSigned) {h : Handle} {x : Reader}
    (hx : s.reader? h = some x) {queue : List Sample} (hqueue : queue ≠ []) :
    ((s.modifyReader h fun r => { r with queue }).announce h).DataSigned := by
  obtain ⟨reader, hreader, hpending⟩ := signs_of_reader? hx
  have hfull : (!queue.isEmpty) = true := by simpa using hqueue
  -- what changes: the reader has data, and it and its subscriber show so
  have hsigns : ∀ k, ((s.modifyReader h fun r => { r with queue }).announce h).signs k =
      (s.signs k).map fun b =>
        { b with
          pending := if k = h then some true else b.pending
          dataAvailable := b.dataAvailable || decide (k = h)
          dataOnReaders := b.dataOnReaders || decide (reader.parent = some k) } := by
    intro k
    rw [announce_signs, setQueue_signs, setQueue_signs, if_pos rfl, hreader]
    by_cases hk : k = h
    · subst hk
      simp [hreader, hpending, hqueue]
    · simp [hk]
  constructor
  · intro k b p hb hp
    rw [hsigns] at hb
    obtain ⟨b₀, hb₀, rfl⟩ := Option.map_eq_some_iff.mp hb
    by_cases hk : k = h
    · simp_all
    · simp only [hk, if_false, decide_false, Bool.or_false] at hp ⊢
      exact hs.available hb₀ hp
  · intro k b hb hg
    rw [hsigns] at hb
    obtain ⟨b₀, hb₀, rfl⟩ := Option.map_eq_some_iff.mp hb
    by_cases hparent : reader.parent = some k
    · refine iff_of_true (by simp [hparent]) ?_
      exact ⟨h, _, (hsigns h).trans (congrArg _ hreader), hparent, if_pos rfl⟩
    · -- the reader is not one of this subscriber's, so nothing changes for it
      have hother : ∀ {j b}, s.signs j = some b → b.parent = some k → j ≠ h := by
        rintro j b hbj hbk rfl
        obtain rfl := Option.some.inj (hreader.symm.trans hbj)
        exact hparent hbk
      simp only [hparent, decide_false, Bool.or_false]
      refine (hs.onReaders hb₀ hg).trans ⟨?_, ?_⟩
      · rintro ⟨j, b, hj, hbk, hbp⟩
        have hne := hother hj hbk
        exact ⟨j, _, (hsigns j).trans (congrArg _ hj), hbk, by simpa [hne] using hbp⟩
      · rintro ⟨j, b, hj, hbk, hbp⟩
        rw [hsigns] at hj
        obtain ⟨b₁, hb₁, rfl⟩ := Option.map_eq_some_iff.mp hj
        have hne := hother hb₁ hbk
        exact ⟨j, b₁, hb₁, hbk, by simpa [hne] using hbp⟩

theorem DataSigned.offer {s : State} (hs : s.DataSigned) (h : Handle) (x : Sample) :
    (s.offer h x).DataSigned := by
  unfold State.offer
  split
  · exact hs
  · rename_i r hr
    split
    · exact hs.of_signs_eq (raise_signs_of_ne (by simp) (by simp) s h)
    · rename_i queue hqueue
      refine hs.accept hr ?_
      rintro rfl
      unfold enqueue at hqueue
      split at hqueue
      · simp at hqueue
      · split at hqueue
        · simp at hqueue
        · cases hqueue

theorem DataSigned.foldl {α : Type} {f : State → α → State}
    (hf : ∀ s a, s.DataSigned → (f s a).DataSigned) {s : State} (hs : s.DataSigned)
    (as : List α) : (as.foldl f s).DataSigned := by
  induction as generalizing s with
  | nil => exact hs
  | cons a rest ih => exact ih (hf s a hs)

theorem DataSigned.write {s s' : State} (hs : s.DataSigned) {w : Handle} {payload : List UInt8}
    (hok : s.write w payload = (.ok (), s')) : s'.DataSigned := by
  obtain ⟨x, -, rfl⟩ := write_eq_ok hok
  exact .foldl (fun s r hs => hs.offer r _) (hs.of_signs_eq fun k => modifyWriter_signs s w k _) _

/-- A meeting may replay samples. -/
theorem DataSigned.connect {s : State} (hs : s.DataSigned) (w r : Handle) :
    (s.connect w r).DataSigned := by
  unfold State.connect
  split
  · exact hs
  · split
    · split
      · refine hs.of_signs_eq fun k => ?_
        rw [raise_signs_of_ne (by simp) (by simp), raise_signs_of_ne (by simp) (by simp)]
      · dsimp only
        refine .foldl (fun s x hs => hs.offer r x) (hs.of_signs_eq fun k => ?_) _
        rw [raise_signs_of_ne (by simp) (by simp), raise_signs_of_ne (by simp) (by simp),
          setMatched_signs, modifyWriter_signs]
    · exact hs

theorem DataSigned.discover {s : State} (hs : s.DataSigned) (e : Handle) :
    (s.discover e).DataSigned := by
  refine .foldl (fun s peer hs => ?_) hs _
  unfold meet
  split
  · exact hs.connect e peer
  · exact hs.connect peer e

/-- A farewell may bring a notice. -/
theorem DataSigned.unmatch {s : State} (hs : s.DataSigned) (gone peer : Handle) :
    (s.unmatch gone peer).DataSigned := by
  unfold State.unmatch
  split
  · refine hs.of_signs_eq fun k => ?_
    rw [raise_signs_of_ne (by simp) (by simp), modifyWriter_signs]
  · dsimp only
    rename_i r _ _
    have htold : ((s.modifyReader peer fun x =>
        { x with matched := r.matched.filter (· ≠ gone) }).raise peer
          .subscriptionMatched).DataSigned := by
      refine hs.of_signs_eq fun k => ?_
      rw [raise_signs_of_ne (by simp) (by simp), setMatched_signs]
    split
    · exact htold.offer peer _
    · exact htold
  · exact hs

theorem DataSigned.unmatchPeers {s : State} (hs : s.DataSigned) (doomed : List Handle)
    (gone : Handle) : (s.unmatchPeers doomed gone).DataSigned :=
  .foldl (fun _ peer hs => hs.unmatch gone peer) hs _

/-! ## Samples that are taken -/

/-- The statuses are right, but a reader that is drained and what it was created on may still show
theirs. -/
structure Lags (s : State) (h : Handle) : Prop where
  drained : ∀ {b}, s.signs h = some b → b.pending ≠ some true
  available : ∀ {k b p}, k ≠ h → s.signs k = some b → b.pending = some p → b.dataAvailable = p
  raised : ∀ {k b}, s.signs k = some b → b.gathers = true → s.HasPending k →
    b.dataOnReaders = true
  lowered : ∀ {k b}, s.signs k = some b → b.gathers = true →
    (s.signs h).bind Signs.parent ≠ some k → b.dataOnReaders = true → s.HasPending k

/-- Settling the drained reader makes up for it. -/
theorem Lags.settle {s : State} {h : Handle} (hs : s.Lags h) : (s.settleReader h).DataSigned := by
  -- settling lowers flags and touches no queue
  have hsame : ∀ k, (s.settleReader h).HasPending k ↔ s.HasPending k := by
    intro k
    constructor
    · rintro ⟨j, b, hb, hg, hp⟩
      rw [settleReader_signs] at hb
      obtain ⟨b₀, hb₀, rfl⟩ := Option.map_eq_some_iff.mp hb
      exact ⟨j, b₀, hb₀, hg, hp⟩
    · rintro ⟨j, b, hb, hg, hp⟩
      exact ⟨j, _, (settleReader_signs s h j).trans (congrArg _ hb), hg, hp⟩
  constructor
  · intro k b p hb hp
    rw [settleReader_signs] at hb
    obtain ⟨b₀, hb₀, rfl⟩ := Option.map_eq_some_iff.mp hb
    by_cases hk : k = h
    · have hdrained := hs.drained (hk ▸ hb₀)
      cases p with
      | true => exact absurd hp hdrained
      | false => simp [hk]
    · simp only [hk, decide_false, Bool.not_false, Bool.and_true]
      exact hs.available hk hb₀ hp
  · intro k b hb hg
    rw [settleReader_signs] at hb
    obtain ⟨b₀, hb₀, rfl⟩ := Option.map_eq_some_iff.mp hb
    rw [hsame]
    simp only [Bool.and_eq_true, Bool.or_eq_true, Bool.not_eq_true', decide_eq_false_iff_not,
      hasData_iff]
    constructor
    · rintro ⟨hflag, hmore | hother⟩
      · exact hmore
      · exact hs.lowered hb₀ hg hother hflag
    · exact fun hmore => ⟨hs.raised hb₀ hg hmore, .inl hmore⟩

theorem DataSigned.lags {s : State} (hs : s.DataSigned) {h : Handle}
    (hdrained : ∀ {b}, s.signs h = some b → b.pending ≠ some true) : s.Lags h where
  drained := hdrained
  available := fun _ hb hp => hs.available hb hp
  raised := fun hb hg => (hs.onReaders hb hg).mpr
  lowered := fun hb hg _ => (hs.onReaders hb hg).mp

/-- A reader's flag follows its queue as a sample is handed out, and nothing else changes. -/
theorem pop_signs {s : State} {h : Handle} {b : Signs} (hb : s.signs h = some b)
    (hfull : b.pending = some true) (rest : List Sample) (k : Handle) :
    (s.modifyReader h fun x => { x with queue := rest }).signs k = (s.signs k).map fun b =>
      { b with pending := if k = h then some !rest.isEmpty else b.pending } := by
  rw [setQueue_signs]
  by_cases hk : k = h
  · simp [hk, hb, hfull]
  · simp [hk]

/-- The last sample of a reader goes: its subscriber may keep its status for another reader. -/
theorem DataSigned.pop_last {s : State} (hs : s.DataSigned) {h : Handle} {b : Signs}
    (hb : s.signs h = some b) (hfull : b.pending = some true) :
    (s.modifyReader h fun x => { x with queue := [] }).Lags h := by
  have hpop := pop_signs hb hfull []
  -- with one queue less, no subscriber gains a reader that has samples
  have hless : ∀ {k}, (s.modifyReader h fun x => { x with queue := [] }).HasPending k →
      s.HasPending k := by
    rintro k ⟨j, b', hb', hg, hp⟩
    rw [hpop] at hb'
    obtain ⟨b₀, hb₀, rfl⟩ := Option.map_eq_some_iff.mp hb'
    by_cases hj : j = h
    · simp [hj] at hp
    · exact ⟨j, b₀, hb₀, hg, by simpa [hj] using hp⟩
  constructor
  · intro b' hb'
    rw [hpop, hb] at hb'
    obtain rfl := Option.some.inj hb'
    simp
  · intro k b' p hk hb' hp
    rw [hpop] at hb'
    obtain ⟨b₀, hb₀, rfl⟩ := Option.map_eq_some_iff.mp hb'
    have hp₀ : b₀.pending = some p := by simpa [hk] using hp
    show b₀.dataAvailable = p
    exact hs.available hb₀ hp₀
  · intro k b' hb' hg hmore
    rw [hpop] at hb'
    obtain ⟨b₀, hb₀, rfl⟩ := Option.map_eq_some_iff.mp hb'
    exact (hs.onReaders hb₀ hg).mpr (hless hmore)
  · -- a subscriber that is not the reader's own has another reader with samples
    intro k b' hb' hg hother hflag
    rw [hpop] at hb'
    obtain ⟨b₀, hb₀, rfl⟩ := Option.map_eq_some_iff.mp hb'
    obtain ⟨j, b₁, hb₁, hbk, hbp⟩ := (hs.onReaders hb₀ hg).mp hflag
    have hj : j ≠ h := by
      rintro rfl
      obtain rfl := Option.some.inj (hb.symm.trans hb₁)
      rw [hpop, hb] at hother
      exact hother hbk
    exact ⟨j, _, (hpop j).trans (congrArg _ hb₁), hbk, by simpa [hj] using hbp⟩

theorem DataSigned.take {s : State} (hs : s.DataSigned) (h : Handle) :
    (s.take h).2.DataSigned := by
  unfold State.take proceed
  split
  · exact hs
  · split
    · exact hs
    · rename_i x hx
      obtain ⟨reader, hreader, hpending⟩ := signs_of_reader? hx
      split
      · -- nothing to take, so the flags are lowered again and no queue changes
        rename_i hempty
        refine (hs.lags fun {b} hb => ?_).settle
        obtain rfl := Option.some.inj (hreader.symm.trans hb)
        simp [hpending, hempty]
      · rename_i y rest hqueue
        have hfull : reader.pending = some true := by simp [hpending, hqueue]
        dsimp only [succeed]
        split
        · rename_i hlast
          obtain rfl := List.isEmpty_iff.mp hlast
          exact (hs.pop_last hreader hfull).settle
        · -- another sample is left, and nothing shows that one was taken
          rename_i hmore
          refine hs.of_signs_eq fun k => ?_
          rw [pop_signs hreader hfull]
          by_cases hk : k = h
          · have hrest : rest.isEmpty = false := by simpa using hmore
            simp [hk, hreader, hrest, ← hfull]
          · simp [hk]

/-! ## Entities that come and go -/

/-- What an entity was created on is live. -/
theorem WellFormed.parent_live {s : State} (hwf : s.WellFormed) {k g : Handle} {b : Signs}
    (hb : s.signs k = some b) (hg : b.parent = some g) :
    ∃ pr, s.profile g = some pr := by
  obtain ⟨r, hr, rfl⟩ := signs_eq_some_iff.mp hb
  have hk : s.profile k = some r.profile := profile_of_get? hr
  have hmem : g ∈ r.profile.refersTo := by
    have hparent : r.parent = some g := hg
    simp [Profile.refersTo, Record.profile, hparent]
  obtain ⟨pr, hpr, -⟩ := (hwf.placed hk).refersTo hk hmem
  exact ⟨pr, hpr⟩

/-- A new entity has nothing to take, and nothing was created on it. -/
theorem DataSigned.insert {s : State} (hs : s.DataSigned) (hwf : s.WellFormed)
    {kind : EntityKind} {participant parent : Option Handle} {body : Body}
    (hbody : body.pending ≠ some true) : (s.insert kind participant parent body).2.DataSigned := by
  have hsigns : ∀ k, (s.insert kind participant parent body).2.signs k =
      if k = s.next then some ⟨parent, body.pending, body.gathers, false, false⟩
      else s.signs k := by
    intro k
    unfold signs
    rw [insert_get?]
    split
    · simp [Record.signs]
    · rfl
  -- a new entity has no data, and nobody was created on it yet
  have hfresh : ∀ {k b}, s.signs k = some b → k ≠ s.next := by
    rintro k b hb rfl
    obtain ⟨r, hr, -⟩ := signs_eq_some_iff.mp hb
    exact hwf.ne_fresh (profile_of_get? hr) rfl
  have hsame : ∀ {k}, (s.insert kind participant parent body).2.HasPending k ↔ s.HasPending k := by
    intro k
    constructor
    · rintro ⟨j, b, hb, hg, hp⟩
      rw [hsigns] at hb
      split at hb
      · obtain rfl := Option.some.inj hb
        exact absurd hp hbody
      · exact ⟨j, b, hb, hg, hp⟩
    · rintro ⟨j, b, hb, hg, hp⟩
      exact ⟨j, b, by rw [hsigns, if_neg (hfresh hb), hb], hg, hp⟩
  constructor
  · intro k b p hb hp
    rw [hsigns] at hb
    split at hb
    · obtain rfl := Option.some.inj hb
      cases p with
      | true => exact absurd hp hbody
      | false => rfl
    · exact hs.available hb hp
  · intro k b hb hg
    rw [hsame]
    rw [hsigns] at hb
    split at hb
    · rename_i hk
      obtain rfl := Option.some.inj hb
      refine iff_of_false (by simp) ?_
      rintro ⟨j, b, hb, hbk, -⟩
      obtain ⟨pr, hpr⟩ := hwf.parent_live hb hbk
      exact hwf.ne_fresh hpr hk
    · exact hs.onReaders hb hg

/-- A subscriber goes together with its readers, and readers only go together with it. -/
theorem DataSigned.delete {s s' : State} (hs : s.DataSigned) {doomed : List Handle}
    (hgone : ∀ k, s'.signs k = if k ∈ doomed then none else s.signs k)
    (hwith : ∀ {k b g}, k ∈ doomed → s.signs k = some b → b.pending = some true →
      b.parent = some g → g ∈ doomed) : s'.DataSigned := by
  have hlive : ∀ {k b}, s'.signs k = some b → k ∉ doomed ∧ s.signs k = some b := by
    intro k b hb
    rw [hgone] at hb
    split at hb
    · exact absurd hb (by simp)
    · exact ⟨‹_›, hb⟩
  constructor
  · intro k b p hb hp
    exact hs.available (hlive hb).2 hp
  · intro k b hb hg
    obtain ⟨hstays, hb⟩ := hlive hb
    refine (hs.onReaders hb hg).trans ⟨?_, ?_⟩
    · rintro ⟨j, b, hj, hbk, hbp⟩
      have hjstays : j ∉ doomed := fun hj' => hstays (hwith hj' hj hbp hbk)
      exact ⟨j, b, by rw [hgone, if_neg hjstays, hj], hbk, hbp⟩
    · rintro ⟨j, b, hj, hbk, hbp⟩
      exact ⟨j, b, (hlive hj).2, hbk, hbp⟩

theorem foldl_remove_signs (s : State) (doomed : List Handle) (k : Handle) :
    (doomed.foldl remove s).signs k = if k ∈ doomed then none else s.signs k := by
  unfold signs
  rw [foldl_remove_get?]
  split <;> rfl

/-- A reader that a participant contains was created on a subscriber that it contains. -/
theorem WellFormed.contained_parent {s : State} (hwf : s.WellFormed) {p k g : Handle}
    {d : DomainId} {pr : Profile} {side : Side} {t : Handle} {q : EndpointQos}
    (hp : s.profile p = some ⟨p, none, .participant d⟩) (hk : k ∈ s.contained p)
    (hpr : s.profile k = some pr) (hrole : pr.role = side.endpoint t q)
    (hparent : pr.parent = some g) : g ∈ s.contained p := by
  obtain ⟨-, pr', hpr', hpart⟩ := mem_contained.mp hk
  obtain rfl := Option.some.inj (hpr.symm.trans hpr')
  have hmem : g ∈ pr.refersTo := by simp [Profile.refersTo, hparent]
  obtain ⟨prg, hprg, hsame⟩ := (hwf.placed hpr).refersTo hpr hmem
  refine mem_contained.mpr ⟨?_, prg, hprg, hsame.trans hpart⟩
  rintro rfl
  -- a group was created on its participant, which was created on nothing
  obtain ⟨p', g', role⟩ := pr
  cases hrole
  cases hparent
  obtain ⟨site, ⟨p'', g'', t'', hself, -, hgroup, -⟩, -⟩ := hwf.endpointAt hpr
  rw [hpr] at hself
  simp only [Option.some.injEq, Profile.mk.injEq] at hself
  rw [← hself.2.1, hp] at hgroup
  simp at hgroup

/-! ## Every run -/

theorem DataSigned.evolves {s s' : State} {operation : Operation} {reply : Reply}
    (hs : s.DataSigned) (hwf : s.WellFormed) (hstep : s.Evolves operation (reply, s')) :
    s'.DataSigned := by
  cases hstep with
  | quiet hquiet hagree =>
      exact hs.of_signs_eq fun k => (hagree.of_core Record.signs_core).signs k
  | wrote hok => exact hs.write hok
  | took r => exact hs.take r
  | @created _ participant parent body hquiet hside hplaced =>
      refine hs.insert hwf fun hpending => ?_
      cases body with
      | reader x => exact hside .reader x.topic x.qos rfl
      | _ => simp [Body.pending] at hpending
  | @joined side p g t qos hplaced =>
      refine (hs.insert hwf ?_).discover s.next
      cases side <;> simp [Side.newBody, Body.pending]
  | @cleared p d hp =>
      have htold : ((s.contained p).foldl (fun t g => t.unmatchPeers (s.contained p) g)
          s).DataSigned := .foldl (fun _ g ht => ht.unmatchPeers _ g) hs _
      refine htold.delete (foldl_remove_signs _ _) fun {k b g} hk hb hpending hparent => ?_
      obtain ⟨r, hr, rfl⟩ := signs_eq_some_iff.mp hb
      obtain ⟨x, hbody⟩ := Body.reader_of_pending hpending
      -- telling the peers kept all profiles, so the tree is still the one before the clean-up
      have hprofile : s.profile k = some r.profile := by
        have hnow := (agree_unmatchAll profile_ignoresTraffic s (s.contained p)
          (s.contained p)).look k
        rw [hr] at hnow
        exact hnow.symm
      have hrole : r.profile.role = Side.reader.endpoint x.topic x.qos := by
        show r.body.role = _
        rw [hbody]
        rfl
      exact hwf.contained_parent hp hk hprofile hrole hparent
  | @released p d s' hp hempty hagree =>
      have hgone : (s.remove p).DataSigned := by
        refine hs.delete (foldl_remove_signs s [p]) fun {k b g} hk hb hpending _ => ?_
        obtain rfl := List.mem_singleton.mp hk
        obtain ⟨r, hr, rfl⟩ := signs_eq_some_iff.mp hb
        obtain ⟨x, hbody⟩ := Body.reader_of_pending hpending
        obtain ⟨r', hr', hprofile⟩ := profile_eq_some_iff.mp hp
        obtain rfl := Option.some.inj (hr.symm.trans hr')
        have hrole : r.body.role = .participant d := congrArg Profile.role hprofile
        simp [hbody, Body.role] at hrole
      exact hgone.of_signs_eq fun k => (hagree.of_core Record.signs_core).signs k

theorem dataSigned_new (maxSamples : Nat) : (State.new maxSamples).DataSigned := by
  constructor <;> intro h b <;> intros <;> simp_all [signs, State.new]

/-- In every reachable state the statuses about data say what is in the queues. -/
theorem dataSigned_of_reachable {isFile : String → Bool} {s : State}
    (hreach : Reachable isFile s) : s.DataSigned := by
  induction hreach with
  | new maxSamples => exact dataSigned_new maxSamples
  | step before operation ih =>
      have hwf := wellFormed_of_reachable before
      exact ih.evolves hwf (perform_evolves hwf isFile operation)

end State

end DdsBridge.Provider
