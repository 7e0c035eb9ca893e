import DdsBridge.Proofs.Provider.DataStatus
import DdsBridge.Proofs.Provider.Inbox
import DdsBridge.Provider.Cleanup

/-!
# What a survivor hears of a clean-up

While a clean-up runs, the endpoints that stay are told one by one which of their peers go. For one
endpoint all of this adds up: being told of some peers and then of others is being told of all of
them at once. The sum does not mention an order, and this is why the order in which a clean-up
visits its entities cannot be seen afterwards.

* **`Body.bereft`**, **`Body.farewells`** — an endpoint without some of its peers, and the statuses
  raised on it on the way; **`Body.bereft_or`**, **`Body.farewells_or`** — they add up.
* **`State.Stirs`** — what an entity may notice of a farewell that somebody else is told.
* **`State.Hears`** — what an endpoint hears that is told which of its peers are gone.
* **`told_self`**, **`told_other`** — a round of farewells, for one that is told and for the others.
* **`unmatchAll_self`**, **`unmatchAll_other`** — all rounds.
-/

namespace DdsBridge.Provider

/-! ## An endpoint and the peers that go -/

/-- A reader had writers, and all of them go. -/
def Reader.isOrphaned (gone : Handle → Bool) (x : Reader) : Bool :=
  !x.matched.isEmpty && x.matched.all gone

/-- The queue of a reader that was offered the notice, unless its history policy refuses it. -/
def Reader.noticed (bound : Nat) (x : Reader) : Option (List Sample) :=
  State.enqueue x.qos.history bound x.queue State.orphanNotice

/-- The status that the notice raises: the one of a sample that was kept, or of one that was
refused. -/
def Reader.noticeStatus (bound : Nat) (x : Reader) : StatusKind :=
  if (x.noticed bound).isSome then .dataAvailable else .sampleRejected

/-- Peers have no part in what becomes of the notice. -/
@[simp] theorem Reader.noticed_matched (bound : Nat) (x : Reader) (matched : List Handle) :
    Reader.noticed bound { x with matched } = x.noticed bound := rfl

@[simp] theorem Reader.noticeStatus_matched (bound : Nat) (x : Reader) (matched : List Handle) :
    Reader.noticeStatus bound { x with matched } = x.noticeStatus bound := rfl

/-- An endpoint without those peers that are gone. A reader that loses its last one is offered one
notice. -/
def Body.bereft (bound : Nat) (gone : Handle → Bool) : Body → Body
  | .writer w => .writer { w with matched := w.matched.filter fun g => !gone g }
  | .reader x =>
    .reader
      { x with
        matched := x.matched.filter fun g => !gone g
        queue := if x.isOrphaned gone then (x.noticed bound).getD x.queue else x.queue }
  | body => body

/-- The statuses raised on an endpoint that is told which peers are gone: one for each of them, and
that of the notice. -/
def Body.farewells (bound : Nat) (gone : Handle → Bool) : Body → List StatusKind
  | .writer w => (w.matched.filter gone).map fun _ => .publicationMatched
  | .reader x =>
    ((x.matched.filter gone).map fun _ => .subscriptionMatched) ++
      if x.isOrphaned gone then [x.noticeStatus bound] else []
  | _ => []

/-- A survivor that was told which peers are gone. -/
def Record.bereft (bound : Nat) (gone : Handle → Bool) (r : Record) : Record :=
  { r with
    raised := (r.body.farewells bound gone).foldl StatusMask.insert r.raised
    body := r.body.bereft bound gone }

section Sum

variable {bound : Nat} {p q : Handle → Bool}

theorem filter_or_length (l : List Handle) :
    (l.filter fun g => p g || q g).length =
      (l.filter p).length + ((l.filter fun g => !p g).filter q).length := by
  induction l with
  | nil => rfl
  | cons g rest ih =>
      cases hp : p g <;> cases hq : q g <;> simp [hp, hq, ih] <;> omega

/-- One status for each peer that is gone, counted in two goes. -/
theorem map_filter_or {α : Type} (l : List Handle) (a : α) :
    ((l.filter fun g => p g || q g).map fun _ => a) =
      ((l.filter p).map fun _ => a) ++ (((l.filter fun g => !p g).filter q).map fun _ => a) := by
  simp only [List.map_const']
  rw [filter_or_length, List.replicate_append_replicate]

theorem filter_not_or (l : List Handle) :
    ((l.filter fun g => !p g).filter fun g => !q g) = l.filter fun g => !(p g || q g) := by
  rw [List.filter_filter]
  exact List.filter_congr fun g _ => by simp [Bool.and_comm]

theorem Reader.isOrphaned_iff {x : Reader} {gone : Handle → Bool} :
    x.isOrphaned gone = true ↔ x.matched ≠ [] ∧ ∀ g ∈ x.matched, gone g = true := by
  simp [isOrphaned]

/-- A reader that lost its last writer has no other to lose. -/
theorem Reader.not_isOrphaned_of_nil {x : Reader} {gone : Handle → Bool} (h : x.matched = []) :
    x.isOrphaned gone = false := by
  simp [isOrphaned, h]

/-- A reader loses its last writer in the first go or in the second. -/
theorem Reader.isOrphaned_or (x : Reader) (queue : List Sample) :
    x.isOrphaned (fun g => p g || q g) =
      (x.isOrphaned p ||
        Reader.isOrphaned q { x with matched := x.matched.filter fun g => !p g, queue }) := by
  rw [Bool.eq_iff_iff, Bool.or_eq_true, isOrphaned_iff, isOrphaned_iff, isOrphaned_iff]
  constructor
  · rintro ⟨hne, hall⟩
    by_cases hleft : (x.matched.filter fun g => !p g) = []
    · refine .inl ⟨hne, fun g hg => ?_⟩
      have := List.filter_eq_nil_iff.mp hleft g hg
      simpa using this
    · refine .inr ⟨hleft, fun g hg => ?_⟩
      obtain ⟨hmem, hstays⟩ := List.mem_filter.mp hg
      have hgone := hall g hmem
      simp_all
  · rintro (⟨hne, hall⟩ | ⟨hleft, hall⟩)
    · exact ⟨hne, fun g hg => by simp [hall g hg]⟩
    · refine ⟨fun h => hleft (by simp [h]), fun g hg => ?_⟩
      by_cases hp : p g = true
      · simp [hp]
      · simp [hall g (List.mem_filter.mpr ⟨hg, by simpa using hp⟩)]

/-- After its last writer a reader has lost nothing that it could lose again. -/
theorem Reader.isOrphaned_filter_of_isOrphaned {x : Reader} (h : x.isOrphaned p = true)
    (queue : List Sample) :
    Reader.isOrphaned q { x with matched := x.matched.filter fun g => !p g, queue } = false := by
  refine not_isOrphaned_of_nil (List.filter_eq_nil_iff.mpr fun g hg => ?_)
  simp [(isOrphaned_iff.mp h).2 g hg]

/-- Being told of some peers and then of others is being told of all of them. -/
theorem Body.bereft_or (b : Body) :
    (b.bereft bound p).bereft bound q = b.bereft bound fun g => p g || q g := by
  cases b with
  | writer w => simp only [bereft, filter_not_or]
  | reader x =>
      simp only [bereft, filter_not_or]
      rw [x.isOrphaned_or (if x.isOrphaned p then (x.noticed bound).getD x.queue else x.queue)]
      cases hfirst : x.isOrphaned p with
      | true => simp [Reader.isOrphaned_filter_of_isOrphaned hfirst]
      | false => simp
  | _ => rfl

theorem Body.farewells_or (b : Body) :
    (b.farewells bound fun g => p g || q g) =
      b.farewells bound p ++ (b.bereft bound p).farewells bound q := by
  cases b with
  | writer w => exact map_filter_or _ _
  | reader x =>
      simp only [farewells, bereft, map_filter_or]
      rw [x.isOrphaned_or (if x.isOrphaned p then (x.noticed bound).getD x.queue else x.queue)]
      cases hfirst : x.isOrphaned p with
      | true =>
          -- nobody is left to be told of in the second go
          have hnone : ((x.matched.filter fun g => !p g).filter q) = [] := by
            refine List.filter_eq_nil_iff.mpr fun g hg => ?_
            obtain ⟨hmem, hstays⟩ := List.mem_filter.mp hg
            simp [(Reader.isOrphaned_iff.mp hfirst).2 g hmem] at hstays
          simp [Reader.isOrphaned_filter_of_isOrphaned hfirst, hnone]
      | false =>
          simp only [Bool.false_or, Bool.false_eq_true, if_false, List.append_nil, List.append_assoc]
          rfl
  | _ => rfl

theorem Record.bereft_or (r : Record) :
    (r.bereft bound p).bereft bound q = r.bereft bound fun g => p g || q g := by
  unfold Record.bereft
  simp only [Body.bereft_or, Body.farewells_or, List.foldl_append]

/-- Nobody is told anything who loses no peer. -/
theorem Body.bereft_of_none {b : Body} (h : ∀ g ∈ b.matched, p g = false) :
    b.bereft bound p = b ∧ b.farewells bound p = [] := by
  have hstay : ∀ l : List Handle, (∀ g ∈ l, p g = false) →
      (l.filter fun g => !p g) = l ∧ l.filter p = [] := by
    intro l hl
    exact ⟨List.filter_eq_self.mpr fun g hg => by simp [hl g hg],
      List.filter_eq_nil_iff.mpr fun g hg => by simp [hl g hg]⟩
  cases b with
  | writer w =>
      obtain ⟨hleft, hlost⟩ := hstay w.matched h
      simp only [bereft, farewells, hleft, hlost, List.map_nil, and_self]
  | reader x =>
      -- a reader without peers is not orphaned by anyone, and the others keep one
      have hfed : x.isOrphaned p = false := by
        rw [Bool.eq_false_iff]
        intro horphaned
        obtain ⟨hne, hall⟩ := Reader.isOrphaned_iff.mp horphaned
        obtain ⟨g, hg⟩ := List.exists_mem_of_ne_nil _ hne
        have hgone := hall g hg
        rw [h g hg] at hgone
        cases hgone
      obtain ⟨hleft, hlost⟩ := hstay x.matched h
      simp only [bereft, farewells, hleft, hlost, hfed, List.map_nil, List.nil_append,
        Bool.false_eq_true, if_false, and_self]
  | _ => exact ⟨rfl, rfl⟩

theorem Record.bereft_of_none {r : Record} (h : ∀ g ∈ r.body.matched, p g = false) :
    r.bereft bound p = r := by
  have hsame : r.body.bereft bound p = r.body ∧ r.body.farewells bound p = [] :=
    Body.bereft_of_none h
  unfold Record.bereft
  rw [hsame.1, hsame.2]
  rfl

end Sum

/-- A subscriber one of whose readers has something to take. -/
def Record.rouse (r : Record) : Record := { r with raised := r.raised.insert .dataOnReaders }

theorem Record.rouse_rouse (r : Record) : r.rouse.rouse = r.rouse := by
  simp only [rouse, StatusMask.insert_insert]

theorem Record.callFor_bereft (r : Record) (bound : Nat) (gone : Handle → Bool) :
    (r.bereft bound gone).callFor = r.callFor := by
  funext h kind
  obtain ⟨_, _, _, _, _, _, body⟩ := r
  cases body <;> rfl

theorem Record.bereft_ne_subscriber {r : Record}
    (hbody : ∀ partition, r.body ≠ .subscriber partition) (bound : Nat) (gone : Handle → Bool)
    (partition : List String) : (r.bereft bound gone).body ≠ .subscriber partition := by
  obtain ⟨_, _, _, _, _, _, body⟩ := r
  cases body with
  | subscriber other => exact absurd rfl (hbody other)
  | _ => exact fun h => by cases h

/-- A listener call is about the reader whose listener is called. -/
theorem Record.reader_of_callFor {r : Record} {h : Handle} {kind : StatusKind} {c : Call}
    (hc : c ∈ r.callFor h kind) : c.reader = h := by
  unfold callFor at hc
  split at hc
  · split at hc
    · split at hc
      · rw [List.mem_singleton.mp hc]
      · cases hc
    · cases hc
  · cases hc

namespace State

variable {s s' s₁ : State} {k h gone peer : Handle} {r : Record}

/-- The listener calls that are due for one reader. -/
def callsOf (s : State) (k : Handle) : List Call := s.calls.filter (·.reader = k)

theorem raise_callsOf_of_ne (hne : k ≠ h) (kind : StatusKind) :
    (s.raise h kind).callsOf k = s.callsOf k := by
  unfold raise callsOf
  split
  · rfl
  · rename_i r _
    have hother : (r.callFor h kind).filter (·.reader = k) = [] := by
      refine List.filter_eq_nil_iff.mpr fun c hc => ?_
      simp [Record.reader_of_callFor hc, Ne.symm hne]
    simp only [List.filter_append, hother, List.append_nil]

theorem raise_callsOf_self (hr : s.entities.get? h = some r) (kind : StatusKind) :
    (s.raise h kind).callsOf h = s.callsOf h ++ r.callFor h kind := by
  have hown : (r.callFor h kind).filter (·.reader = h) = r.callFor h kind :=
    List.filter_eq_self.mpr fun c hc => by simp [Record.reader_of_callFor hc]
  unfold raise callsOf
  rw [hr]
  simp only [List.filter_append, hown]

/-! ## What others notice of a farewell -/

/-- What somebody notices of a farewell to somebody else: nothing, but that a subscriber learns
that one of its readers has something to take. -/
structure Stirs (s s' : State) (k : Handle) : Prop where
  record : s'.entities.get? k = s.entities.get? k ∨
    ∃ r partition, s.entities.get? k = some r ∧ r.body = .subscriber partition ∧
      s'.entities.get? k = some r.rouse
  calls : s'.callsOf k = s.callsOf k

namespace Stirs

theorem refl (s : State) (k : Handle) : s.Stirs s k := ⟨.inl rfl, rfl⟩

theorem trans (h₁ : s.Stirs s₁ k) (h₂ : s₁.Stirs s' k) : s.Stirs s' k := by
  refine ⟨?_, h₂.calls.trans h₁.calls⟩
  rcases h₁.record with hsame | ⟨r, partition, hr, hbody, hroused⟩
  · rw [← hsame]
    exact h₂.record
  · rcases h₂.record with hsame' | ⟨r', _, hr', -, hroused'⟩
    · exact .inr ⟨r, partition, hr, hbody, hsame'.trans hroused⟩
    · obtain rfl := Option.some.inj (hroused.symm.trans hr')
      exact .inr ⟨r, partition, hr, hbody, by rw [hroused', Record.rouse_rouse]⟩

theorem modifyEntity (hne : k ≠ h) (f : Record → Record) : s.Stirs (s.modifyEntity h f) k :=
  ⟨.inl ((modifyEntity_get? ..).trans (if_neg hne)), rfl⟩

theorem raise (hne : k ≠ h) (kind : StatusKind) : s.Stirs (s.raise h kind) k :=
  ⟨.inl ((raise_get? ..).trans (if_neg hne)), raise_callsOf_of_ne hne kind⟩

/-- Only readers have listeners, so no call is due for a subscriber. -/
theorem raise_subscriber {partition : List String} (hr : s.entities.get? h = some r)
    (hbody : r.body = .subscriber partition) (k : Handle) :
    s.Stirs (s.raise h .dataOnReaders) k := by
  by_cases hk : k = h
  · subst hk
    refine ⟨.inr ⟨r, partition, hr, hbody, ?_⟩, ?_⟩
    · rw [raise_get?, if_pos rfl, hr]
      rfl
    · rw [raise_callsOf_self hr]
      simp [Record.callFor, hbody]
  · exact raise hk _

/-- What is no subscriber does not notice anything. -/
theorem get?_eq (hs : s.Stirs s' k) (hr : s.entities.get? k = some r)
    (hbody : ∀ partition, r.body ≠ .subscriber partition) :
    s'.entities.get? k = some r := by
  rcases hs.record with hsame | ⟨r₀, partition, hr₀, hbody₀, -⟩
  · exact hsame.trans hr
  · obtain rfl := Option.some.inj (hr.symm.trans hr₀)
    exact absurd hbody₀ (hbody partition)

end Stirs

/-- What a reader was created on is a live subscriber, if it was created on anything. -/
def BelowSubscriber (s : State) (h : Handle) : Prop :=
  ∀ g, (s.entities.get? h).bind Record.parent = some g →
    g ≠ h ∧ ∃ r partition, s.entities.get? g = some r ∧ r.body = .subscriber partition

theorem WellFormed.belowSubscriber (hwf : s.WellFormed) {x : Reader}
    (hx : s.reader? h = some x) : s.BelowSubscriber h := by
  obtain ⟨r, hr, hbody⟩ := reader?_eq_some_iff.mp hx
  intro g hg
  rw [hr] at hg
  obtain ⟨rg, partition, hrg, hsub⟩ := hwf.subscriber_of_reader hr hbody hg
  refine ⟨?_, rg, partition, hrg, hsub⟩
  rintro rfl
  obtain rfl := Option.some.inj (hr.symm.trans hrg)
  rw [hbody] at hsub
  cases hsub

theorem BelowSubscriber.modify {f : Record → Record} (hb : s.BelowSubscriber h)
    (hf : ∀ r, (f r).parent = r.parent) : (s.modifyEntity h f).BelowSubscriber h := by
  intro g hg
  rw [modifyEntity_get?, if_pos rfl, Option.bind_map] at hg
  obtain ⟨hne, r, partition, hr, hbody⟩ := hb g (by simpa [Function.comp_def, hf] using hg)
  refine ⟨hne, r, partition, ?_, hbody⟩
  rw [modifyEntity_get?, if_neg hne, hr]

theorem BelowSubscriber.modifyReader (hb : s.BelowSubscriber h) (f : Reader → Reader) :
    (s.modifyReader h f).BelowSubscriber h :=
  hb.modify fun r => by split <;> rfl

theorem BelowSubscriber.raise (hb : s.BelowSubscriber h) (kind : StatusKind) :
    (s.raise h kind).BelowSubscriber h := by
  intro g hg
  rw [raise_get?, if_pos rfl, Option.bind_map] at hg
  obtain ⟨hne, r, partition, hr, hbody⟩ := hb g (by simpa [Function.comp_def] using hg)
  refine ⟨hne, r, partition, ?_, hbody⟩
  rw [raise_get?, if_neg hne, hr]

/-- Whoever is not the reader notices a kept sample as a subscriber at most. -/
theorem Stirs.announce (hb : s.BelowSubscriber h) (hne : k ≠ h) : s.Stirs (s.announce h) k := by
  unfold State.announce
  dsimp only
  split
  · rename_i g hg
    obtain ⟨hgh, rg, partition, hrg, hsub⟩ := hb g hg
    have hrg' : (s.raise h .dataAvailable).entities.get? g = some rg := by
      rw [raise_get?, if_neg hgh, hrg]
    exact (Stirs.raise hne _).trans (Stirs.raise_subscriber hrg' hsub k)
  · exact .raise hne _

theorem Stirs.offer (hb : s.BelowSubscriber h) (hne : k ≠ h) (y : Sample) :
    s.Stirs (s.offer h y) k := by
  unfold State.offer
  split
  · exact refl s k
  · split
    · exact .raise hne _
    · exact (Stirs.modifyEntity hne _).trans (.announce (hb.modifyReader _) hne)

/-- Whoever is not told notices a farewell as a subscriber at most. -/
theorem Stirs.unmatch (hwf : s.WellFormed) (hne : k ≠ peer) (gone : Handle) :
    s.Stirs (s.unmatch gone peer) k := by
  unfold State.unmatch
  split
  · exact (Stirs.modifyEntity hne _).trans (.raise hne _)
  · rename_i x _ hx
    dsimp only
    have hleft : s.Stirs (s.modifyReader peer fun y =>
        { y with matched := x.matched.filter (· ≠ gone) }) k := .modifyEntity hne _
    have htold := hleft.trans (.raise hne .subscriptionMatched)
    have hbelow := ((hwf.belowSubscriber hx).modifyReader fun y =>
      { y with matched := x.matched.filter (· ≠ gone) }).raise .subscriptionMatched
    split
    · exact htold.trans (.offer hbelow hne _)
    · exact htold
  · exact refl s k

/-! ## What the one that is told hears -/

/-- An endpoint was told which of its peers are gone, and its listener with it. -/
structure Hears (s s' : State) (k : Handle) (r : Record) (gone : Handle → Bool) : Prop where
  record : s'.entities.get? k = some (r.bereft s.maxSamples gone)
  calls : s'.callsOf k =
    s.callsOf k ++ (r.body.farewells s.maxSamples gone).flatMap (r.callFor k)

/-- The notice is kept or refused, and the listener hears of the one or of the other. -/
theorem notice_self (hb : s.BelowSubscriber h) (hr : s.entities.get? h = some r) {x : Reader}
    (hx : r.body = .reader x) :
    (s.offer h orphanNotice).entities.get? h = some
        { r with
          raised := r.raised.insert (x.noticeStatus s.maxSamples)
          body := .reader { x with queue := (x.noticed s.maxSamples).getD x.queue } } ∧
      (s.offer h orphanNotice).callsOf h =
        s.callsOf h ++ r.callFor h (x.noticeStatus s.maxSamples) := by
  have hreader : s.reader? h = some x := reader?_eq_some_iff.mpr ⟨r, hr, hx⟩
  cases hq : x.noticed s.maxSamples with
  | none =>
      have hoffer : s.offer h orphanNotice = s.raise h .sampleRejected := by
        unfold Reader.noticed at hq
        simp only [offer, hreader, hq]
      have hstatus : x.noticeStatus s.maxSamples = .sampleRejected := by
        simp [Reader.noticeStatus, hq]
      rw [hoffer, hstatus]
      refine ⟨?_, raise_callsOf_self hr _⟩
      rw [raise_get?, if_pos rfl, hr]
      simp [← hx]
  | some queue =>
      have hoffer : s.offer h orphanNotice =
          (s.modifyReader h fun x => { x with queue }).announce h := by
        unfold Reader.noticed at hq
        simp only [offer, hreader, hq]
      have hstatus : x.noticeStatus s.maxSamples = .dataAvailable := by
        simp [Reader.noticeStatus, hq]
      rw [hoffer, hstatus]
      -- the reader gets the queue and its status, then its subscriber is roused
      generalize hs₁ : (s.modifyReader h fun x => { x with queue }) = s₁
      have hr₁ : s₁.entities.get? h = some { r with body := .reader { x with queue } } := by
        rw [← hs₁, modifyReader, modifyEntity_get?, if_pos rfl, hr]
        simp [hx]
      have hcalls₁ : s₁.callsOf h = s.callsOf h := by rw [← hs₁]; rfl
      have hb₁ : s₁.BelowSubscriber h := by
        rw [← hs₁]
        exact hb.modifyReader _
      have hself : (s₁.raise h .dataAvailable).entities.get? h = some
          { r with
            raised := r.raised.insert .dataAvailable
            body := .reader { x with queue } } := by
        rw [raise_get?, if_pos rfl, hr₁]
        rfl
      have hheard : (s₁.raise h .dataAvailable).callsOf h =
          s.callsOf h ++ r.callFor h .dataAvailable := by
        rw [raise_callsOf_self hr₁, hcalls₁]
        simp [Record.callFor, hx]
      unfold announce
      dsimp only
      split
      · rename_i g hg
        have hne : h ≠ g := Ne.symm (hb₁ g hg).1
        exact ⟨((raise_get? ..).trans (if_neg hne)).trans hself,
          (raise_callsOf_of_ne hne _).trans hheard⟩
      · exact ⟨hself, hheard⟩

theorem filter_eq_singleton {l : List Handle} (hnodup : l.Nodup) (hin : gone ∈ l) :
    (l.filter fun g => decide (g = gone)) = [gone] := by
  rw [List.filter_eq, hnodup.count, if_pos hin, List.replicate_one]

/-- A writer hears that a reader goes. -/
theorem Hears.unmatch_writer {w : Writer} (hr : s.entities.get? peer = some r)
    (hbody : r.body = .writer w) (hin : gone ∈ w.matched) (hnodup : w.matched.Nodup) :
    s.Hears (s.unmatch gone peer) peer r fun g => decide (g = gone) := by
  have hone : w.matched.filter (fun g => decide (g = gone)) = [gone] :=
    filter_eq_singleton hnodup hin
  have hw : s.writer? peer = some w := writer?_eq_some_iff.mpr ⟨r, hr, hbody⟩
  have hr₁ : (s.modifyWriter peer fun w =>
      { w with matched := w.matched.filter (· ≠ gone) }).entities.get? peer =
        some { r with body := .writer { w with matched := w.matched.filter (· ≠ gone) } } := by
    rw [modifyWriter, modifyEntity_get?, if_pos rfl, hr]
    simp [hbody]
  unfold State.unmatch
  simp only [hw]
  constructor
  · rw [raise_get?, if_pos rfl, hr₁]
    simp [Record.bereft, hbody, Body.farewells, Body.bereft, hone]
  · rw [raise_callsOf_self hr₁]
    simp [hbody, Body.farewells, hone, Record.callFor]
    rfl

/-- A reader hears that a writer goes, and if it was the last one it also gets the notice. -/
theorem Hears.unmatch_reader {x : Reader} (hwf : s.WellFormed) (hr : s.entities.get? peer = some r)
    (hbody : r.body = .reader x) (hin : gone ∈ x.matched) (hnodup : x.matched.Nodup) :
    s.Hears (s.unmatch gone peer) peer r fun g => decide (g = gone) := by
  have hone : x.matched.filter (fun g => decide (g = gone)) = [gone] :=
    filter_eq_singleton hnodup hin
  have hx : s.reader? peer = some x := reader?_eq_some_iff.mpr ⟨r, hr, hbody⟩
  have hw : s.writer? peer = none := by simp [writer?, hr, hbody]
  have horphaned : (x.matched.filter (· ≠ gone)).isEmpty =
      x.isOrphaned fun g => decide (g = gone) := by
    rw [Bool.eq_iff_iff, Reader.isOrphaned_iff, List.isEmpty_iff, List.filter_eq_nil_iff]
    simp [List.ne_nil_of_mem hin]
  have hr₀ : (s.modifyReader peer fun y =>
      { y with matched := x.matched.filter (· ≠ gone) }).entities.get? peer = some
        { r with body := .reader { x with matched := x.matched.filter (· ≠ gone) } } := by
    rw [modifyReader, modifyEntity_get?, if_pos rfl, hr]
    simp [hbody]
  have hb₀ : (s.modifyReader peer fun y =>
      { y with matched := x.matched.filter (· ≠ gone) }).BelowSubscriber peer :=
    (hwf.belowSubscriber hx).modifyReader _
  -- in this state the reader knows that the writer went, and has no notice yet
  generalize hs₁ : (s.modifyReader peer fun y =>
    { y with matched := x.matched.filter (· ≠ gone) }).raise peer .subscriptionMatched = s₁
  have hfar : s.unmatch gone peer =
      if x.isOrphaned fun g => decide (g = gone) then s₁.offer peer orphanNotice else s₁ := by
    rw [← horphaned, ← hs₁]
    simp only [State.unmatch, hw, hx]
  have hr₁ : s₁.entities.get? peer = some
      { r with
        raised := r.raised.insert .subscriptionMatched
        body := .reader { x with matched := x.matched.filter (· ≠ gone) } } := by
    rw [← hs₁, raise_get?, if_pos rfl, hr₀]
    rfl
  have hcalls₁ : s₁.callsOf peer = s.callsOf peer ++ r.callFor peer .subscriptionMatched := by
    rw [← hs₁, raise_callsOf_self hr₀]
    simp only [Record.callFor, hbody]
    rfl
  have hmax : s₁.maxSamples = s.maxSamples := by rw [← hs₁, raise_maxSamples]; rfl
  rw [hfar]
  -- the notice follows only if the writer was the last one
  cases hlast : x.isOrphaned fun g => decide (g = gone) with
  | false =>
      refine ⟨hr₁.trans ?_, hcalls₁.trans ?_⟩
      · simp [Record.bereft, hbody, Body.farewells, Body.bereft, hone, hlast]
      · simp [hbody, Body.farewells, hone, hlast]
  | true =>
      have hb₁ : s₁.BelowSubscriber peer := hs₁ ▸ hb₀.raise _
      obtain ⟨hself, hheard⟩ := notice_self hb₁ hr₁ rfl
      refine ⟨hself.trans ?_, hheard.trans ?_⟩
      · simp [Record.bereft, hbody, Body.farewells, Body.bereft, hone, hlast, hmax]
      · rw [hcalls₁]
        simp [hbody, Body.farewells, hone, hlast, hmax, Record.callFor]

/-- An endpoint that is told that one of its peers is gone. -/
theorem Hears.unmatch (hwf : s.WellFormed) (hr : s.entities.get? peer = some r)
    (hin : gone ∈ r.body.matched) (hnodup : r.body.matched.Nodup) :
    s.Hears (s.unmatch gone peer) peer r fun g => decide (g = gone) := by
  cases hbody : r.body with
  | writer w =>
      rw [hbody] at hin hnodup
      exact .unmatch_writer hr hbody hin hnodup
  | reader x =>
      rw [hbody] at hin hnodup
      exact .unmatch_reader hwf hr hbody hin hnodup
  | _ => simp [hbody, Body.matched] at hin

namespace Hears

variable {p q : Handle → Bool}

theorem trans (hmax : s₁.maxSamples = s.maxSamples) (h₁ : s.Hears s₁ k r p)
    (h₂ : s₁.Hears s' k (r.bereft s.maxSamples p) q) : s.Hears s' k r fun g => p g || q g := by
  constructor
  · rw [h₂.record, hmax, Record.bereft_or]
  · rw [h₂.calls, h₁.calls, hmax, Record.callFor_bereft, Body.farewells_or, List.flatMap_append,
      List.append_assoc]
    rfl

/-- What it does not notice comes before it is told. -/
theorem after_stirs (hmax : s₁.maxSamples = s.maxSamples) (h₁ : s.Stirs s₁ k)
    (h₂ : s₁.Hears s' k r p) : s.Hears s' k r p :=
  ⟨hmax ▸ h₂.record, by rw [h₂.calls, h₁.calls, hmax]⟩

/-- What it does not notice comes after it was told. -/
theorem then_stirs (h₁ : s.Hears s₁ k r p) (h₂ : s₁.Stirs s' k)
    (hbody : ∀ partition, r.body ≠ .subscriber partition) : s.Hears s' k r p :=
  ⟨h₂.get?_eq h₁.record (Record.bereft_ne_subscriber hbody _ _), h₂.calls.trans h₁.calls⟩

/-- Somebody who loses nobody hears nothing. -/
theorem of_stirs (h : s.Stirs s' k) (hr : s.entities.get? k = some r)
    (hbody : ∀ partition, r.body ≠ .subscriber partition)
    (hnone : ∀ g ∈ r.body.matched, p g = false) : s.Hears s' k r p := by
  constructor
  · rw [Record.bereft_of_none hnone]
    exact h.get?_eq hr hbody
  · rw [h.calls, (Body.bereft_of_none hnone).2]
    simp

end Hears

/-! ## Rounds of farewells -/

theorem WellFormed.unmatch (hwf : s.WellFormed) (gone peer : Handle) :
    (s.unmatch gone peer).WellFormed :=
  hwf.of_agree (agree_unmatch stem_ignoresTraffic s gone peer)

theorem WellFormed.unmatchPeers (hwf : s.WellFormed) (doomed : List Handle) (gone : Handle) :
    (s.unmatchPeers doomed gone).WellFormed :=
  hwf.of_agree (agree_unmatchPeers stem_ignoresTraffic s doomed gone)

/-- Somebody whom a round passes over. -/
theorem told_other (hwf : s.WellFormed) (gone : Handle) {peers : List Handle} (hk : k ∉ peers) :
    s.Stirs (peers.foldl (fun s peer => s.unmatch gone peer) s) k := by
  induction peers generalizing s with
  | nil => exact .refl s k
  | cons peer rest ih =>
      obtain ⟨hne, hrest⟩ := not_or.mp (mt List.mem_cons.mpr hk)
      exact (Stirs.unmatch hwf hne gone).trans (ih (hwf.unmatch gone peer) hrest)

/-- Somebody who is told in a round, and in no round twice. -/
theorem told_self (hwf : s.WellFormed) (hr : s.entities.get? k = some r)
    (hin : gone ∈ r.body.matched) (hnodup : r.body.matched.Nodup) {peers : List Handle}
    (hpeers : peers.Nodup) (hk : k ∈ peers) :
    s.Hears (peers.foldl (fun s peer => s.unmatch gone peer) s) k r fun g => decide (g = gone) := by
  have hbody : ∀ partition, r.body ≠ .subscriber partition := by
    intro partition hsub
    simp [hsub, Body.matched] at hin
  induction peers generalizing s with
  | nil => cases hk
  | cons peer rest ih =>
      obtain ⟨hpeer, hrest⟩ := List.nodup_cons.mp hpeers
      by_cases hself : k = peer
      · subst hself
        exact (Hears.unmatch hwf hr hin hnodup).then_stirs
          (told_other (hwf.unmatch gone k) gone hpeer) hbody
      · have hstirs := Stirs.unmatch hwf hself gone
        exact .after_stirs (unmatch_maxSamples s gone peer) hstirs
          (ih (hwf.unmatch gone peer) (hstirs.get?_eq hr hbody) hrest
            ((List.mem_cons.mp hk).resolve_left hself))

/-- While the rounds go on, those that go keep what they remember. -/
theorem unmatchPeers_matchedWith_doomed {doomed : List Handle} (gone : Handle)
    (hdoomed : h ∈ doomed) : (s.unmatchPeers doomed gone).matchedWith h = s.matchedWith h := by
  rw [unmatchPeers_matchedWith, if_neg fun hk => hk.2 hdoomed]

/-- Somebody whom all rounds pass over. -/
theorem unmatchAll_other (hwf : s.WellFormed) {doomed rest : List Handle}
    (hsub : ∀ g ∈ rest, g ∈ doomed) (hk : ∀ g ∈ rest, k ∈ s.matchedWith g → k ∈ doomed) :
    s.Stirs (rest.foldl (fun s g => s.unmatchPeers doomed g) s) k := by
  induction rest generalizing s with
  | nil => exact .refl s k
  | cons gone rest ih =>
      have hover : k ∉ (s.matchedWith gone).filter fun peer => !doomed.contains peer := by
        intro hmem
        obtain ⟨hin, hstays⟩ := List.mem_filter.mp hmem
        have hdoomed := hk gone List.mem_cons_self hin
        simp [hdoomed] at hstays
      refine (told_other hwf gone hover).trans (ih (hwf.unmatchPeers doomed gone) ?_ ?_)
      · exact fun g hg => hsub g (List.mem_cons_of_mem _ hg)
      · intro g hg hin
        have hkept := unmatchPeers_matchedWith_doomed (s := s) gone
          (hsub g (List.mem_cons_of_mem _ hg))
        exact hk g (List.mem_cons_of_mem _ hg) (hkept ▸ hin)

theorem Body.matched_bereft (b : Body) (bound : Nat) (gone : Handle → Bool) :
    (b.bereft bound gone).matched = b.matched.filter fun g => !gone g := by
  cases b <;> rfl

/-- A survivor that is no subscriber was told, after all rounds, which of its peers are gone. -/
theorem unmatchAll_self (hwf : s.WellFormed) (hr : s.entities.get? k = some r)
    (hbody : ∀ partition, r.body ≠ .subscriber partition) {doomed rest : List Handle}
    (hstays : k ∉ doomed) (hsub : ∀ g ∈ rest, g ∈ doomed) (hdistinct : rest.Nodup)
    (hnodup : ∀ g ∈ rest, (s.matchedWith g).Nodup) (hown : r.body.matched.Nodup)
    (hsym : ∀ g ∈ rest, k ∈ s.matchedWith g ↔ g ∈ r.body.matched) :
    s.Hears (rest.foldl (fun s g => s.unmatchPeers doomed g) s) k r
      fun g => decide (g ∈ rest) := by
  induction rest generalizing s r with
  | nil => exact .of_stirs (.refl s k) hr hbody fun g _ => by simp
  | cons gone rest ih =>
      obtain ⟨hgone, hrest⟩ := List.nodup_cons.mp hdistinct
      have hsub' : ∀ g ∈ rest, g ∈ doomed := fun g hg => hsub g (List.mem_cons_of_mem _ hg)
      have hkept : ∀ g ∈ rest, (s.unmatchPeers doomed gone).matchedWith g = s.matchedWith g :=
        fun g hg => unmatchPeers_matchedWith_doomed gone (hsub' g hg)
      have hmax : (s.unmatchPeers doomed gone).maxSamples = s.maxSamples :=
        (agree_unmatchPeers profile_ignoresTraffic s doomed gone).maxSamples_eq
      -- the first round tells it of the first one that goes, if that was a peer
      have hfirst : s.Hears (s.unmatchPeers doomed gone) k r fun g => decide (g = gone) := by
        by_cases hin : gone ∈ r.body.matched
        · have htold : k ∈ (s.matchedWith gone).filter fun peer => !doomed.contains peer :=
            List.mem_filter.mpr ⟨(hsym gone List.mem_cons_self).mpr hin, by simpa using hstays⟩
          exact told_self hwf hr hin hown ((hnodup gone List.mem_cons_self).filter _) htold
        · have hover : k ∉ (s.matchedWith gone).filter fun peer => !doomed.contains peer :=
            fun hmem => hin ((hsym gone List.mem_cons_self).mp (List.mem_filter.mp hmem).1)
          refine .of_stirs (told_other hwf gone hover) hr hbody fun g hg => ?_
          simp only [decide_eq_false_iff_not]
          rintro rfl
          exact hin hg
      have hothers := ih (hwf.unmatchPeers doomed gone) hfirst.record
        (Record.bereft_ne_subscriber hbody _ _) hsub' hrest
        (fun g hg => hkept g hg ▸ hnodup g (List.mem_cons_of_mem _ hg)) ?_ fun g hg => ?_
      · have hall : (fun g => decide (g ∈ gone :: rest)) =
            fun g => decide (g = gone) || decide (g ∈ rest) := by
          funext g
          simp
        rw [hall]
        exact hfirst.trans hmax hothers
      · show ((r.body.bereft _ _).matched).Nodup
        rw [Body.matched_bereft]
        exact hown.filter _
      · have hne : g ≠ gone := fun e => hgone (e ▸ hg)
        show _ ↔ g ∈ (r.body.bereft _ _).matched
        rw [hkept g hg, hsym g (List.mem_cons_of_mem _ hg), Body.matched_bereft, List.mem_filter]
        simp [hne]

end State

end DdsBridge.Provider
