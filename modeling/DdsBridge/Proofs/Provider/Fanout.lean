import DdsBridge.Proofs.Provider.Calls

/-!
# Whom a write reaches

A write goes through the readers that the writer remembers, one after the other, while each of them
changes the state that the next one finds. In the end the order cannot be told from the entities:
every compatible reader was offered the sample once, the subscribers of those that accepted it are
told, and nobody else notices anything. Only the listener calls come in order.

* **`Record.offered`**, **`Reader.verdict`**, **`Reader.calls`** — what one offer does to a reader.
* **`State.spread`** — what offers to a list of readers do to every entity, **`offer_spread`** for
  one reader and **`foldl_offer_spread`** for the list.
* **`State.FansOut`**, **`write_fans_out`** — a whole write.
-/

namespace DdsBridge.Provider

/-! ## One reader that is offered a sample -/

/-- The status that a sample raises on a reader that is offered it. -/
def Reader.verdict (bound : Nat) (x : Sample) (y : Reader) : StatusKind :=
  if (State.enqueue y.qos.history bound y.queue x).isSome then .dataAvailable else .sampleRejected

/-- A reader that was offered a sample, once. -/
def Record.offered (bound : Nat) (x : Sample) (r : Record) : Record :=
  match r.body with
  | .reader y =>
    { r with
      raised := r.raised.insert (y.verdict bound x)
      body := .reader { y with
        queue := (State.enqueue y.qos.history bound y.queue x).getD y.queue } }
  | _ => r

/-- The listener call that is due once a reader was offered a sample: one if its listener asked for
the status that the sample raises, and none otherwise. -/
def Reader.calls (bound : Nat) (h : Handle) (x : Sample) (y : Reader) : List Call :=
  match y.listener with
  | some (listener, mask) =>
    if mask.contains (y.verdict bound x) then [⟨listener, h, y.verdict bound x⟩] else []
  | none => []

theorem Reader.callFor_eq_calls {r : Record} {y : Reader} (hy : r.body = .reader y) (bound : Nat)
    (h : Handle) (x : Sample) : r.callFor h (y.verdict bound x) = y.calls bound h x := by
  unfold Record.callFor
  rw [hy]
  rfl

theorem Reader.verdict_eq_dataAvailable_iff {bound : Nat} {x : Sample} {y : Reader} :
    y.verdict bound x = .dataAvailable ↔
      (State.enqueue y.qos.history bound y.queue x).isSome = true := by
  unfold verdict
  split <;> simp_all

namespace State

variable {s s' : State} {h k w : Handle} {r : Record} {y : Reader}

/-- What an entity was created on. -/
def parentOf (s : State) (h : Handle) : Option Handle := (s.entities.get? h).bind Record.parent

/-- A reader below a subscriber accepts a sample. -/
def tells (s : State) (readers : List Handle) (x : Sample) (g : Handle) : Bool :=
  readers.any fun h => decide (s.parentOf h = some g) && s.accepts h x

/-- What an entity is once some readers were offered a sample. -/
def spread (s : State) (readers : List Handle) (x : Sample) (k : Handle) (r : Record) : Record :=
  if k ∈ readers then r.offered s.maxSamples x
  else if s.tells readers x k then r.rouse
  else r

/-- The listener call that is due once a reader was offered a sample. -/
def callsFor (s : State) (x : Sample) (h : Handle) : List Call :=
  (s.reader? h).elim [] (Reader.calls s.maxSamples h x)

theorem parentOf_eq (hr : s.entities.get? h = some r) : s.parentOf h = r.parent := by
  rw [parentOf, hr]
  rfl

theorem accepts_of_reader? (hy : s.reader? h = some y) (x : Sample) :
    s.accepts h x = (enqueue y.qos.history s.maxSamples y.queue x).isSome := by
  obtain ⟨rejected, hbox⟩ := inbox_of_reader? hy
  rw [accepts, hbox]
  rfl

theorem tells_singleton (x : Sample) (g : Handle) :
    s.tells [h] x g = (decide (s.parentOf h = some g) && s.accepts h x) := by
  simp [tells]

theorem tells_cons (readers : List Handle) (x : Sample) (g : Handle) :
    s.tells (h :: readers) x g = (s.tells [h] x g || s.tells readers x g) := by
  simp [tells]

theorem raise_calls (hr : s.entities.get? h = some r) (kind : StatusKind) :
    (s.raise h kind).calls = s.calls ++ r.callFor h kind := by
  unfold raise
  rw [hr]

/-- Readers are created on subscribers, so nobody else is told of what they accept. -/
theorem WellFormed.tells_other (hwf : s.WellFormed) (hr : s.entities.get? k = some r)
    (hbody : ∀ partition, r.body ≠ .subscriber partition) {readers : List Handle}
    (hlive : ∀ h ∈ readers, ∃ y, s.reader? h = some y) (x : Sample) :
    s.tells readers x k = false := by
  refine List.any_eq_false.mpr fun h hh htold => ?_
  rw [Bool.and_eq_true, decide_eq_true_eq] at htold
  obtain ⟨y, hy⟩ := hlive h hh
  obtain ⟨-, rg, partition, hrg, hsub⟩ := hwf.belowSubscriber hy k htold.1
  obtain rfl := Option.some.inj (hr.symm.trans hrg)
  exact hbody partition hsub

theorem WellFormed.tells_reader (hwf : s.WellFormed) (hy : s.reader? k = some y)
    {readers : List Handle} (hlive : ∀ h ∈ readers, ∃ y, s.reader? h = some y) (x : Sample) :
    s.tells readers x k = false := by
  obtain ⟨r, hr, hbody⟩ := reader?_eq_some_iff.mp hy
  exact hwf.tells_other hr (fun partition hsub => by rw [hbody] at hsub; cases hsub) hlive x

theorem not_mem_of_no_reader (hr : s.entities.get? k = some r) (hbody : ∀ y, r.body ≠ .reader y)
    {readers : List Handle} (hlive : ∀ h ∈ readers, ∃ y, s.reader? h = some y) : k ∉ readers := by
  intro hk
  obtain ⟨y, hy⟩ := hlive k hk
  exact hbody y (body_of_reader? hy hr)

/-- What is neither a reader nor a subscriber feels nothing. -/
theorem WellFormed.spread_other (hwf : s.WellFormed) (hr : s.entities.get? k = some r)
    (hreader : ∀ y, r.body ≠ .reader y) (hsub : ∀ partition, r.body ≠ .subscriber partition)
    {readers : List Handle} (hlive : ∀ h ∈ readers, ∃ y, s.reader? h = some y) (x : Sample) :
    s.spread readers x k r = r := by
  rw [spread, if_neg (not_mem_of_no_reader hr hreader hlive), hwf.tells_other hr hsub hlive]
  rfl

/-! ## One offer -/

/-- A sample that a reader keeps: its queue and its status change, and its subscriber is told. -/
theorem keep_get? (hb : s.BelowSubscriber h) (hr : s.entities.get? h = some r)
    (hy : r.body = .reader y) (queue : List Sample) (k : Handle) :
    ((s.modifyReader h fun y => { y with queue }).announce h).entities.get? k =
      if k = h then
        some { r with
          raised := r.raised.insert .dataAvailable
          body := .reader { y with queue } }
      else if r.parent = some k then (s.entities.get? k).map Record.rouse
      else s.entities.get? k := by
  have hput : ∀ j, (s.modifyReader h fun y => { y with queue }).entities.get? j =
      if j = h then some { r with body := .reader { y with queue } }
      else s.entities.get? j := by
    intro j
    rw [modifyReader, modifyEntity_get?]
    split
    · rename_i hj
      rw [hj, hr, Option.map_some, hy]
    · rfl
  unfold announce
  rw [hput h, if_pos rfl, Option.bind_some]
  cases hparent : r.parent with
  | none =>
      simp only [raise_get?, hput, reduceCtorEq, if_false]
      by_cases hk : k = h
      · simp [hk, hparent]
      · simp [hk]
  | some g =>
      -- the reader and its subscriber are two entities
      have hne : g ≠ h := (hb g (by rw [hr]; exact hparent)).1
      simp only [raise_get?, hput, Option.some.injEq]
      by_cases hk : k = h
      · simp [hk, hne.symm, hparent]
      · by_cases hg : k = g
        · simp only [hg, hne, if_false, if_true]
          rfl
        · simp [hk, hg, Ne.symm hg]

/-- One offer is felt by the reader and, if it accepts the sample, by its subscriber. -/
theorem offer_spread (hwf : s.WellFormed) (hy : s.reader? h = some y) (x : Sample) (k : Handle) :
    (s.offer h x).entities.get? k = (s.entities.get? k).map (s.spread [h] x k) := by
  obtain ⟨r, hr, hbody⟩ := reader?_eq_some_iff.mp hy
  have haccepts := accepts_of_reader? hy x
  have hverdict : y.verdict s.maxSamples x =
      if s.accepts h x then .dataAvailable else .sampleRejected := by
    rw [haccepts]
    rfl
  -- for one reader, spreading is its own change and one to what it was created on
  have hspread : s.spread [h] x k = fun r₀ =>
      if k = h then r₀.offered s.maxSamples x
      else if r.parent = some k ∧ s.accepts h x = true then r₀.rouse
      else r₀ := by
    funext r₀
    simp [spread, tells_singleton, parentOf_eq hr]
  rw [hspread]
  unfold State.offer
  rw [hy]
  dsimp only
  cases hq : enqueue y.qos.history s.maxSamples y.queue x with
  | none =>
      rw [hq, Option.isSome_none] at haccepts
      rw [raise_get?]
      by_cases hk : k = h
      · subst hk
        simp [hr, Record.offered, hbody, hverdict, haccepts, hq]
      · simp [hk, haccepts]
  | some queue =>
      rw [hq, Option.isSome_some] at haccepts
      refine (keep_get? (hwf.belowSubscriber hy) hr hbody queue k).trans ?_
      by_cases hk : k = h
      · subst hk
        simp [hr, Record.offered, hbody, hverdict, haccepts, hq]
      · by_cases hparent : r.parent = some k
        · simp only [hk, hparent, haccepts, if_false, if_true, and_self]
        · simp [hk, hparent]

/-- One offer makes the call due that the reader's listener asked for. -/
theorem offer_calls (hwf : s.WellFormed) (hy : s.reader? h = some y) (x : Sample) :
    (s.offer h x).calls = s.calls ++ s.callsFor x h := by
  obtain ⟨r, hr, hbody⟩ := reader?_eq_some_iff.mp hy
  have hcalls : s.callsFor x h = r.callFor h (y.verdict s.maxSamples x) := by
    rw [Reader.callFor_eq_calls hbody, callsFor, hy]
    rfl
  rw [hcalls]
  unfold State.offer Reader.verdict
  rw [hy]
  dsimp only
  cases hq : enqueue y.qos.history s.maxSamples y.queue x with
  | none => exact raise_calls hr _
  | some queue =>
      have hput : (s.modifyReader h fun y => { y with queue }).entities.get? h =
          some { r with body := .reader { y with queue } } := by
        rw [modifyReader, modifyEntity_get?, if_pos rfl, hr, Option.map_some, hbody]
      have hraised : ((s.modifyReader h fun y => { y with queue }).raise h .dataAvailable).calls =
          s.calls ++ r.callFor h .dataAvailable := by
        rw [raise_calls hput]
        simp only [Record.callFor, hbody]
        rfl
      dsimp only
      unfold announce
      rw [hput, Option.bind_some]
      dsimp only
      cases hparent : r.parent with
      | none => exact hraised
      | some g =>
          -- subscribers have no listeners
          obtain ⟨hne, rg, partition, hrg, hsub⟩ :=
            hwf.belowSubscriber hy g (by rw [hr]; exact hparent)
          have hrg' : ((s.modifyReader h fun y => { y with queue }).raise h
              .dataAvailable).entities.get? g = some rg := by
            rw [raise_get?, if_neg hne, modifyReader, modifyEntity_get?, if_neg hne, hrg]
          dsimp only
          rw [raise_calls hrg', hraised]
          simp [Record.callFor, hsub]

/-! ## Offers to several readers -/

/-- A reader that is not offered the sample is as before. -/
theorem offer_reader_other (hwf : s.WellFormed) (hy : s.reader? h = some y) {z : Reader}
    (hz : s.reader? k = some z) (hne : k ≠ h) (x : Sample) :
    (s.offer h x).entities.get? k = s.entities.get? k := by
  have hquiet : s.tells [h] x k = false :=
    hwf.tells_reader hz (fun j hj => List.mem_singleton.mp hj ▸ ⟨y, hy⟩) x
  have hsame : s.spread [h] x k = id := by
    funext r
    simp [spread, hne, hquiet]
  rw [offer_spread hwf hy, hsame, Option.map_id]
  rfl

theorem reader?_congr (hget : s'.entities.get? k = s.entities.get? k) :
    s'.reader? k = s.reader? k := by
  unfold reader?
  rw [hget]

/-- What a reader does with a sample depends on the reader alone. -/
theorem tells_congr {readers : List Handle}
    (hget : ∀ h ∈ readers, s'.entities.get? h = s.entities.get? h)
    (hmax : s'.maxSamples = s.maxSamples) (x : Sample) (g : Handle) :
    s'.tells readers x g = s.tells readers x g := by
  have hsame : ∀ h ∈ readers, (decide (s'.parentOf h = some g) && s'.accepts h x) =
      (decide (s.parentOf h = some g) && s.accepts h x) := by
    intro h hh
    have hinbox : s'.inbox h = s.inbox h := by rw [inbox, inbox, hget h hh]
    rw [parentOf, parentOf, hget h hh, accepts_congr hinbox hmax]
  rw [Bool.eq_iff_iff]
  simp only [tells, List.any_eq_true]
  refine exists_congr fun h => and_congr_right fun hh => ?_
  rw [hsame h hh]

theorem callsFor_congr (hget : s'.entities.get? h = s.entities.get? h)
    (hmax : s'.maxSamples = s.maxSamples) (x : Sample) : s'.callsFor x h = s.callsFor x h := by
  rw [callsFor, callsFor, reader?_congr hget, hmax]

theorem WellFormed.offer (hwf : s.WellFormed) (h : Handle) (x : Sample) :
    (s.offer h x).WellFormed :=
  hwf.of_agree (agree_offer stem_ignoresTraffic.raised stem_ignoresTraffic.queue s h x)

/-- Offers to one reader and then to others are offers to all of them. -/
theorem spread_cons (hwf : s.WellFormed) {readers : List Handle} (hh : h ∉ readers)
    (hlive : ∀ j ∈ h :: readers, ∃ y, s.reader? j = some y) (x : Sample) (k : Handle)
    (r : Record) :
    s.spread readers x k (s.spread [h] x k r) = s.spread (h :: readers) x k r := by
  have hrest : ∀ j ∈ readers, ∃ y, s.reader? j = some y := fun j hj =>
    hlive j (List.mem_cons_of_mem h hj)
  have hquiet : k ∈ h :: readers → s.tells (h :: readers) x k = false := fun hk =>
    let ⟨_, hy⟩ := hlive k hk
    hwf.tells_reader hy hlive x
  rw [tells_cons] at hquiet
  simp only [spread, List.mem_cons, List.not_mem_nil, or_false, tells_cons readers] at hquiet ⊢
  by_cases hk : k = h
  · subst hk
    obtain ⟨-, hothers⟩ := Bool.or_eq_false_iff.mp (hquiet (.inl rfl))
    simp [hh, hothers]
  · by_cases hmem : k ∈ readers
    · obtain ⟨hfirst, -⟩ := Bool.or_eq_false_iff.mp (hquiet (.inr hmem))
      simp [hk, hmem, hfirst]
    · cases hfirst : s.tells [h] x k <;> cases hothers : s.tells readers x k <;>
        simp [hk, hmem, Record.rouse_rouse]

/-- Offers to distinct readers, one after the other, are felt as if they were made at once. -/
theorem foldl_offer_spread (hwf : s.WellFormed) {readers : List Handle} (hnodup : readers.Nodup)
    (hlive : ∀ h ∈ readers, ∃ y, s.reader? h = some y) (x : Sample) :
    (∀ k, (readers.foldl (fun s h => s.offer h x) s).entities.get? k =
      (s.entities.get? k).map (s.spread readers x k)) ∧
    (readers.foldl (fun s h => s.offer h x) s).calls =
      s.calls ++ readers.flatMap (s.callsFor x) := by
  induction readers generalizing s with
  | nil =>
      have hnobody : ∀ k, s.spread [] x k = id := fun k => rfl
      exact ⟨fun k => by rw [hnobody, Option.map_id]; rfl, by simp⟩
  | cons h rest ih =>
      obtain ⟨hh, hrest⟩ := List.nodup_cons.mp hnodup
      obtain ⟨y, hy⟩ := hlive h List.mem_cons_self
      -- the readers still to come are as they were before the first offer
      have hkept : ∀ j ∈ rest, (s.offer h x).entities.get? j = s.entities.get? j := by
        intro j hj
        obtain ⟨z, hz⟩ := hlive j (List.mem_cons_of_mem h hj)
        exact offer_reader_other hwf hy hz (fun hjh => hh (hjh ▸ hj)) x
      have hmax := offer_maxSamples s h x
      obtain ⟨hget, hcalls⟩ := ih (hwf.offer h x) hrest fun j hj => by
        rw [reader?_congr (hkept j hj)]
        exact hlive j (List.mem_cons_of_mem h hj)
      constructor
      · intro k
        have hspread : (s.offer h x).spread rest x k = s.spread rest x k := by
          funext r
          rw [spread, spread, tells_congr hkept hmax, hmax]
        rw [List.foldl_cons, hget, hspread, offer_spread hwf hy, Option.map_map]
        exact congrArg (fun f => (s.entities.get? k).map f)
          (funext fun r => spread_cons hwf hh hlive x k r)
      · have hothers : rest.flatMap ((s.offer h x).callsFor x) = rest.flatMap (s.callsFor x) := by
          have hmap := List.map_congr_left fun j hj => callsFor_congr (hkept j hj) hmax x
          rw [List.flatMap_def, List.flatMap_def, hmap]
        rw [List.foldl_cons, hcalls, offer_calls hwf hy, hothers, List.flatMap_cons,
          List.append_assoc]

/-! ## What offers leave alone -/

/-- Two states differ in entities and in listener calls that are due, and in nothing else. -/
def OnlyTraffic (s s' : State) : Prop := s' = { s with entities := s'.entities, calls := s'.calls }

namespace OnlyTraffic

theorem refl (s : State) : s.OnlyTraffic s := rfl

theorem trans {s'' : State} (h : s.OnlyTraffic s') (h' : s'.OnlyTraffic s'') :
    s.OnlyTraffic s'' :=
  Eq.trans h' (congrArg
    (fun t : State => { t with entities := s''.entities, calls := s''.calls }) h)

theorem foldl {α : Type} {f : State → α → State} (hf : ∀ s a, OnlyTraffic s (f s a))
    (s : State) (as : List α) : s.OnlyTraffic (as.foldl f s) := by
  induction as generalizing s with
  | nil => exact refl s
  | cons a rest ih => exact (hf s a).trans (ih (f s a))

theorem raise (s : State) (h : Handle) (kind : StatusKind) : s.OnlyTraffic (s.raise h kind) := by
  unfold State.raise
  split <;> rfl

theorem announce (s : State) (h : Handle) : s.OnlyTraffic (s.announce h) := by
  unfold State.announce
  dsimp only
  split
  · exact (raise s h _).trans (raise _ _ _)
  · exact raise s h _

theorem offer (s : State) (h : Handle) (x : Sample) : s.OnlyTraffic (s.offer h x) := by
  unfold State.offer
  split
  · exact refl s
  · split
    · exact raise s h _
    · exact trans (rfl : s.OnlyTraffic (s.modifyReader h fun y => { y with queue := _ }))
        (announce _ h)

end OnlyTraffic

/-! ## A write -/

/-- A reader below a subscriber is compatible with a writer and accepts a sample. -/
def Told (s : State) (w : Handle) (x : Sample) (g : Handle) : Prop :=
  ∃ h y, s.reader? h = some y ∧ s.parentOf h = some g ∧ s.Compatible w h ∧
    y.verdict s.maxSamples x = .dataAvailable

/-- A write changes the readers that are compatible with the writer, the subscribers of those that
accept the sample, the history of a durable writer and the calls that are due, and nothing else. -/
structure FansOut (s s' : State) (w : Handle) (x : Writer) (payload : List UInt8) : Prop where
  /-- Every compatible reader is offered the sample once, every other one is left alone. -/
  reader : ∀ {h r y}, s.entities.get? h = some r → r.body = .reader y →
    (s.Compatible w h → s'.entities.get? h = some (r.offered s.maxSamples ⟨payload, .valid w⟩)) ∧
    (¬s.Compatible w h → s'.entities.get? h = some r)
  /-- A subscriber is told exactly if a compatible reader below it accepts the sample. -/
  subscriber : ∀ {g r partition}, s.entities.get? g = some r → r.body = .subscriber partition →
    (s.Told w ⟨payload, .valid w⟩ g → s'.entities.get? g = some r.rouse) ∧
    (¬s.Told w ⟨payload, .valid w⟩ g → s'.entities.get? g = some r)
  /-- A durable writer keeps the last payloads, this one included. -/
  writer : ∀ {r}, s.entities.get? w = some r →
    s'.entities.get? w = some { r with
      body := .writer { x with
        history :=
          if x.qos.durability.isDurable then
            (x.history ++ [payload]).drop
              (x.history.length + 1 - x.qos.history.capacity s.maxSamples)
          else x.history } }
  /-- All other entities stay as they are. -/
  rest : ∀ {h r}, s.entities.get? h = some r → h ≠ w → (∀ y, r.body ≠ .reader y) →
    (∀ partition, r.body ≠ .subscriber partition) → s'.entities.get? h = some r
  /-- No entity comes or goes. -/
  keys : s'.entities.keys = s.entities.keys
  /-- Nobody gains or loses a peer. -/
  matched : ∀ h, s'.matchedWith h = s.matchedWith h
  /-- The listeners of the compatible readers are called in ascending order of the readers. -/
  calls : s'.calls = s.calls ++ x.matched.flatMap (s.callsFor ⟨payload, .valid w⟩) ∧
    x.matched.Pairwise (fun a b => a.id < b.id) ∧ ∀ h, h ∈ x.matched ↔ s.Compatible w h
  /-- Conditions, wait sets and settings stay as they are. -/
  beside : s' = { s with entities := s'.entities, calls := s'.calls }

/-- A live writer can write. -/
theorem write_eq (hwf : s.WellFormed) {x : Writer} (hx : s.writer? w = some x)
    (payload : List UInt8) :
    s.write w payload = succeed (x.matched.foldl (fun s h => s.offer h ⟨payload, .valid w⟩)
      (s.modifyWriter w fun x =>
        { x with history := remember x.qos s.maxSamples x.history payload })) () := by
  obtain ⟨r, hget⟩ := hwf.get_of_writer? hx
  unfold State.write
  rw [hget, hx]
  rfl

theorem announce_keys (s : State) (r : Handle) : (s.announce r).entities.keys = s.entities.keys := by
  unfold announce
  dsimp only
  split
  · rw [raise_keys, raise_keys]
  · exact raise_keys ..

theorem offer_keys (s : State) (r : Handle) (x : Sample) :
    (s.offer r x).entities.keys = s.entities.keys := by
  unfold offer
  split
  · rfl
  · split
    · exact raise_keys ..
    · exact (announce_keys _ r).trans (Table.keys_modify ..)

/-- A write leaves the entities listed as they were. -/
theorem write_keys {payload : List UInt8} (hok : s.write w payload = (.ok (), s')) :
    s'.entities.keys = s.entities.keys := by
  obtain ⟨x, -, rfl⟩ := write_eq_ok hok
  have hoffers : ∀ (readers : List Handle) (t : State),
      (readers.foldl (fun s r => s.offer r ⟨payload, .valid w⟩) t).entities.keys =
        t.entities.keys := by
    intro readers
    induction readers with
    | nil => exact fun _ => rfl
    | cons r rest ih => exact fun t => (ih _).trans (offer_keys t r _)
  exact (hoffers x.matched _).trans (Table.keys_modify ..)

/-- What a write does to every entity and to the calls that are due. -/
theorem write_spread (hwf : s.WellFormed) (hm : s.Matching) {x : Writer}
    (hx : s.writer? w = some x) {payload : List UInt8} (hok : s.write w payload = (.ok (), s')) :
    (∀ k, k ≠ w → s'.entities.get? k =
      (s.entities.get? k).map (s.spread x.matched ⟨payload, .valid w⟩ k)) ∧
    (∀ {r}, s.entities.get? w = some r → s'.entities.get? w = some { r with
      body := .writer { x with history := remember x.qos s.maxSamples x.history payload } }) ∧
    s'.calls = s.calls ++ x.matched.flatMap (s.callsFor ⟨payload, .valid w⟩) := by
  obtain ⟨-, hok⟩ := succeed_eq_ok.mp ((write_eq hwf hx payload).symm.trans hok)
  generalize hkeeps : (s.modifyWriter w fun x =>
    { x with history := remember x.qos s.maxSamples x.history payload }) = s₀ at hok
  have hmatched := matchedWith_of_writer? hx
  have hget₀ : ∀ k, k ≠ w → s₀.entities.get? k = s.entities.get? k := fun k hk => by
    rw [← hkeeps, modifyWriter, modifyEntity_get?, if_neg hk]
  have hmax₀ : s₀.maxSamples = s.maxSamples := by rw [← hkeeps]; rfl
  have hcalls₀ : s₀.calls = s.calls := by rw [← hkeeps]; rfl
  have hwf₀ : s₀.WellFormed := by
    have hagree : Agree Record.stem s s₀ := hkeeps ▸
      agree_modifyWriter s w fun r x hb => by simp [Record.stem, Record.profile, hb, Body.role]
    exact hwf.of_agree hagree
  -- a writer is no reader, so that its new history is none of the readers' business
  have hsame : ∀ h ∈ x.matched, s₀.entities.get? h = s.entities.get? h := fun h hh =>
    hget₀ h (hm.reader_of_matched hwf hx hh).1
  have hlive₀ : ∀ h ∈ x.matched, ∃ y, s₀.reader? h = some y := fun h hh => by
    rw [reader?_congr (hsame h hh)]
    exact (hm.reader_of_matched hwf hx hh).2
  obtain ⟨hget, hcalls⟩ := foldl_offer_spread hwf₀ (hmatched ▸ (hm.ascending w).nodup) hlive₀
    ⟨payload, .valid w⟩
  rw [hok] at hget hcalls
  refine ⟨fun k hk => ?_, fun {r} hr => ?_, ?_⟩
  · have hspread : s₀.spread x.matched ⟨payload, .valid w⟩ k =
        s.spread x.matched ⟨payload, .valid w⟩ k := by
      funext r
      rw [spread, spread, tells_congr hsame hmax₀, hmax₀]
    rw [hget, hget₀ k hk, hspread]
  · have hself : s₀.entities.get? w = some { r with
        body := .writer { x with history := remember x.qos s.maxSamples x.history payload } } := by
      rw [← hkeeps, modifyWriter, modifyEntity_get?, if_pos rfl, hr, Option.map_some,
        body_of_writer? hx hr]
    rw [hget, hself, Option.map_some]
    exact congrArg some
      (hwf₀.spread_other hself (fun _ h => by cases h) (fun _ h => by cases h) hlive₀ _)
  · have hothers : x.matched.flatMap (s₀.callsFor ⟨payload, .valid w⟩) =
        x.matched.flatMap (s.callsFor ⟨payload, .valid w⟩) := by
      have hmap := List.map_congr_left fun h hh =>
        callsFor_congr (hsame h hh) hmax₀ ⟨payload, .valid w⟩
      rw [List.flatMap_def, List.flatMap_def, hmap]
    rw [hcalls, hcalls₀, hothers]

theorem tells_iff {x : Writer} (hm : ∀ h, h ∈ x.matched ↔ s.Compatible w h)
    (hlive : ∀ h ∈ x.matched, ∃ y, s.reader? h = some y) {sample : Sample} {g : Handle} :
    s.tells x.matched sample g = true ↔ s.Told w sample g := by
  simp only [tells, Told, List.any_eq_true, Bool.and_eq_true, decide_eq_true_eq]
  refine exists_congr fun h => ?_
  constructor
  · rintro ⟨hh, hparent, haccepts⟩
    obtain ⟨y, hy⟩ := hlive h hh
    rw [accepts_of_reader? hy] at haccepts
    exact ⟨y, hy, hparent, (hm h).mp hh, Reader.verdict_eq_dataAvailable_iff.mpr haccepts⟩
  · rintro ⟨y, hy, hparent, hcompatible, hverdict⟩
    refine ⟨(hm h).mpr hcompatible, hparent, ?_⟩
    rw [accepts_of_reader? hy]
    exact Reader.verdict_eq_dataAvailable_iff.mp hverdict

/-- In every reachable state a live writer can write, and a write reaches every compatible reader
once and changes nothing else but the writer's own history. -/
theorem write_fans_out {isFile : String → Bool} (hreach : Reachable isFile s) {x : Writer}
    (hx : s.writer? w = some x) (payload : List UInt8) :
    ∃ s', s.perform isFile (.write w payload) = (.done, s') ∧ s.FansOut s' w x payload := by
  have hwf := wellFormed_of_reachable hreach
  have hm := matching_of_reachable hreach
  obtain ⟨s', hok⟩ : ∃ s', s.write w payload = (.ok (), s') := ⟨_, write_eq hwf hx payload⟩
  refine ⟨s', by rw [perform, hok]; rfl, ?_⟩
  have hcompatible := hm.mem_matched_iff hwf hx
  have hlive : ∀ h ∈ x.matched, ∃ y, s.reader? h = some y := fun h hh =>
    (hm.reader_of_matched hwf hx hh).2
  obtain ⟨hget, hself, hcalls⟩ := write_spread hwf hm hx hok
  have hagree := agree_write hok
  -- nobody but the writer has its handle
  have hne : ∀ {h r}, s.entities.get? h = some r → (∀ z, r.body ≠ .writer z) → h ≠ w := by
    rintro h r hr hother rfl
    exact hother x (body_of_writer? hx hr)
  constructor
  · intro h r y hr hbody
    have hreader : s.reader? h = some y := reader?_eq_some_iff.mpr ⟨r, hr, hbody⟩
    have hquiet := hwf.tells_reader hreader hlive ⟨payload, .valid w⟩
    rw [hget h (hne hr fun z hz => by rw [hbody] at hz; cases hz), hr, Option.map_some, spread,
      hquiet]
    constructor
    · intro hc
      rw [if_pos ((hcompatible h).mpr hc)]
    · intro hc
      rw [if_neg fun hh => hc ((hcompatible h).mp hh)]
      rfl
  · intro g r partition hr hbody
    have hout := not_mem_of_no_reader hr (fun y hy => by rw [hbody] at hy; cases hy) hlive
    rw [hget g (hne hr fun z hz => by rw [hbody] at hz; cases hz), hr, Option.map_some, spread,
      if_neg hout]
    have htold : s.tells x.matched ⟨payload, .valid w⟩ g = true ↔ s.Told w ⟨payload, .valid w⟩ g :=
      tells_iff hcompatible hlive
    constructor
    · intro h
      rw [if_pos (htold.mpr h)]
    · intro h
      rw [if_neg fun ht => h (htold.mp ht)]
  · intro r hr
    rw [hself hr]
    simp only [remember, List.length_append, List.length_singleton]
  · intro h r hr hw hreader hsub
    rw [hget h hw, hr, Option.map_some]
    exact congrArg some (hwf.spread_other hr hreader hsub hlive _)
  · exact write_keys hok
  · exact hagree.matchedWith
  · exact ⟨hcalls, matchedWith_of_writer? hx ▸ hm.ascending w, hcompatible⟩
  · obtain ⟨-, hok⟩ := succeed_eq_ok.mp ((write_eq hwf hx payload).symm.trans hok)
    have hkeeps : s.OnlyTraffic (s.modifyWriter w fun x =>
        { x with history := remember x.qos s.maxSamples x.history payload }) := rfl
    exact hok ▸ hkeeps.trans (.foldl (fun s h => .offer s h _) _ _)

/-- The chat, in which the reader has a listener that asks for available data. -/
def heardRun : List Operation :=
  chatRun ++ [.setListener ⟨6⟩ (some .channel) (.ofKind .dataAvailable)]

theorem write_fans_out_chat :
    Reachable (fun _ => false) (new.run (fun _ => false) heardRun) ∧
      (new.run (fun _ => false) heardRun).writer? ⟨5⟩ =
        some ⟨⟨2⟩, .writerDefault, [⟨6⟩], []⟩ ∧
      ∃ s', (new.run (fun _ => false) heardRun).perform (fun _ => false) (.write ⟨5⟩ [42]) =
          (.done, s') ∧
        (new.run (fun _ => false) heardRun).FansOut s' ⟨5⟩ ⟨⟨2⟩, .writerDefault, [⟨6⟩], []⟩ [42] ∧
        s'.calls = [⟨.channel, ⟨6⟩, .dataAvailable⟩] := by
  have hreach : Reachable (fun _ => false) (new.run (fun _ => false) heardRun) :=
    reachable_run (.new _) heardRun
  have hwriter : (new.run (fun _ => false) heardRun).writer? ⟨5⟩ =
      some ⟨⟨2⟩, .writerDefault, [⟨6⟩], []⟩ := by decide
  obtain ⟨s', hdone, hfans⟩ := write_fans_out hreach hwriter [42]
  exact ⟨hreach, hwriter, s', hdone, hfans, hfans.calls.1.trans (by decide)⟩

end State

end DdsBridge.Provider
