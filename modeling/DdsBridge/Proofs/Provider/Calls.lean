import DdsBridge.Proofs.Provider.Cleanup

/-!
# Listener calls and accepted samples

A listener that asked for available data alone is called once for each sample that its reader
accepts, and for nothing else: not for a sample that is refused, not for a match or an unmatch, and
not for what happens to other readers.

* **`Inbox.accepted`**, **`State.accepted`** — the samples that a reader accepts of those that an
  operation offers it.
* **`State.listenerOf`**, **`State.Attentive`** — the listener of a reader, and that it asked for
  available data alone.
* **`State.Rings`** — the listener of a reader is called a number of times; **`Rings.offer`**,
  **`Rings.write`**, **`Rings.discover`**, **`rings_told`** for what offers samples.
* **`State.Heard`**, **`perform_heard`** — every operation but the one that sets a listener;
  **`setListener_listenerOf`** for that.
-/

namespace DdsBridge.Provider

/-- Whether an inbox accepts a sample. -/
def Inbox.accepts (bound : Nat) (b : Inbox) (x : Sample) : Bool :=
  (State.enqueue b.qos.history bound b.queue x).isSome

/-- The samples that an inbox accepts of those that it is offered, one after the other. -/
def Inbox.accepted (bound : Nat) : Inbox → List Sample → List Sample
  | _, [] => []
  | b, x :: rest =>
    (if b.accepts bound x then [x] else []) ++ Inbox.accepted bound (b.offer bound x) rest

/-- The listener of a reader, with the statuses it wants. -/
def Record.listener? (r : Record) : Option (Listener × StatusMask) :=
  match r.body with
  | .reader x => x.listener
  | _ => none

theorem Record.callFor_eq (r : Record) (h : Handle) (kind : StatusKind) :
    r.callFor h kind =
      match r.listener? with
      | some (listener, mask) => if mask.contains kind then [⟨listener, h, kind⟩] else []
      | none => [] := by
  obtain ⟨_, _, _, _, _, _, body⟩ := r
  cases body <;> rfl

namespace State

variable {s s' s₁ : State} {k h w r : Handle} {n m : Nat}

/-- The listener of a live reader, with the statuses it wants. -/
def listenerOf (s : State) (k : Handle) : Option (Listener × StatusMask) :=
  (s.entities.get? k).bind Record.listener?

/-- The listener of a reader asked for available data alone. -/
def Attentive (s : State) (k : Handle) : Prop :=
  ∀ listener mask, s.listenerOf k = some (listener, mask) → mask = .ofKind .dataAvailable

/-- The listener call for one sample. -/
def dataCalls (s : State) (k : Handle) : List Call :=
  (s.listenerOf k).toList.map fun l => ⟨l.1, k, .dataAvailable⟩

/-- Whether a reader accepts a sample. -/
def accepts (s : State) (k : Handle) (x : Sample) : Bool :=
  (s.inbox k).any fun b => b.accepts s.maxSamples x

/-- The samples that a reader accepts of those that it is offered. -/
def acceptedOf (s : State) (k : Handle) (samples : List Sample) : List Sample :=
  match s.inbox k with
  | some b => b.accepted s.maxSamples samples
  | none => []

/-- The samples that a reader accepts of those that an operation offers it. -/
def accepted (s s' : State) (k : Handle) (operation : Operation) (reply : Reply) : List Sample :=
  s.acceptedOf k (s.offers s' k operation reply)

/-- The listener of an entity stays, and if it asked for available data alone, it is called a number
of times. -/
structure Rings (s s' : State) (k : Handle) (n : Nat) : Prop where
  listener : s'.listenerOf k = s.listenerOf k
  calls : s.Attentive k →
    s'.callsOf k = s.callsOf k ++ (List.replicate n (s.dataCalls k)).flatten

theorem Attentive.congr (h : s.Attentive k) (heq : s'.listenerOf k = s.listenerOf k) :
    s'.Attentive k := fun listener mask hl => h listener mask (heq ▸ hl)

/-- An entity whose listener asked for available data alone has that listener, or none. -/
theorem Attentive.listener?_eq (h : s.Attentive k) {record : Record}
    (hr : s.entities.get? k = some record) : record.listener? = s.listenerOf k ∧
      (s.listenerOf k = none ∨ ∃ listener, s.listenerOf k = some (listener, .ofKind .dataAvailable)) := by
  refine ⟨by rw [listenerOf, hr]; rfl, ?_⟩
  cases hl : s.listenerOf k with
  | none => exact .inl rfl
  | some found =>
      obtain ⟨listener, mask⟩ := found
      obtain rfl := h listener mask hl
      exact .inr ⟨listener, rfl⟩

/-- No other status calls the listener. -/
theorem Attentive.callFor_other (h : s.Attentive k) {record : Record}
    (hr : s.entities.get? k = some record) {kind : StatusKind} (hother : kind ≠ .dataAvailable) :
    record.callFor k kind = [] := by
  obtain ⟨hlistener, hnone | ⟨listener, hsome⟩⟩ := h.listener?_eq hr
  · rw [Record.callFor_eq, hlistener, hnone]
  · rw [Record.callFor_eq, hlistener, hsome]
    simp [StatusMask.contains_ofKind_of_ne hother.symm]

/-- Available data calls it. -/
theorem Attentive.callFor_data (h : s.Attentive k) {record : Record}
    (hr : s.entities.get? k = some record) : record.callFor k .dataAvailable = s.dataCalls k := by
  obtain ⟨hlistener, hnone | ⟨listener, hsome⟩⟩ := h.listener?_eq hr
  · rw [Record.callFor_eq, dataCalls, hlistener, hnone]
    rfl
  · rw [Record.callFor_eq, dataCalls, hlistener, hsome]
    rfl

/-! ## What does not call a listener -/

theorem listener_ignoresTraffic : IgnoresTraffic Record.listener? := by
  refine ⟨fun _ _ => ⟨rfl, rfl⟩, fun r x _ hx => ?_, fun r w _ hw => ?_, fun r x _ hx => ?_⟩
  · simp [Record.listener?, hx]
  · simp [Record.listener?, hw]
  · simp [Record.listener?, hx]

theorem Agree.listenerOf (ha : Agree Record.listener? s s') (k : Handle) :
    s'.listenerOf k = s.listenerOf k := ha.bind k

namespace Rings

theorem of_same (hlistener : s'.listenerOf k = s.listenerOf k) (hcalls : s'.calls = s.calls) :
    s.Rings s' k 0 :=
  ⟨hlistener, fun _ => by simp [callsOf, hcalls]⟩

theorem of_agree (ha : Agree Record.listener? s s') (hcalls : s'.calls = s.calls) :
    s.Rings s' k 0 := .of_same (ha.listenerOf k) hcalls

theorem refl (s : State) (k : Handle) : s.Rings s k 0 := .of_same rfl rfl

theorem trans (h₁ : s.Rings s₁ k n) (h₂ : s₁.Rings s' k m) : s.Rings s' k (n + m) := by
  refine ⟨h₂.listener.trans h₁.listener, fun hattentive => ?_⟩
  have hdata : s₁.dataCalls k = s.dataCalls k := by unfold dataCalls; rw [h₁.listener]
  rw [h₂.calls (hattentive.congr h₁.listener), h₁.calls hattentive, hdata, List.append_assoc,
    ← List.flatten_append, List.replicate_append_replicate]

theorem after (h₁ : s.Rings s₁ k 0) (h₂ : s₁.Rings s' k n) : s.Rings s' k n :=
  Nat.zero_add n ▸ h₁.trans h₂

/-- Whoever has no listener hears nothing. -/
theorem unheard (h : s.Rings s' k n) (hnone : s.listenerOf k = none) :
    s'.listenerOf k = none ∧ s'.callsOf k = s.callsOf k := by
  refine ⟨h.listener.trans hnone, ?_⟩
  rw [h.calls fun _ _ hsome => by rw [hnone] at hsome; cases hsome]
  simp [dataCalls, hnone]

/-- Steps that do not call a listener. -/
theorem foldl_none {α : Type} {f : State → α → State} {P : State → Prop}
    (hP : ∀ s a, P s → P (f s a)) (as : List α)
    (hf : ∀ s a, P s → Rings s (f s a) k 0) (hs : P s) : s.Rings (as.foldl f s) k 0 := by
  induction as generalizing s with
  | nil => exact refl s k
  | cons a rest ih => exact (hf s a hs).trans (ih (hP s a hs))

/-- Steps that may call a listener. -/
theorem foldl_some {α : Type} {f : State → α → State}
    (hf : ∀ s a, ∃ n, Rings s (f s a) k n) (as : List α) (s : State) :
    ∃ n, s.Rings (as.foldl f s) k n := by
  induction as generalizing s with
  | nil => exact ⟨0, refl s k⟩
  | cons a rest ih =>
      obtain ⟨n, hfirst⟩ := hf s a
      obtain ⟨m, hrest⟩ := ih (f s a)
      exact ⟨n + m, hfirst.trans hrest⟩

theorem modifyWriter (s : State) (h k : Handle) (f : Writer → Writer) :
    s.Rings (s.modifyWriter h f) k 0 :=
  .of_agree (agree_modifyWriter s h fun r x hx => by simp [Record.listener?, hx]) rfl

theorem modifyReader (s : State) (h k : Handle) {f : Reader → Reader}
    (hf : ∀ x, (f x).listener = x.listener) : s.Rings (s.modifyReader h f) k 0 :=
  .of_agree (agree_modifyReader s h fun r x hx => by simp [Record.listener?, hx, hf]) rfl

/-- Another status, or a status of somebody else. -/
theorem raise_other {kind : StatusKind} (hother : k = h → kind ≠ .dataAvailable) :
    s.Rings (s.raise h kind) k 0 := by
  have hagree := agree_raise (listener_ignoresTraffic.raised kind) s h
  refine ⟨hagree.listenerOf k, fun hattentive => ?_⟩
  rw [List.replicate_zero, List.flatten_nil, List.append_nil]
  by_cases hk : k = h
  · subst hk
    cases hr : s.entities.get? k with
    | none => simp only [State.raise, hr]
    | some r =>
        rw [raise_callsOf_self hr, hattentive.callFor_other hr (hother rfl), List.append_nil]
  · exact raise_callsOf_of_ne hk kind

/-- Available data. -/
theorem raise_self (s : State) (k : Handle) : s.Rings (s.raise k .dataAvailable) k 1 := by
  have hagree := agree_raise (listener_ignoresTraffic.raised .dataAvailable) s k
  refine ⟨hagree.listenerOf k, fun hattentive => ?_⟩
  rw [List.replicate_one, List.flatten_singleton]
  cases hr : s.entities.get? k with
  | none => simp [State.raise, hr, dataCalls, listenerOf]
  | some r => rw [raise_callsOf_self hr, hattentive.callFor_data hr]

/-- A sample that was accepted. -/
theorem announce (s : State) (h k : Handle) :
    s.Rings (s.announce h) k (if k = h then 1 else 0) := by
  have htold : s.Rings (s.raise h .dataAvailable) k (if k = h then 1 else 0) := by
    split
    · rename_i hk
      exact hk ▸ raise_self s k
    · rename_i hk
      exact raise_other fun hsame => absurd hsame hk
  unfold State.announce
  dsimp only
  split
  · exact htold.trans (raise_other fun _ => by simp)
  · exact htold

/-- A sample that is offered: the listener of its reader is called if it is accepted. -/
theorem offer (s : State) (h k : Handle) (x : Sample) :
    s.Rings (s.offer h x) k (if k = h ∧ s.accepts h x = true then 1 else 0) := by
  unfold State.offer
  cases hr : s.reader? h with
  -- no reader, so that nothing is accepted and nobody is called
  | none =>
      have hnone : s.accepts h x = false := by
        unfold accepts
        rw [inbox_of_reader?_none hr]
        rfl
      rw [if_neg fun hk => by rw [hnone] at hk; cases hk.2]
      exact refl s k
  | some y =>
      obtain ⟨rejected, hbox⟩ := inbox_of_reader? hr
      have haccepts : s.accepts h x = (enqueue y.qos.history s.maxSamples y.queue x).isSome := by
        unfold accepts
        rw [hbox]
        rfl
      dsimp only
      cases hq : enqueue y.qos.history s.maxSamples y.queue x with
      | none =>
          rw [haccepts, hq, if_neg fun hk => by cases hk.2]
          exact raise_other fun _ => by simp
      | some queue =>
          rw [haccepts, hq]
          simp only [Option.isSome_some, and_true]
          have hput : s.Rings (s.modifyReader h fun r => { r with queue }) k 0 :=
            modifyReader s h k fun _ => rfl
          exact hput.after (announce _ h k)

theorem offer_other (hk : k ≠ h) (x : Sample) : s.Rings (s.offer h x) k 0 := by
  have hoffer := offer s h k x
  rwa [if_neg fun hsame => hk hsame.1] at hoffer

/-- Samples that are offered: only the listener of their reader is called. -/
theorem offerAll (s : State) (r k : Handle) (xs : List Sample) :
    ∃ n, s.Rings (s.offerAll r xs) k n ∧ (k ≠ r ∨ xs = [] → n = 0) := by
  by_cases hk : k = r
  · cases xs with
    | nil => exact ⟨0, refl s k, fun _ => rfl⟩
    | cons x rest =>
        obtain ⟨n, hrings⟩ := foldl_some (fun s x => ⟨_, offer s r k x⟩) (x :: rest) s
        exact ⟨n, hrings, fun h => h.elim (absurd hk) fun hnil => by cases hnil⟩
  · exact ⟨0, foldl_none (P := fun _ => True) (fun _ _ _ => trivial) xs
      (fun _ x _ => offer_other hk x) trivial, fun _ => rfl⟩

/-! ## A write -/

/-- A sample that is offered to each of a list of distinct readers. -/
theorem foldl_offer (x : Sample) {readers : List Handle} (hnodup : readers.Nodup) :
    s.Rings (readers.foldl (fun s r => s.offer r x) s) k
      (if k ∈ readers ∧ s.accepts k x = true then 1 else 0) := by
  induction readers generalizing s with
  | nil => exact refl s k
  | cons r rest ih =>
      obtain ⟨hr, hrest⟩ := List.nodup_cons.mp hnodup
      have hfirst := offer s r k x
      have hothers := ih (s := s.offer r x) hrest
      by_cases hk : k = r
      · -- nobody is offered the sample twice
        subst hk
        rw [if_neg fun h => hr h.1] at hothers
        simpa using hfirst.trans hothers
      · have hsame : (s.offer r x).accepts k x = s.accepts k x := by
          unfold accepts
          rw [offer_inbox, if_neg hk, offer_maxSamples]
        rw [if_neg fun h => hk h.1] at hfirst
        rw [hsame] at hothers
        simpa [hk] using hfirst.after hothers

end Rings

theorem accepts_congr (hinbox : s'.inbox k = s.inbox k) (hmax : s'.maxSamples = s.maxSamples)
    (x : Sample) : s'.accepts k x = s.accepts k x := by
  unfold accepts
  rw [hinbox, hmax]

/-- A write: the listener of a matched reader is called if the reader accepts the sample. -/
theorem Rings.write {payload : List UInt8} (hm : s.Matching) (hok : s.write w payload = (.ok (), s')) :
    s.Rings s' k
      (if k ∈ s.matchedWith w ∧ s.accepts k ⟨payload, .valid w⟩ = true then 1 else 0) := by
  obtain ⟨x, hx, rfl⟩ := write_eq_ok hok
  have hmatched := matchedWith_of_writer? hx
  have hoffered : ∀ s₁ : State, s₁.inbox k = s.inbox k → s₁.maxSamples = s.maxSamples →
      s₁.Rings (x.matched.foldl (fun s r => s.offer r ⟨payload, .valid w⟩) s₁) k
        (if k ∈ s.matchedWith w ∧ s.accepts k ⟨payload, .valid w⟩ = true then 1 else 0) := by
    intro s₁ hinbox hmax
    rw [hmatched, ← accepts_congr hinbox hmax]
    exact foldl_offer _ (hmatched ▸ (hm.ascending w).nodup)
  exact (modifyWriter s w k _).after (hoffered _ (modifyWriter_inbox ..) rfl)

/-! ## A meeting -/

/-- A meeting: only the listener of the reader is called, and only if samples are replayed. -/
theorem Rings.connect (s : State) (w r k : Handle) :
    ∃ n, s.Rings (s.connect w r) k n ∧ (k ≠ r ∨ s.keptFor w r = [] → n = 0) := by
  unfold State.connect
  split
  · exact ⟨0, refl s k, fun _ => rfl⟩
  · split
    · rename_i x y hw hr
      split
      · exact ⟨0, (raise_other fun _ => by simp).trans (raise_other fun _ => by simp), fun _ => rfl⟩
      · dsimp only
        have hkept : s.keptFor w r = (replay x y.qos).map fun payload => ⟨payload, .valid w⟩ := by
          simp only [keptFor, hw, hr]
        rw [hkept]
        -- only the replay calls the listener, whatever the samples are
        generalize (replay x y.qos).map (fun payload => (⟨payload, .valid w⟩ : Sample)) = samples
        let linked := (s.modifyWriter w fun w => { w with matched := insertHandle r w.matched })
          |>.modifyReader r fun r => { r with matched := insertHandle w r.matched }
        have hlinked : s.Rings linked k 0 := by
          refine (modifyWriter s w k _).trans (modifyReader _ r k ?_)
          exact fun _ => rfl
        have htold : s.Rings
            ((linked.raise w .publicationMatched).raise r .subscriptionMatched) k 0 :=
          (hlinked.trans (raise_other fun _ => by simp)).trans (raise_other fun _ => by simp)
        obtain ⟨n, hreplayed, hzero⟩ := offerAll _ r k samples
        exact ⟨n, htold.after hreplayed, hzero⟩
    · exact ⟨0, refl s k, fun _ => rfl⟩

/-- The meetings of a new endpoint that has kept nothing call nobody else's listener. -/
theorem Rings.discover {e : Handle} (hk : k ≠ e)
    (hnone : s.history e = none ∨ s.history e = some []) :
    s.Rings (s.discover e) k 0 := by
  refine foldl_none (P := fun s => s.history e = none ∨ s.history e = some []) ?_ _ ?_ hnone
  · intro s peer hnone
    rwa [(agree_meet history_ignoresTraffic s e peer).history e]
  · intro s peer hnone
    unfold meet
    split
    · obtain ⟨n, hrings, hzero⟩ := connect s e peer k
      exact hzero (.inr (keptFor_of_history hnone peer)) ▸ hrings
    · obtain ⟨n, hrings, hzero⟩ := connect s peer e k
      exact hzero (.inl hk) ▸ hrings

theorem rings_discover (s : State) (e k : Handle) : ∃ n, s.Rings (s.discover e) k n := by
  refine Rings.foldl_some (fun s peer => ?_) _ s
  unfold meet
  split
  · obtain ⟨n, hrings, -⟩ := Rings.connect s e peer k
    exact ⟨n, hrings⟩
  · obtain ⟨n, hrings, -⟩ := Rings.connect s peer e k
    exact ⟨n, hrings⟩

/-! ## A clean-up -/

theorem rings_unmatch (s : State) (gone peer k : Handle) :
    ∃ n, s.Rings (s.unmatch gone peer) k n := by
  unfold unmatch
  split
  · exact ⟨0, (Rings.modifyWriter s peer k _).trans (.raise_other fun _ => by simp)⟩
  · dsimp only
    rename_i r _ _
    let left := s.modifyReader peer fun x => { x with matched := r.matched.filter (· ≠ gone) }
    have hleft : s.Rings left k 0 := .modifyReader s peer k fun _ => rfl
    have htold : s.Rings (left.raise peer .subscriptionMatched) k 0 :=
      hleft.trans (.raise_other fun _ => by simp)
    split
    · exact ⟨_, htold.after (.offer _ peer k _)⟩
    · exact ⟨_, htold⟩
  · exact ⟨0, .refl s k⟩

theorem rings_unmatchAll (s : State) (doomed gone : List Handle) (k : Handle) :
    ∃ n, s.Rings (gone.foldl (fun s g => s.unmatchPeers doomed g) s) k n :=
  Rings.foldl_some (fun s g => Rings.foldl_some (fun s peer => rings_unmatch s g peer k) _ s) gone s

theorem foldl_remove_listenerOf (s : State) (doomed : List Handle) (k : Handle) :
    (doomed.foldl remove s).listenerOf k = if k ∈ doomed then none else s.listenerOf k := by
  unfold listenerOf
  rw [foldl_remove_get?]
  split <;> rfl

/-- Peers that go call the listener of a reader that stays once, if it loses the last of them and
accepts the notice. -/
theorem rings_told (hwf : s.WellFormed) (hm : s.Matching) {doomed : List Handle}
    (hdistinct : doomed.Nodup) (hstays : k ∉ doomed) {b : Inbox} (hb : s.inbox k = some b) :
    s.Rings (doomed.foldl (fun s g => s.unmatchPeers doomed g) s) k
      (if (s.matchedWith k ≠ [] ∧ ∀ g ∈ s.matchedWith k, g ∈ doomed) ∧
          b.accepts s.maxSamples orphanNotice = true then 1 else 0) := by
  obtain ⟨r, x, hr, hx, rfl⟩ := inbox_eq_some_iff.mp hb
  have hbody : ∀ partition, r.body ≠ .subscriber partition := fun _ => by rw [hx]; simp
  have hmatched := matchedWith_of_get? hr
  have hhears := unmatchAll_self hwf hr hbody hstays (fun _ h => h) hdistinct
    (fun g _ => (hm.ascending g).nodup) (hmatched ▸ (hm.ascending k).nodup) fun g _ => by
      rw [← hmatched]
      exact ⟨hm.symm, hm.symm⟩
  obtain ⟨n, hrings⟩ := rings_unmatchAll s doomed doomed k
  refine ⟨hrings.listener, fun hattentive => ?_⟩
  -- the listener does not hear of the peers, but of the notice
  have hpeers : ((x.matched.filter fun g => decide (g ∈ doomed)).map fun _ =>
      StatusKind.subscriptionMatched).flatMap (r.callFor k) = [] := by
    refine List.flatMap_eq_nil_iff.mpr fun kind hkind => ?_
    obtain ⟨_, -, rfl⟩ := List.mem_map.mp hkind
    exact hattentive.callFor_other hr (by simp)
  have horphaned : x.isOrphaned (fun g => decide (g ∈ doomed)) = true ↔
      s.matchedWith k ≠ [] ∧ ∀ g ∈ s.matchedWith k, g ∈ doomed := by
    rw [Reader.isOrphaned_iff, hmatched, hx]
    simp [Body.matched]
  have haccepts : Inbox.accepts s.maxSamples
      ⟨x.qos, x.queue, r.raised.contains .sampleRejected⟩ orphanNotice =
        (x.noticed s.maxSamples).isSome := rfl
  rw [hhears.calls, hx, Body.farewells, List.flatMap_append, hpeers, List.nil_append, haccepts]
  simp only [← horphaned, Reader.noticeStatus]
  cases x.isOrphaned fun g => decide (g ∈ doomed) with
  | false => simp
  | true =>
      cases (x.noticed s.maxSamples).isSome with
      | false => simp [hattentive.callFor_other hr]
      | true => simp [hattentive.callFor_data hr]

/-! ## Every operation -/

theorem acceptedOf_nil (s : State) (k : Handle) : s.acceptedOf k [] = [] := by
  unfold acceptedOf
  split <;> rfl

/-- A sample that is offered under a condition. -/
theorem accepted_length {operation : Operation} {reply : Reply} {b : Inbox} {x : Sample} {P : Prop}
    [Decidable P] (hb : s.inbox k = some b)
    (h : s.offers s' k operation reply = if P then [x] else []) :
    (s.accepted s' k operation reply).length =
      if P ∧ b.accepts s.maxSamples x = true then 1 else 0 := by
  unfold accepted acceptedOf
  rw [h, hb]
  by_cases hP : P
  · rw [if_pos hP]
    simp only [Inbox.accepted, List.append_nil, and_iff_right hP]
    cases b.accepts s.maxSamples x <;> rfl
  · rw [if_neg hP, if_neg fun h => hP h.1]
    rfl

/-- What an operation does to the listener of an entity: whoever has none hears nothing, and that of
a reader that stays is called once for each sample that the reader accepts. -/
structure Heard (s : State) (k : Handle) (operation : Operation) (y : Reply × State) : Prop where
  unheard : s.listenerOf k = none → y.2.listenerOf k = none ∧ y.2.callsOf k = s.callsOf k
  rings : (s.inbox k).isSome = true → (y.2.inbox k).isSome = true →
    s.Rings y.2 k (s.accepted y.2 k operation y.1).length

namespace Heard

variable {operation : Operation} {reply : Reply}

/-- An operation that offers nothing and calls nobody. -/
theorem quiet (h : s.Rings s' k 0) (hoffers : s.offers s' k operation reply = []) :
    s.Heard k operation (reply, s') where
  unheard := h.unheard
  rings := fun _ _ => by
    rw [accepted, hoffers, acceptedOf_nil]
    exact h

theorem failed (s : State) (k : Handle) (operation : Operation) (code : ReturnCode) :
    s.Heard k operation (.failed code, s) :=
  .quiet (.refl s k) (unnoted_of_quiet s s k k _ (.inr ⟨code, rfl⟩)).1

end Heard

/-- A new entity has no listener. -/
theorem Rings.insert (hwf : s.WellFormed) (participant parent : Option Handle) {body : Body}
    (hbody : ∀ x, body = .reader x → x.listener = none) (k : Handle) :
    s.Rings (s.insert kind participant parent body).2 k 0 := by
  refine .of_same ?_ rfl
  unfold listenerOf
  rw [insert_get?]
  split
  · rename_i hk
    have hfresh : s.entities.get? k = none := by
      have hnone := hwf.fresh
      rwa [State.profile, Option.map_eq_none_iff, ← hk] at hnone
    rw [hfresh]
    cases body with
    | reader x => exact hbody x rfl
    | _ => rfl
  · rfl

/-- A new endpoint: the listeners that there are do not hear of it. -/
theorem Heard.joined (hwf : s.WellFormed) (hm : s.Matching) {side : Side} {p g t : Handle}
    {qos : EndpointQos} (hplaced : s.Placed s.next ⟨p, some g, side.endpoint t qos⟩) (k : Handle) :
    s.Heard k (side.create g t qos)
      (.entity s.next, (s.withEndpoint side p g t qos).discover s.next) := by
  have hnew : s.Rings (s.withEndpoint side p g t qos) k 0 := by
    refine .insert hwf (some p) (some g) ?_ k
    cases side <;> rintro x ⟨⟩
    rfl
  -- the new endpoint had no inbox before, and the others are offered nothing
  by_cases hk : k = s.next
  · subst hk
    obtain ⟨n, hmet⟩ := rings_discover (s.withEndpoint side p g t qos) s.next s.next
    refine ⟨(hnew.after hmet).unheard, fun hbox => ?_⟩
    have hfresh : s.inbox s.next = none := by
      have hnone := hwf.fresh
      rw [State.profile, Option.map_eq_none_iff] at hnone
      rw [inbox, hnone]
      rfl
    rw [hfresh] at hbox
    cases hbox
  · refine .quiet (hnew.after (.discover hk ?_)) ?_
    · rw [withEndpoint_history]
      cases side
      · exact .inr rfl
      · exact .inl rfl
    · rw [offers_create]
      exact replayed_of_old hm hwf hplaced hk

/-- A clean-up: a reader that loses its last peer hears of the notice. -/
theorem Heard.cleared (hwf : s.WellFormed) (hm : s.Matching) (p k : Handle) :
    s.Heard k (.deleteContained p) (.done, s.deleteAll (s.contained p)) := by
  let doomed := s.contained p
  -- removing what is doomed calls nobody, so that telling the survivors is what counts
  have hafter : ∀ {n}, s.Rings (doomed.foldl (fun s g => s.unmatchPeers doomed g) s) k n →
      k ∉ doomed → s.Rings (s.deleteAll doomed) k n := by
    intro n h hstays
    refine ⟨?_, fun hattentive => ?_⟩
    · unfold deleteAll
      rw [foldl_remove_listenerOf, if_neg hstays]
      exact h.listener
    · unfold deleteAll
      rw [foldl_remove_callsOf]
      exact h.calls hattentive
  constructor
  · intro hnone
    obtain ⟨n, hrings⟩ := rings_unmatchAll s doomed doomed k
    obtain ⟨hlistener, hcalls⟩ := hrings.unheard hnone
    refine ⟨?_, (foldl_remove_callsOf _ doomed k).trans hcalls⟩
    show (doomed.foldl remove _).listenerOf k = none
    rw [foldl_remove_listenerOf]
    split
    · rfl
    · exact hlistener
  · intro hbox hbox'
    obtain ⟨b, hb⟩ := Option.isSome_iff_exists.mp hbox
    by_cases hgone : k ∈ doomed
    · have hinbox := deleteAll_inbox hm (s.contained_nodup p) k
      rw [if_pos hgone] at hinbox
      rw [hinbox] at hbox'
      cases hbox'
    · have hreader : ((s.deleteAll doomed).reader? k).isSome = true := by
        cases hx : (s.deleteAll doomed).reader? k with
        | some x => rfl
        | none =>
            rw [inbox_of_reader?_none hx] at hbox'
            cases hbox'
      have htold := hafter (rings_told hwf hm (s.contained_nodup p) hgone hb) hgone
      have hlost := deleteAll_matchedWith_eq_nil_iff hm hgone
      have hoffers : s.offers (s.deleteAll doomed) k (.deleteContained p) .done =
          if s.matchedWith k ≠ [] ∧ ∀ g ∈ s.matchedWith k, g ∈ doomed then [orphanNotice]
          else [] := by
        simp only [offers_deleteContained, hlost, hreader, and_true]
      exact accepted_length hb hoffers ▸ htold

/-- A write: a matched reader hears of the sample if it accepts it. -/
theorem Heard.wrote (hm : s.Matching) {payload : List UInt8}
    (hok : s.write w payload = (.ok (), s')) (k : Handle) :
    s.Heard k (.write w payload) (.done, s') := by
  have hrings := Rings.write (k := k) hm hok
  refine ⟨hrings.unheard, fun hbox _ => ?_⟩
  obtain ⟨b, hb⟩ := Option.isSome_iff_exists.mp hbox
  have haccepts : s.accepts k ⟨payload, .valid w⟩ = b.accepts s.maxSamples ⟨payload, .valid w⟩ := by
    unfold accepts
    rw [hb]
    rfl
  rw [haccepts] at hrings
  exact accepted_length hb (offers_write s s' k w payload) ▸ hrings

theorem settleReader_calls (s : State) (r : Handle) : (s.settleReader r).calls = s.calls := by
  unfold settleReader settleSubscriber
  dsimp only
  split
  · split <;> rfl
  · rfl

/-- Taking a sample calls nobody. -/
theorem Rings.take (s : State) (r k : Handle) : s.Rings (s.take r).2 k 0 := by
  refine .of_agree (agree_take listener_ignoresTraffic.raised listener_ignoresTraffic.queue s r) ?_
  rcases s.take_snd r with h | h | ⟨rest, h | h⟩ <;> rw [h]
  · exact settleReader_calls s r
  · rfl
  · exact settleReader_calls _ r

/-- Giving a hold back calls nobody, and who goes has no listener. -/
theorem Rings.release (hwf : s.WellFormed) (h k : Handle) : s.Rings (s.release h) k 0 := by
  unfold State.release
  split
  · exact refl s k
  · rename_i record hrecord
    let given := s.modifyEntity h fun r => { r with refs := r.refs - 1 }
    have hgiven : s.Rings given k 0 := .of_agree (agree_modifyEntity s h fun _ => rfl) rfl
    dsimp only
    split
    · -- what goes is a participant, which has no listener
      rename_i hgone
      refine hgiven.trans (.of_same ?_ (remove_calls given h))
      unfold listenerOf
      rw [remove_get?]
      split
      · rename_i hk
        subst hk
        have hkind : record.body.kind = .participant := (hwf.sorted hrecord).symm.trans hgone.2.1
        rw [modifyEntity_get?, if_pos rfl, hrecord]
        obtain ⟨_, _, _, _, _, _, body⟩ := record
        cases body with
        | participant domain types => rfl
        | _ => cases hkind
      · rfl
    · exact hgiven

/-- Every operation but the setting of a listener: a reader that stays hears of the samples that it
accepts. -/
theorem perform_heard (hwf : s.WellFormed) (hm : s.Matching) (isFile : String → Bool)
    {operation : Operation} (hother : ∀ r listener mask, operation ≠ .setListener r listener mask)
    (k : Handle) : s.Heard k operation (s.perform isFile operation) := by
  -- operations beside the entities neither offer a sample nor touch a listener
  by_cases hbeside : operation.isBeside = true
  · obtain ⟨⟨he, hid, hmax⟩, hcalls⟩ := perform_aside hbeside isFile s
    refine .quiet (.of_agree (.of_entities he hid hmax) hcalls) ?_
    cases operation <;> first | rfl | cases hbeside
  · have hcase := perform_cases isFile s operation
    generalize s.perform isFile operation = result at hcase ⊢
    cases hcase with
    | refused => exact .failed s k operation _
    | created hready hcreates =>
        refine .quiet (.insert hwf _ _ (fun x hbody => ?_) k) ?_
        · cases hcreates <;> cases hbody
        · cases hcreates <;> rfl
    | @joined side p g t qos hready hqos hcommon =>
        exact .joined hwf hm (placed_endpoint hwf side hqos hcommon) k
    | cleared => exact .cleared hwf hm _ k
    | registered =>
        refine .quiet (.of_agree (agree_modifyEntity s _ fun r => ?_) rfl) rfl
        obtain ⟨_, _, _, _, _, _, body⟩ := r
        cases body <;> rfl
    | wrote hok => exact .wrote hm hok k
    | took r =>
        refine .quiet (Rings.take s r k) ?_
        cases (s.take r).1 <;> rfl
    | @asked e c s' hok =>
        refine .quiet ?_ rfl
        rcases statusCondition_eq_ok hok with ⟨-, rfl⟩ | ⟨-, -, -, rfl⟩
        · exact .refl _ k
        · have hmade : Agree Record.listener? s
              (s.modifyEntity e fun r => { r with condition := some c }) :=
            agree_modifyEntity s e fun _ => rfl
          exact .of_same (hmade.listenerOf k) rfl
    | @listened h r listener mask => exact absurd rfl (hother h listener mask)
    | released h => exact .quiet (.release hwf h k) rfl
    | relisted order => exact .quiet (.of_agree (agree_relist _ s order) rfl) rfl
    | _ => exact absurd rfl hbeside

/-- A listener that is set is the reader's from then on, and nobody is called. -/
theorem setListener_listenerOf (hwf : s.WellFormed) {listener : Option Listener} {mask : StatusMask}
    (hok : s.setListener r listener mask = (.ok (), s')) :
    s'.calls = s.calls ∧
      ∀ k, s'.listenerOf k = if k = r then listener.map fun l => (l, mask) else s.listenerOf k := by
  obtain ⟨record, hget, rfl⟩ := setListener_eq_ok hok
  obtain ⟨hr, -⟩ := get_eq_ok.mp hget
  obtain ⟨-, hkind⟩ := hwf.profile_of_get hget
  refine ⟨rfl, fun k => ?_⟩
  unfold listenerOf modifyReader
  rw [modifyEntity_get?]
  split
  · rename_i hk
    subst hk
    rw [hr]
    obtain ⟨_, _, _, _, _, _, body⟩ := record
    cases body with
    | reader x => rfl
    | _ => cases hkind
  · rfl

end State

end DdsBridge.Provider
