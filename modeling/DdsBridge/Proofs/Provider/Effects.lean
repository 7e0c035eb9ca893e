import DdsBridge.Proofs.Provider.Profile
import DdsBridge.Provider.Operation

/-!
# Matched peers after a meeting and after a clean-up

Bringing two endpoints together and telling an endpoint that its peer is gone change statuses,
queues and matched peers, and nothing else. What they do to the matched peers of every handle is
said here once.

* **`State.IgnoresTraffic`**, **`agree_discover`**, **`agree_unmatchAll`** — what they leave alone.
* **`State.Joins`**, **`connect_matchedWith`** — a meeting: both ends remember each other, or
  nothing changes.
* **`unmatch_matchedWith`**, **`deleteAll_matchedWith`** — a clean-up: the survivors forget those
  deleted endpoints that remember them.
-/

namespace DdsBridge.Provider.State

/-! ## What a meeting and a farewell leave alone -/

/-- A view that looks neither at statuses nor at queues nor at matched peers. -/
structure IgnoresTraffic {β : Type} (view : Record → β) : Prop where
  raised : IgnoresRaised view
  queue : IgnoresQueue view
  writer : ∀ (r : Record) w matched, r.body = .writer w →
    view { r with body := .writer { w with matched } } = view r
  reader : ∀ (r : Record) x matched, r.body = .reader x →
    view { r with body := .reader { x with matched } } = view r

theorem stem_ignoresTraffic : IgnoresTraffic Record.stem := by
  refine ⟨fun _ _ => ⟨rfl, rfl⟩, fun r x _ hx => ?_, fun r w _ hw => ?_, fun r x _ hx => ?_⟩
  · simp [Record.stem, Record.profile, hx, Body.role]
  · simp [Record.stem, Record.profile, hw, Body.role]
  · simp [Record.stem, Record.profile, hx, Body.role]

/-- What looks at nothing but such a view does not look at traffic either. -/
theorem IgnoresTraffic.map {β γ : Type} {view : Record → β} (hv : IgnoresTraffic view)
    (g : β → γ) : IgnoresTraffic (g ∘ view) where
  raised kind r := ⟨congrArg g (hv.raised kind r).1, congrArg g (hv.raised kind r).2⟩
  queue r x queue hx := congrArg g (hv.queue r x queue hx)
  writer r w matched hw := congrArg g (hv.writer r w matched hw)
  reader r x matched hx := congrArg g (hv.reader r x matched hx)

theorem profile_ignoresTraffic : IgnoresTraffic Record.profile := stem_ignoresTraffic.map Prod.snd

section Traffic

variable {β : Type} {view : Record → β}

/-- A meeting changes nothing but statuses, matched peers and the reader's queue. -/
theorem agree_connect (hv : IgnoresTraffic view) (s : State) (w r : Handle) :
    Agree view s (s.connect w r) := by
  unfold connect
  split
  · exact .refl _ s
  · split
    · split
      · exact (agree_raise (hv.raised _) s w).trans (agree_raise (hv.raised _) _ r)
      · dsimp only
        refine .trans ?_ (agree_offerAll hv.raised hv.queue _ _ _)
        refine .trans ?_ (agree_raise (hv.raised _) _ r)
        refine .trans ?_ (agree_raise (hv.raised _) _ w)
        exact (agree_modifyWriter s w fun r x hx => hv.writer r x _ hx).trans
          (agree_modifyReader _ r fun r x hx => hv.reader r x _ hx)
    · exact .refl _ s

theorem agree_meet (hv : IgnoresTraffic view) (s : State) (e peer : Handle) :
    Agree view s (s.meet e peer) := by
  unfold meet
  split
  · exact agree_connect hv s e peer
  · exact agree_connect hv s peer e

theorem agree_meetAll (hv : IgnoresTraffic view) (s : State) (e : Handle) (peers : List Handle) :
    Agree view s (s.meetAll e peers) := .foldl (fun s peer => agree_meet hv s e peer) s peers

theorem agree_discover (hv : IgnoresTraffic view) (s : State) (e : Handle) :
    Agree view s (s.discover e) := agree_meetAll hv s e _

theorem agree_unmatch (hv : IgnoresTraffic view) (s : State) (gone peer : Handle) :
    Agree view s (s.unmatch gone peer) := by
  unfold unmatch
  split
  · exact (agree_modifyWriter s peer fun r x hx => hv.writer r x _ hx).trans
      (agree_raise (hv.raised _) _ peer)
  · dsimp only
    rename_i r _ _
    have htold : Agree view s ((s.modifyReader peer fun x =>
        { x with matched := r.matched.filter (· ≠ gone) }).raise peer .subscriptionMatched) :=
      (agree_modifyReader s peer fun r x hx => hv.reader r x _ hx).trans
        (agree_raise (hv.raised _) _ peer)
    split
    · exact htold.trans (agree_offer hv.raised hv.queue _ peer _)
    · exact htold
  · exact .refl _ s

theorem agree_unmatchPeers (hv : IgnoresTraffic view) (s : State) (doomed : List Handle)
    (gone : Handle) : Agree view s (s.unmatchPeers doomed gone) :=
  .foldl (fun s peer => agree_unmatch hv s gone peer) s _

theorem agree_unmatchAll (hv : IgnoresTraffic view) (s : State) (doomed gone : List Handle) :
    Agree view s (gone.foldl (fun s g => s.unmatchPeers doomed g) s) :=
  .foldl (fun s g => agree_unmatchPeers hv s doomed g) s gone

end Traffic

/-- A clean-up removes the given entities and changes no other stem. -/
theorem deleteAll_sheds (s : State) (doomed : List Handle) :
    s.Sheds (s.deleteAll doomed) doomed :=
  .of_agree (agree_unmatchAll stem_ignoresTraffic s doomed doomed) (foldl_remove_sheds _ doomed)
    (.refl _ _)

theorem deleteAll_profile (s : State) (doomed : List Handle) (k : Handle) :
    (s.deleteAll doomed).profile k = if k ∈ doomed then none else s.profile k :=
  (deleteAll_sheds s doomed).profile k

theorem deleteAll_lastId (s : State) (doomed : List Handle) :
    s.lastId ≤ (s.deleteAll doomed).lastId := (deleteAll_sheds s doomed).lastId_le

/-! ## Matched peers of a changed endpoint -/

theorem reader?_modifyWriter (s : State) (h k : Handle) (f : Writer → Writer) :
    (s.modifyWriter h f).reader? k = s.reader? k := by
  unfold reader? modifyWriter
  rw [modifyEntity_get?]
  by_cases hk : k = h
  · rw [if_pos hk]
    cases s.entities.get? k with
    | none => rfl
    | some r =>
        obtain ⟨_, _, _, _, _, _, body⟩ := r
        cases body <;> rfl
  · rw [if_neg hk]

theorem matchedWith_modifyWriter {s : State} {h : Handle} {w : Writer}
    (hw : s.writer? h = some w) (f : Writer → Writer) (k : Handle) :
    (s.modifyWriter h f).matchedWith k =
      if k = h then (f w).matched else s.matchedWith k := by
  obtain ⟨r, hr, hb⟩ := writer?_eq_some_iff.mp hw
  unfold modifyWriter
  rw [matchedWith_eq, matchedWith_eq, modifyEntity_get?]
  split
  · rename_i hk
    subst hk
    simp [hr, hb, Body.matched]
  · rfl

theorem matchedWith_modifyReader {s : State} {h : Handle} {x : Reader}
    (hx : s.reader? h = some x) (f : Reader → Reader) (k : Handle) :
    (s.modifyReader h f).matchedWith k =
      if k = h then (f x).matched else s.matchedWith k := by
  obtain ⟨r, hr, hb⟩ := reader?_eq_some_iff.mp hx
  unfold modifyReader
  rw [matchedWith_eq, matchedWith_eq, modifyEntity_get?]
  split
  · rename_i hk
    subst hk
    simp [hr, hb, Body.matched]
  · rfl

theorem matchedWith_of_writer? {s : State} {h : Handle} {w : Writer}
    (hw : s.writer? h = some w) : s.matchedWith h = w.matched := by
  obtain ⟨_, _, _, hm⟩ := writer?_profile hw
  exact hm

theorem matchedWith_of_reader? {s : State} {h : Handle} {x : Reader}
    (hx : s.reader? h = some x) : s.matchedWith h = x.matched := by
  obtain ⟨_, _, _, hm⟩ := reader?_profile hx
  exact hm

theorem raise_matchedWith (s : State) (h : Handle) (kind : StatusKind) (k : Handle) :
    (s.raise h kind).matchedWith k = s.matchedWith k :=
  (agree_raise (outline_ignoresRaised kind) s h).matchedWith k

theorem offerAll_matchedWith (s : State) (reader : Handle) (samples : List Sample) (k : Handle) :
    (s.offerAll reader samples).matchedWith k = s.matchedWith k :=
  (agree_offerAll outline_ignoresRaised outline_ignoresQueue s reader samples).matchedWith k

theorem offer_matchedWith (s : State) (reader : Handle) (sample : Sample) (k : Handle) :
    (s.offer reader sample).matchedWith k = s.matchedWith k :=
  (agree_offer outline_ignoresRaised outline_ignoresQueue s reader sample).matchedWith k

/-! ## A meeting -/

/-- A meeting of a writer and a reader ends in a match. -/
def Joins (s : State) (w r : Handle) : Prop :=
  s.sharePartition w r = true ∧
    ∃ x y, s.writer? w = some x ∧ s.reader? r = some y ∧ incompatiblePolicy x.qos y.qos = none

/-- Both ends of a match remember each other. -/
theorem connect_matchedWith {s : State} {w r : Handle} (hjoin : s.Joins w r) (k : Handle) :
    (s.connect w r).matchedWith k =
      if k = w then insertHandle r (s.matchedWith w)
      else if k = r then insertHandle w (s.matchedWith r)
      else s.matchedWith k := by
  obtain ⟨hshare, x, y, hw, hr, hqos⟩ := hjoin
  have hr' : (s.modifyWriter w fun w => { w with matched := insertHandle r w.matched }).reader? r
      = some y := (reader?_modifyWriter ..).trans hr
  have hne : w ≠ r := by
    rintro rfl
    rw [reader?_eq_none_of_writer? hw] at hr
    cases hr
  simp only [connect, hshare, Bool.not_true, Bool.false_eq_true, if_false, hw, hr, hqos]
  rw [offerAll_matchedWith, raise_matchedWith, raise_matchedWith, matchedWith_modifyReader hr',
    matchedWith_modifyWriter hw, matchedWith_of_writer? hw, matchedWith_of_reader? hr]
  by_cases hkr : k = r
  · subst hkr
    simp [Ne.symm hne]
  · simp [hkr]

theorem connect_matchedWith_of_not {s : State} {w r : Handle} (hjoin : ¬s.Joins w r)
    (k : Handle) : (s.connect w r).matchedWith k = s.matchedWith k := by
  unfold connect
  split
  · rfl
  · rename_i hshare
    split
    · rename_i x y hw hr
      split
      · rw [raise_matchedWith, raise_matchedWith]
      · rename_i hqos
        exact absurd ⟨by simpa using hshare, x, y, hw, hr, hqos⟩ hjoin
    · rfl

/-! ## A clean-up -/

/-- The survivor forgets the peer that is gone. -/
theorem unmatch_matchedWith (s : State) (gone peer k : Handle) :
    (s.unmatch gone peer).matchedWith k =
      if k = peer then (s.matchedWith peer).filter (· ≠ gone) else s.matchedWith k := by
  unfold unmatch
  split
  · rename_i w r hw
    rw [raise_matchedWith, matchedWith_modifyWriter hw, matchedWith_of_writer? hw]
  · rename_i r hw hr
    dsimp only
    -- a reader is told first, and the notice after that changes no peers
    have htold : ((s.modifyReader peer fun x =>
        { x with matched := r.matched.filter (· ≠ gone) }).raise peer
          .subscriptionMatched).matchedWith k =
        if k = peer then (s.matchedWith peer).filter (· ≠ gone) else s.matchedWith k := by
      rw [raise_matchedWith, matchedWith_modifyReader hr, matchedWith_of_reader? hr]
    split
    · rw [offer_matchedWith, htold]
    · exact htold
  · rename_i hw hr
    split
    · rename_i hk
      subst hk
      have hnone : s.matchedWith k = [] := by
        unfold matchedWith
        unfold writer? at hw
        unfold reader? at hr
        split <;> simp_all
      rw [hnone, List.filter_nil]
    · rfl

theorem foldl_unmatch_matchedWith (s : State) (gone : Handle) (peers : List Handle) (k : Handle) :
    (peers.foldl (fun s peer => s.unmatch gone peer) s).matchedWith k =
      if k ∈ peers then (s.matchedWith k).filter (· ≠ gone) else s.matchedWith k := by
  induction peers generalizing s with
  | nil => simp
  | cons peer rest ih =>
      rw [List.foldl_cons, ih, unmatch_matchedWith]
      by_cases hk : k = peer
      · subst hk
        simp [List.filter_filter]
      · simp [hk]

theorem unmatchPeers_matchedWith (s : State) (doomed : List Handle) (gone k : Handle) :
    (s.unmatchPeers doomed gone).matchedWith k =
      if k ∈ s.matchedWith gone ∧ k ∉ doomed then (s.matchedWith k).filter (· ≠ gone)
      else s.matchedWith k := by
  unfold unmatchPeers
  rw [foldl_unmatch_matchedWith]
  simp

/-- While the survivors are told, the doomed keep what they remember, so what one survivor is told
does not depend on the order. -/
theorem unmatchAll_matchedWith (s : State) (doomed rest : List Handle)
    (hsub : ∀ g ∈ rest, g ∈ doomed) (k : Handle) :
    (rest.foldl (fun s g => s.unmatchPeers doomed g) s).matchedWith k =
      if k ∈ doomed then s.matchedWith k
      else (s.matchedWith k).filter fun g => ¬(g ∈ rest ∧ k ∈ s.matchedWith g) := by
  induction rest generalizing s with
  | nil =>
      split
      · rfl
      · exact (List.filter_eq_self.mpr fun g _ => by simp).symm
  | cons gone rest ih =>
      have hgone : gone ∈ doomed := hsub gone List.mem_cons_self
      have hsub' : ∀ g ∈ rest, g ∈ doomed := fun g hg => hsub g (List.mem_cons_of_mem _ hg)
      -- the doomed keep their peers, so what is still to come looks the same after this one
      have hkept : ∀ g ∈ rest, (s.unmatchPeers doomed gone).matchedWith g = s.matchedWith g := by
        intro g hg
        rw [unmatchPeers_matchedWith, if_neg fun h => h.2 (hsub' g hg)]
      rw [List.foldl_cons, ih _ hsub', unmatchPeers_matchedWith]
      by_cases hk : k ∈ doomed
      · simp [hk]
      · simp only [hk, if_false, not_false_eq_true, and_true]
        split
        · rename_i hmem
          rw [List.filter_filter]
          refine List.filter_congr fun g _ => ?_
          by_cases hg : g = gone
          · subst hg
            simp [hmem]
          · by_cases hgr : g ∈ rest <;> simp [hg, hgr, hkept]
        · rename_i hmem
          refine List.filter_congr fun g _ => ?_
          by_cases hg : g = gone
          · subst hg
            by_cases hgr : g ∈ rest <;> simp [hgr, hmem, hkept]
          · by_cases hgr : g ∈ rest <;> simp [hg, hgr, hkept]

/-- The survivors forget exactly the deleted endpoints that remember them. -/
theorem deleteAll_matchedWith (s : State) (doomed : List Handle) (k : Handle) :
    (s.deleteAll doomed).matchedWith k =
      if k ∈ doomed then []
      else (s.matchedWith k).filter fun g => ¬(g ∈ doomed ∧ k ∈ s.matchedWith g) := by
  unfold deleteAll
  rw [foldl_remove_matchedWith, unmatchAll_matchedWith s doomed doomed (fun _ h => h)]
  split <;> rfl

end DdsBridge.Provider.State
