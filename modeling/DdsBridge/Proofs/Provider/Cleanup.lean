import DdsBridge.Proofs.Provider.Conditions
import DdsBridge.Proofs.Provider.Farewell
import DdsBridge.Proofs.Provider.Offers

/-!
# What a clean-up leaves

A clean-up walks over a set of entities in no particular order, tells the peers that stay, and then
removes the set with its conditions. What it leaves is said here entity by entity, without a word
about the walk: an endpoint that stays is what it was without the peers that are gone, a subscriber
that stays is roused if one of its readers kept a notice, and nothing else of an entity changes.

* **`State.survivor`** — an entity that stays; **`told_survivor`** — telling makes survivors of the
  entities that stay.
* **`State.Cleaned`**, **`cleaned_deleteAll`** — the whole state after a clean-up.
* **`State.Alike`**, **`Cleaned.alike`** — a clean-up leaves no trace of an order.
* **`State.CleanUp`**, **`deleteContained_cleans`** — cleaning a participant up, in every reachable
  state.
-/

namespace DdsBridge.Provider.State

variable {s s' t : State} {doomed : List Handle} {p k h : Handle} {r : Record}

/-- The state after the peers that stay were told who goes. -/
def told (s : State) (doomed : List Handle) : State :=
  doomed.foldl (fun s gone => s.unmatchPeers doomed gone) s

/-! ## Entities that stay -/

/-- A reader below a subscriber stays and keeps a notice. -/
def rouses (s : State) (doomed : List Handle) (g : Handle) : Bool :=
  s.entities.any fun k r =>
    decide (k ∉ doomed) && decide (r.parent = some g) &&
      decide (.dataAvailable ∈ r.body.farewells s.maxSamples fun h => decide (h ∈ doomed))

/-- What a clean-up makes of an entity that stays: an endpoint is told which of its peers are gone,
and a subscriber that one of its readers has something to take. -/
def survivor (s : State) (doomed : List Handle) (h : Handle) (r : Record) : Record :=
  let told := r.bereft s.maxSamples fun g => decide (g ∈ doomed)
  if s.rouses doomed h then told.rouse else told

/-- An entity that stays is of the kind it was, and belongs to whom it belonged. -/
theorem survivor_identity (s : State) (doomed : List Handle) (h : Handle) (r : Record) :
    (s.survivor doomed h r).participant = r.participant ∧
      (s.survivor doomed h r).kind = r.kind := by
  have hkind : ∀ gone, (r.bereft s.maxSamples gone).kind = r.kind := by
    intro gone
    obtain ⟨_, _, _, _, _, _, body⟩ := r
    cases body <;> rfl
  unfold survivor
  dsimp only
  split <;> exact ⟨rfl, hkind fun g => decide (g ∈ doomed)⟩

/-- The listener calls that a clean-up makes due for a reader. -/
def farewellCalls (s : State) (doomed : List Handle) (h : Handle) : List Call :=
  match s.entities.get? h with
  | some r =>
    if h ∈ doomed then []
    else (r.body.farewells s.maxSamples fun g => decide (g ∈ doomed)).flatMap (r.callFor h)
  | none => []

/-- What a clean-up relies on. -/
structure Tidy (s : State) : Prop where
  wellFormed : s.WellFormed
  matching : s.Matching
  signed : s.DataSigned

theorem tidy_of_reachable {isFile : String → Bool} (hreach : Reachable isFile s) : s.Tidy :=
  ⟨wellFormed_of_reachable hreach, matching_of_reachable hreach, dataSigned_of_reachable hreach⟩

/-- The entities that a clean-up deletes: those that a participant contains, in any order. -/
structure Leaving (s : State) (p : Handle) (doomed : List Handle) : Prop where
  participant : ∃ d, s.profile p = some ⟨p, none, .participant d⟩
  perm : doomed.Perm (s.contained p)

theorem Leaving.nodup (hl : s.Leaving p doomed) : doomed.Nodup :=
  hl.perm.nodup_iff.mpr (s.contained_nodup p)

theorem rouses_iff : s.rouses doomed h = true ↔
    ∃ k r, s.entities.get? k = some r ∧ k ∉ doomed ∧ r.parent = some h ∧
      .dataAvailable ∈ r.body.farewells s.maxSamples fun g => decide (g ∈ doomed) := by
  simp only [rouses, Table.any, List.any_eq_true, Prod.exists, Table.mem_entries_iff,
    Bool.and_eq_true, decide_eq_true_eq, and_assoc]

/-- A reader keeps a notice if it loses its last writer and has room for it. -/
theorem keeps_notice_iff {bound : Nat} {gone : Handle → Bool} {b : Body} :
    .dataAvailable ∈ b.farewells bound gone ↔
      ∃ x queue, b = .reader x ∧ x.isOrphaned gone = true ∧ x.noticed bound = some queue := by
  cases b with
  | writer w => simp [Body.farewells]
  | reader x =>
      cases horphaned : x.isOrphaned gone <;> cases hq : x.noticed bound <;>
        simp [Body.farewells, Reader.noticeStatus, horphaned, hq]
  | _ => simp [Body.farewells]

theorem enqueue_ne_nil {history : History} {bound : Nat} {queue queue' : List Sample} {y : Sample}
    (h : enqueue history bound queue y = some queue') : queue' ≠ [] := by
  unfold enqueue at h
  rintro rfl
  split at h
  · simp at h
  · split at h
    · simp at h
    · cases h

/-- Nobody but a subscriber is roused. -/
theorem rouses_eq_false (hwf : s.WellFormed) (hr : s.entities.get? h = some r)
    (hbody : ∀ partition, r.body ≠ .subscriber partition) : s.rouses doomed h = false := by
  rw [Bool.eq_false_iff]
  intro hroused
  obtain ⟨k, rk, hk, -, hparent, hkept⟩ := rouses_iff.mp hroused
  obtain ⟨x, queue, hx, -⟩ := keeps_notice_iff.mp hkept
  obtain ⟨rg, partition, hrg, hsub⟩ := hwf.subscriber_of_reader hk hx hparent
  obtain rfl := Option.some.inj (hr.symm.trans hrg)
  exact hbody partition hsub

/-! ## Telling -/

/-- All survivors but the subscribers, with what their listeners hear. -/
theorem told_endpoint (ht : s.Tidy) (hl : s.Leaving p doomed) (hstays : k ∉ doomed)
    (hr : s.entities.get? k = some r) (hbody : ∀ partition, r.body ≠ .subscriber partition) :
    s.Hears (s.told doomed) k r fun g => decide (g ∈ doomed) := by
  have hm := ht.matching
  have hmatched := matchedWith_of_get? hr
  refine unmatchAll_self ht.wellFormed hr hbody hstays (fun _ h => h) hl.nodup
    (fun g _ => (hm.ascending g).nodup) (hmatched ▸ (hm.ascending k).nodup) fun g _ => ?_
  rw [← hmatched]
  exact ⟨hm.symm, hm.symm⟩

/-- Whoever has no peers is told of nobody, nor is anybody who goes. -/
theorem told_nobody (ht : s.Tidy) (hk : s.matchedWith k = [] ∨ k ∈ doomed) :
    s.Stirs (s.told doomed) k := by
  refine unmatchAll_other ht.wellFormed (fun _ h => h) fun g _ hin => ?_
  rcases hk with hnone | hdoomed
  · have hpeer := ht.matching.symm hin
    rw [hnone] at hpeer
    cases hpeer
  · exact hdoomed

theorem DataSigned.told (hs : s.DataSigned) (doomed : List Handle) : (s.told doomed).DataSigned :=
  .foldl (fun _ g ht => ht.unmatchPeers doomed g) hs doomed

theorem told_profile (s : State) (doomed : List Handle) (h : Handle) :
    (s.told doomed).profile h = s.profile h :=
  (agree_unmatchAll profile_ignoresTraffic s doomed doomed).look h

/-- A reader stays if its subscriber does. -/
theorem Leaving.reader_stays (hl : s.Leaving p doomed) (hwf : s.WellFormed)
    (hr : s.entities.get? h = some r) {x : Reader} (hx : r.body = .reader x)
    (hparent : r.parent = some k) (hstays : k ∉ doomed) : h ∉ doomed := by
  intro hdoomed
  obtain ⟨d, hp⟩ := hl.participant
  have hprofile : s.profile h = some r.profile := profile_of_get? hr
  have hrole : r.profile.role = Side.reader.endpoint x.topic x.qos := by
    show r.body.role = _
    rw [hx]
    rfl
  exact hstays (hl.perm.mem_iff.mpr
    (hwf.contained_parent hp (hl.perm.mem_iff.mp hdoomed) hprofile hrole hparent))

/-- A queue that gets a notice holds something. -/
theorem bereft_kept {bound : Nat} {gone : Handle → Bool} {b : Body}
    (hkept : .dataAvailable ∈ b.farewells bound gone) :
    (∀ partition, b ≠ .subscriber partition) ∧
      ∃ x, b.bereft bound gone = .reader x ∧ x.queue ≠ [] := by
  obtain ⟨x, queue, rfl, horphaned, hq⟩ := keeps_notice_iff.mp hkept
  refine ⟨fun _ => Body.noConfusion, _, rfl, ?_⟩
  rw [if_pos horphaned, hq]
  exact enqueue_ne_nil hq

/-- A queue that gets no notice stays. -/
theorem bereft_queue {bound : Nat} {gone : Handle → Bool} {x x' : Reader}
    (hx' : (Body.reader x).bereft bound gone = .reader x')
    (hnone : .dataAvailable ∉ (Body.reader x).farewells bound gone) : x'.queue = x.queue := by
  have hqueue : x'.queue =
      if x.isOrphaned gone then (x.noticed bound).getD x.queue else x.queue := by
    rw [← Body.reader.inj hx']
  cases horphaned : x.isOrphaned gone with
  | false => simp [hqueue, horphaned]
  | true =>
      cases hq : x.noticed bound with
      | none => simp [hqueue, horphaned, hq]
      | some queue => exact absurd (keeps_notice_iff.mpr ⟨x, queue, rfl, horphaned, hq⟩) hnone

/-- Telling shows on a subscriber exactly if one of its readers kept a notice. Whether it does is
read off the queues, which its status follows before and after. -/
theorem told_subscriber (ht : s.Tidy) (hl : s.Leaving p doomed) (hstays : k ∉ doomed)
    (hr : s.entities.get? k = some r) {partition : List String}
    (hbody : r.body = .subscriber partition) :
    (s.told doomed).entities.get? k =
      some (if s.rouses doomed k then r.rouse else r) := by
  have hnone : s.matchedWith k = [] := by simp [matchedWith_of_get? hr, hbody, Body.matched]
  have hsigned := ht.signed.told doomed
  -- an entity that shows its status already is not changed by rousing it
  have hawake : ∀ {r' : Record}, r'.raised.contains .dataOnReaders = true → r'.rouse = r' :=
    fun h => by rw [Record.rouse, StatusMask.insert_of_contains h]
  have hstirs : s.Stirs (s.told doomed) k := told_nobody ht (.inl hnone)
  rcases hstirs.record with hsame | ⟨r₀, _, hr₀, -, hroused⟩
  · rw [hsame, hr]
    split
    · -- some queue holds a notice now, so the status that did not change is up
      rename_i hrouses
      obtain ⟨j, rj, hj, hjstays, hparent, hkept⟩ := rouses_iff.mp hrouses
      obtain ⟨hendpoint, x, hx, hqueue⟩ := bereft_kept hkept
      have hj' := (told_endpoint ht hl hjstays hj hendpoint).record
      have hup : r.raised.contains .dataOnReaders = true :=
        (hsigned.subscriber (hsame.trans hr) hbody).mpr ⟨j, _, x, hj', hparent, hx, hqueue⟩
      rw [hawake hup]
    · rfl
  · obtain rfl := Option.some.inj (hr.symm.trans hr₀)
    rw [hroused]
    split
    · rfl
    · -- the status is up, and what it stands for waited in some queue before
      rename_i hquiet
      have hup : r.rouse.raised.contains .dataOnReaders = true := by simp [Record.rouse]
      obtain ⟨j, rj', x', hj', hparent', hx', hqueue'⟩ :=
        (hsigned.subscriber hroused hbody).mp hup
      obtain ⟨rj, hj, hsame⟩ : ∃ rj, s.entities.get? j = some rj ∧ rj.profile = rj'.profile :=
        profile_eq_some_iff.mp ((told_profile s doomed j).symm.trans
          (profile_of_get? hj'))
      have hparent : rj.parent = some k := (congrArg Profile.parent hsame).trans hparent'
      obtain ⟨x, hx, -⟩ : ∃ x, rj.body = .reader x ∧ x.topic = x'.topic ∧ x.qos = x'.qos := by
        refine Body.role_eq_reader ((congrArg Profile.role hsame).trans ?_)
        show rj'.body.role = _
        rw [hx']
        rfl
      have hjstays := hl.reader_stays ht.wellFormed hj hx hparent hstays
      have htold := (told_endpoint ht hl hjstays hj fun _ h => by rw [hx] at h; cases h).record
      have hbereft : (Body.reader x).bereft s.maxSamples (fun g => decide (g ∈ doomed)) =
          .reader x' := by
        obtain rfl := Option.some.inj (hj'.symm.trans htold)
        rw [← hx', ← hx]
        rfl
      have hqueue : x.queue ≠ [] := by
        rw [← bereft_queue hbereft fun hkept =>
          hquiet (rouses_iff.mpr ⟨j, rj, hj, hjstays, hparent, hx ▸ hkept⟩)]
        exact hqueue'
      rw [hawake ((ht.signed.subscriber hr hbody).mpr ⟨j, rj, x, hj, hparent, hx, hqueue⟩)]

/-- Telling makes survivors of the entities that stay. -/
theorem told_survivor (ht : s.Tidy) (hl : s.Leaving p doomed) (hstays : k ∉ doomed)
    (hr : s.entities.get? k = some r) :
    (s.told doomed).entities.get? k = some (s.survivor doomed k r) := by
  by_cases hsub : ∃ partition, r.body = .subscriber partition
  · obtain ⟨partition, hbody⟩ := hsub
    have hbereft : r.bereft s.maxSamples (fun g => decide (g ∈ doomed)) = r :=
      Record.bereft_of_none fun g hg => by simp [hbody, Body.matched] at hg
    rw [told_subscriber ht hl hstays hr hbody, survivor, hbereft]
  · have hbody := not_exists.mp hsub
    rw [(told_endpoint ht hl hstays hr hbody).record, survivor,
      rouses_eq_false ht.wellFormed hr hbody]
    rfl

/-- The listener calls that are due for each reader after the peers that stay were told. -/
theorem told_callsOf (ht : s.Tidy) (hl : s.Leaving p doomed) (k : Handle) :
    (s.told doomed).callsOf k = s.callsOf k ++ s.farewellCalls doomed k := by
  unfold farewellCalls
  cases hr : s.entities.get? k with
  | none =>
      have hnone : s.matchedWith k = [] := by rw [matchedWith_eq, hr]; rfl
      rw [(told_nobody ht (.inl hnone)).calls, List.append_nil]
  | some r =>
      dsimp only
      by_cases hstays : k ∈ doomed
      · rw [(told_nobody ht (.inr hstays)).calls, if_pos hstays, List.append_nil]
      · rw [if_neg hstays]
        by_cases hsub : ∃ partition, r.body = .subscriber partition
        · obtain ⟨partition, hbody⟩ := hsub
          have hnone : s.matchedWith k = [] := by
            simp [matchedWith_of_get? hr, hbody, Body.matched]
          rw [(told_nobody ht (.inl hnone)).calls, hbody]
          simp [Body.farewells]
        · exact (told_endpoint ht hl hstays hr (not_exists.mp hsub)).calls

/-! ## What a clean-up adds -/

/-- The settings of a state, and the last number that it issued. -/
def settings (s : State) : State :=
  { s with entities := .empty, conditions := .empty, waitSets := .empty, calls := [] }

/-- Listener calls are at most added, and the settings stay. -/
structure Appends (s s' : State) : Prop where
  calls : s.calls <+: s'.calls
  settings : s'.settings = s.settings

namespace Appends

theorem refl (s : State) : s.Appends s := ⟨List.prefix_rfl, rfl⟩

theorem trans (h₁ : s.Appends t) (h₂ : t.Appends s') : s.Appends s' :=
  ⟨h₁.calls.trans h₂.calls, h₂.settings.trans h₁.settings⟩

theorem foldl {α : Type} {f : State → α → State} (hf : ∀ s a, Appends s (f s a)) (s : State)
    (as : List α) : s.Appends (as.foldl f s) := by
  induction as generalizing s with
  | nil => exact refl s
  | cons a rest ih => exact (hf s a).trans (ih (f s a))

theorem modifyEntity (s : State) (h : Handle) (f : Record → Record) :
    s.Appends (s.modifyEntity h f) := ⟨List.prefix_rfl, rfl⟩

theorem raise (s : State) (h : Handle) (kind : StatusKind) : s.Appends (s.raise h kind) := by
  unfold State.raise
  split
  · exact refl s
  · exact ⟨List.prefix_append .., rfl⟩

theorem offer (s : State) (h : Handle) (y : Sample) : s.Appends (s.offer h y) := by
  unfold State.offer
  split
  · exact refl s
  · split
    · exact raise s h _
    · unfold announce
      dsimp only
      split
      · exact ((modifyEntity s h _).trans (raise _ h _)).trans (raise _ _ _)
      · exact (modifyEntity s h _).trans (raise _ h _)

theorem unmatch (s : State) (gone peer : Handle) : s.Appends (s.unmatch gone peer) := by
  unfold State.unmatch
  split
  · exact (modifyEntity s peer _).trans (raise _ peer _)
  · dsimp only
    split
    · exact ((modifyEntity s peer _).trans (raise _ peer _)).trans (offer _ peer _)
    · exact (modifyEntity s peer _).trans (raise _ peer _)
  · exact refl s

theorem told (s : State) (doomed : List Handle) : s.Appends (s.told doomed) :=
  foldl (fun s gone => foldl (fun s peer => unmatch s gone peer) s _) s doomed

theorem remove (s : State) (h : Handle) : s.Appends (s.remove h) := by
  unfold State.remove
  split
  · exact refl s
  · split <;> exact ⟨List.prefix_rfl, rfl⟩

theorem deleteAll (s : State) (doomed : List Handle) : s.Appends (s.deleteAll doomed) :=
  (told s doomed).trans (foldl remove _ doomed)

end Appends

theorem remove_calls (s : State) (h : Handle) : (s.remove h).calls = s.calls := by
  unfold remove
  split
  · rfl
  · split <;> rfl

theorem foldl_remove_callsOf (s : State) (doomed : List Handle) (k : Handle) :
    (doomed.foldl remove s).callsOf k = s.callsOf k := by
  induction doomed generalizing s with
  | nil => rfl
  | cons gone rest ih => rw [List.foldl_cons, ih, callsOf, callsOf, remove_calls]

/-! ## The whole state after a clean-up -/

/-- The state after some entities were deleted: whatever a look-up finds, and the listener calls
that are due for each reader. -/
structure Cleaned (s s' : State) (doomed : List Handle) : Prop where
  entities : ∀ h, s'.entities.get? h =
    if h ∈ doomed then none else (s.entities.get? h).map (s.survivor doomed h)
  conditions : ∀ c, s'.conditions.get? c =
    if c ∈ s.conditionsOf doomed then none else s.conditions.get? c
  waitSets : ∀ w, s'.waitSets.get? w =
    (s.waitSets.get? w).map fun x => x.without (s.conditionsOf doomed)
  callsOf : ∀ h, s'.callsOf h = s.callsOf h ++ s.farewellCalls doomed h
  settings : s'.settings = s.settings

theorem told_conditionsOf (s : State) (doomed : List Handle) :
    (s.told doomed).conditionsOf doomed = s.conditionsOf doomed :=
  congrArg (doomed.filterMap ·)
    (funext (agree_unmatchAll condition_ignoresTraffic s doomed doomed).conditionOf)

theorem cleaned_deleteAll (ht : s.Tidy) (hl : s.Leaving p doomed) :
    s.Cleaned (s.deleteAll doomed) doomed := by
  have hkeeps := KeepsWaits.unmatchAll s doomed doomed
  refine ⟨fun h => ?_, fun c => ?_, fun w => ?_, fun h => ?_, (Appends.deleteAll s doomed).settings⟩
  · refine (foldl_remove_get? (s.told doomed) doomed h).trans ?_
    split
    · rfl
    · rename_i hstays
      cases hr : s.entities.get? h with
      | some r => exact told_survivor ht hl hstays hr
      | none =>
          exact ((agree_unmatchAll profile_ignoresTraffic s doomed doomed).get?_eq_none h).mpr hr
  · refine (foldl_remove_conditions (s.told doomed) doomed c).trans ?_
    rw [told_conditionsOf, told, hkeeps.conditions]
  · refine (foldl_remove_waitSets (s.told doomed) doomed w).trans ?_
    rw [told_conditionsOf, told, hkeeps.waitSets]
  · exact (foldl_remove_callsOf (s.told doomed) doomed h).trans (told_callsOf ht hl h)

/-! ## No trace of an order -/

/-- Two states that no look-up tells apart, and in which the same listener calls are due for each
reader. The tables may list their entries in different orders. -/
structure Alike (s t : State) : Prop where
  entities : ∀ h, t.entities.get? h = s.entities.get? h
  conditions : ∀ c, t.conditions.get? c = s.conditions.get? c
  waitSets : ∀ w, t.waitSets.get? w = s.waitSets.get? w
  callsOf : ∀ h, t.callsOf h = s.callsOf h
  settings : t.settings = s.settings

theorem Alike.profile (ha : s.Alike t) (h : Handle) : t.profile h = s.profile h :=
  congrArg (Option.map Record.profile) (ha.entities h)

theorem Alike.matchedWith (ha : s.Alike t) (h : Handle) : t.matchedWith h = s.matchedWith h := by
  rw [matchedWith_eq, matchedWith_eq, ha.entities]

theorem Alike.maxSamples (ha : s.Alike t) : t.maxSamples = s.maxSamples := by
  show t.settings.maxSamples = s.settings.maxSamples
  rw [ha.settings]

theorem Alike.lastId (ha : s.Alike t) : t.lastId = s.lastId := by
  show t.settings.lastId = s.settings.lastId
  rw [ha.settings]

theorem Alike.tidy (ha : s.Alike t) (ht : s.Tidy) : t.Tidy := by
  refine ⟨?_, ⟨fun e f => ?_, fun e => ?_⟩, ?_⟩
  · exact ht.wellFormed.of_stem_eq (fun h => by rw [ha.entities]) (Nat.le_of_eq ha.lastId.symm)
  · rw [ha.matchedWith, ht.matching.mem_iff, linked_congr ha.profile]
  · rw [ha.matchedWith]
    exact ht.matching.ascending e
  · exact ht.signed.of_signs_eq fun h => congrArg (Option.map Record.signs) (ha.entities h)

theorem Alike.contained_perm (ha : s.Alike t) (p : Handle) :
    (s.contained p).Perm (t.contained p) :=
  (List.perm_ext_iff_of_nodup (s.contained_nodup p) (t.contained_nodup p)).mpr fun h => by
    simp only [mem_contained, ha.profile]

section Alike

variable {doomed' : List Handle}

theorem Alike.rouses (ha : s.Alike t) (hsame : ∀ g, g ∈ doomed' ↔ g ∈ doomed) (h : Handle) :
    t.rouses doomed' h = s.rouses doomed h := by
  rw [Bool.eq_iff_iff, rouses_iff, rouses_iff]
  simp only [ha.entities, ha.maxSamples, hsame]

theorem Alike.survivor (ha : s.Alike t) (hsame : ∀ g, g ∈ doomed' ↔ g ∈ doomed) (h : Handle) :
    t.survivor doomed' h = s.survivor doomed h := by
  funext r
  simp only [State.survivor, ha.rouses hsame, ha.maxSamples, hsame]

theorem Alike.farewellCalls (ha : s.Alike t) (hsame : ∀ g, g ∈ doomed' ↔ g ∈ doomed)
    (h : Handle) : t.farewellCalls doomed' h = s.farewellCalls doomed h := by
  simp only [State.farewellCalls, ha.entities, ha.maxSamples, hsame]

theorem Alike.mem_conditionsOf (ha : s.Alike t) (hsame : ∀ g, g ∈ doomed' ↔ g ∈ doomed)
    (c : ConditionId) : c ∈ t.conditionsOf doomed' ↔ c ∈ s.conditionsOf doomed := by
  simp only [State.mem_conditionsOf, conditionOf, ha.entities, hsame]

/-- A clean-up leaves no trace of an order: not of the order in which the entities go, nor of that
in which the tables list what they hold. -/
theorem Cleaned.alike {t' : State} (ha : s.Alike t) (hsame : ∀ g, g ∈ doomed' ↔ g ∈ doomed)
    (hs : s.Cleaned s' doomed) (ht : t.Cleaned t' doomed') : s'.Alike t' := by
  constructor
  · intro h
    rw [hs.entities, ht.entities, ha.entities, ha.survivor hsame]
    simp only [hsame]
  · intro c
    rw [hs.conditions, ht.conditions, ha.conditions]
    simp only [ha.mem_conditionsOf hsame]
  · intro w
    rw [hs.waitSets, ht.waitSets, ha.waitSets]
    simp only [WaitSet.without, ha.mem_conditionsOf hsame]
  · intro h
    rw [hs.callsOf, ht.callsOf, ha.callsOf, ha.farewellCalls hsame]
  · rw [hs.settings, ht.settings, ha.settings]

end Alike

/-! ## Cleaning a participant up -/

/-- What cleaning a participant up does: what `Cleaned` says of the whole state, and in detail what
becomes of those that stay. -/
structure CleanUp (s s' : State) (p : Handle) : Prop extends s.Cleaned s' (s.contained p) where
  live : ∀ h, s'.isAlive h = true ↔
    ∃ r, s.entities.get? h = some r ∧ (h = p ∨ r.participant ≠ p)
  matched : ∀ h, h ∉ s.contained p →
    s'.matchedWith h = (s.matchedWith h).filter (· ∉ s.contained p)
  published : ∀ {h r w}, s.entities.get? h = some r → r.body = .writer w → h ∉ s.contained p →
    ∃ r', s'.entities.get? h = some r' ∧
      (r'.raised.contains .publicationMatched = true ↔
        r.raised.contains .publicationMatched = true ∨ ∃ g ∈ w.matched, g ∈ s.contained p)
  subscribed : ∀ {h r x}, s.entities.get? h = some r → r.body = .reader x → h ∉ s.contained p →
    ∃ r', s'.entities.get? h = some r' ∧
      (r'.raised.contains .subscriptionMatched = true ↔
        r.raised.contains .subscriptionMatched = true ∨ ∃ g ∈ x.matched, g ∈ s.contained p)
  notice : ∀ h, h ∉ s.contained p → s'.inbox h =
    if s.matchedWith h ≠ [] ∧ ∀ g ∈ s.matchedWith h, g ∈ s.contained p then
      (s.inbox h).map fun b => b.offer s.maxSamples orphanNotice
    else s.inbox h
  dropped : ∀ {h c}, h ∈ s.contained p → s.conditionOf h = some c →
    s'.conditions.get? c = none ∧ ∀ w x, s'.waitSets.get? w = some x → c ∉ x.conditions
  calls : s.calls <+: s'.calls

/-- The statuses of an entity that stays, but the one of a subscriber. -/
theorem survivor_raised (s : State) (doomed : List Handle) (h : Handle) (r : Record)
    {kind : StatusKind} (hkind : kind ≠ .dataOnReaders) :
    (s.survivor doomed h r).raised.contains kind = true ↔
      r.raised.contains kind = true ∨
        kind ∈ r.body.farewells s.maxSamples fun g => decide (g ∈ doomed) := by
  have hbereft : (r.bereft s.maxSamples fun g => decide (g ∈ doomed)).raised.contains kind = true ↔
      r.raised.contains kind = true ∨
        kind ∈ r.body.farewells s.maxSamples fun g => decide (g ∈ doomed) := by
    unfold Record.bereft
    rw [StatusMask.contains_foldl_insert, Bool.or_eq_true, decide_eq_true_eq]
  unfold survivor
  dsimp only
  split
  · simp [Record.rouse, Ne.symm hkind, hbereft]
  · exact hbereft

/-- The status of an endpoint about its peers is raised for those that are gone. -/
theorem publicationMatched_mem_farewells {bound : Nat} {gone : Handle → Bool} {w : Writer} :
    .publicationMatched ∈ (Body.writer w).farewells bound gone ↔
      ∃ g ∈ w.matched, gone g = true := by
  simp [Body.farewells]

theorem subscriptionMatched_mem_farewells {bound : Nat} {gone : Handle → Bool} {x : Reader} :
    .subscriptionMatched ∈ (Body.reader x).farewells bound gone ↔
      ∃ g ∈ x.matched, gone g = true := by
  have hnotice : x.noticeStatus bound ≠ .subscriptionMatched := by
    unfold Reader.noticeStatus
    split <;> exact StatusKind.noConfusion
  simp only [Body.farewells]
  cases x.isOrphaned gone <;> simp [Ne.symm hnotice]

theorem mem_contained_iff_record : h ∈ s.contained p ↔
    ∃ r, s.entities.get? h = some r ∧ h ≠ p ∧ r.participant = p := by
  rw [mem_contained]
  constructor
  · rintro ⟨hne, pr, hpr, hown⟩
    obtain ⟨r, hr, rfl⟩ := profile_eq_some_iff.mp hpr
    exact ⟨r, hr, hne, hown⟩
  · rintro ⟨r, hr, hne, hown⟩
    exact ⟨hne, r.profile, profile_of_get? hr, hown⟩

theorem Cleaned.get?_survivor (hc : s.Cleaned s' doomed) (hstays : h ∉ doomed)
    (hr : s.entities.get? h = some r) : s'.entities.get? h = some (s.survivor doomed h r) := by
  rw [hc.entities, if_neg hstays, hr]
  rfl

/-- What is said in detail of a clean-up. -/
theorem Tidy.cleanUp (ht : s.Tidy) {d : DomainId}
    (hp : s.profile p = some ⟨p, none, .participant d⟩) :
    s.CleanUp (s.deleteAll (s.contained p)) p := by
  -- the state as a whole is known; what follows reads single facts off it
  have hcleaned : s.Cleaned (s.deleteAll (s.contained p)) (s.contained p) :=
    cleaned_deleteAll ht ⟨⟨d, hp⟩, .refl _⟩
  refine
    { toCleaned := hcleaned
      live := fun h => ?_
      matched := fun h hstays => ?_
      published := fun {h r w} hr hbody hstays =>
        ⟨_, hcleaned.get?_survivor hstays hr, ?_⟩
      subscribed := fun {h r x} hr hbody hstays =>
        ⟨_, hcleaned.get?_survivor hstays hr, ?_⟩
      notice := fun h hstays => ?_
      dropped := fun {h c} hgone hcond => ?_
      calls := (Appends.deleteAll s _).calls }
  · unfold isAlive Table.contains
    rw [hcleaned.entities]
    cases hr : s.entities.get? h with
    | none => simp
    | some r =>
        have hgone : h ∈ s.contained p ↔ h ≠ p ∧ r.participant = p := by
          simp [mem_contained_iff_record, hr]
        simp only [hgone]
        by_cases hh : h = p <;> by_cases hown : r.participant = p <;> simp [hh, hown]
  · rw [deleteAll_matchedWith, if_neg hstays]
    refine List.filter_congr fun g hg => ?_
    simp [ht.matching.symm hg]
  · rw [survivor_raised _ _ _ _ (by decide), hbody, publicationMatched_mem_farewells]
    simp
  · rw [survivor_raised _ _ _ _ (by decide), hbody, subscriptionMatched_mem_farewells]
    simp
  · rw [deleteAll_inbox ht.matching (s.contained_nodup p), if_neg hstays]
  · have hmem : c ∈ s.conditionsOf (s.contained p) := mem_conditionsOf.mpr ⟨h, hgone, hcond⟩
    refine ⟨(hcleaned.conditions c).trans (if_pos hmem), fun w x hx hin => ?_⟩
    rw [hcleaned.waitSets] at hx
    obtain ⟨y, -, rfl⟩ := Option.map_eq_some_iff.mp hx
    exact of_decide_eq_true (List.mem_filter.mp hin).2 hmem

/-- After a clean-up there is nothing left to clean up. -/
theorem CleanUp.contained_eq_nil (hc : s.CleanUp s' p) : s'.contained p = [] := by
  refine List.eq_nil_iff_forall_not_mem.mpr fun h hmem => ?_
  obtain ⟨r', hr', hne, hown⟩ := mem_contained_iff_record.mp hmem
  rw [hc.entities] at hr'
  split at hr'
  · cases hr'
  · rename_i hstays
    obtain ⟨r, hr, rfl⟩ := Option.map_eq_some_iff.mp hr'
    have hsame := (s.survivor_identity (s.contained p) h r).1
    exact hstays (mem_contained_iff_record.mpr ⟨r, hr, hne, hsame.symm.trans hown⟩)

/-- In every reachable state, cleaning up a live participant succeeds and does what it should. It
leaves no trace of an order, and doing it again changes nothing. -/
theorem deleteContained_cleans {isFile : String → Bool} (hreach : Reachable isFile s)
    {rp : Record} (hp : s.get p .participant = .ok rp) :
    ∃ s', s.perform isFile (.deleteContained p) = (.done, s') ∧ s.CleanUp s' p ∧
      (∀ {t : State} {doomed : List Handle}, s.Alike t → doomed.Perm (t.contained p) →
        s'.Alike (t.deleteAll doomed)) ∧
      s'.perform isFile (.deleteContained p) = (.done, s') := by
  have ht := tidy_of_reachable hreach
  obtain ⟨d, hprofile⟩ := ht.wellFormed.get_participant hp
  have hdone : ∀ {u : State} {r : Record}, u.get p .participant = .ok r →
      u.perform isFile (.deleteContained p) = (.done, u.deleteAll (u.contained p)) := by
    intro u r hu
    simp only [perform, deleteContained, hu]
    rfl
  have hcleanUp := ht.cleanUp hprofile
  refine ⟨_, hdone hp, hcleanUp, fun {t doomed} ha hperm => ?_, ?_⟩
  · have hl : t.Leaving p doomed := ⟨⟨d, (ha.profile p).trans hprofile⟩, hperm⟩
    have hsame : ∀ g, g ∈ doomed ↔ g ∈ s.contained p := fun g =>
      hperm.mem_iff.trans (ha.contained_perm p).mem_iff.symm
    exact Cleaned.alike ha hsame hcleanUp.toCleaned (cleaned_deleteAll (ha.tidy ht) hl)
  · -- the participant itself stayed, with nothing below it
    obtain ⟨hr, hkind⟩ := get_eq_ok.mp hp
    have hstays : p ∉ s.contained p := fun hmem => (mem_contained.mp hmem).1 rfl
    have hr' := hcleanUp.get?_survivor hstays hr
    have hkind' := (s.survivor_identity (s.contained p) p rp).2.trans hkind
    rw [hdone (get_eq_ok.mpr ⟨hr', hkind'⟩), hcleanUp.contained_eq_nil]
    rfl

/-- Two writers of one participant serve a reader of another. One of them has a status condition,
which is attached to a wait set. -/
def farewellRun : List Operation :=
  [.init [], .createParticipant 7, .registerType ⟨1⟩ "Message",
    .createTopic ⟨1⟩ "chat" "Message", .createPublisher ⟨1⟩ [],
    .createWriter ⟨3⟩ ⟨2⟩ .writerDefault, .createWriter ⟨3⟩ ⟨2⟩ .writerDefault,
    .createParticipant 7, .registerType ⟨6⟩ "Message", .createTopic ⟨6⟩ "chat" "Message",
    .createSubscriber ⟨6⟩ [], .createReader ⟨8⟩ ⟨7⟩ .readerDefault, .statusCondition ⟨4⟩,
    .createWaitSet, .attach ⟨11⟩ ⟨10⟩]

/-- The reader gets one notice for the two writers that it loses. -/
theorem deleteContained_cleans_farewell :
    Reachable (fun _ => false) (new.run (fun _ => false) farewellRun) ∧
      (new.run (fun _ => false) farewellRun).matchedWith ⟨9⟩ = [⟨4⟩, ⟨5⟩] ∧
      ∃ s', (new.run (fun _ => false) farewellRun).perform (fun _ => false)
          (.deleteContained ⟨1⟩) = (.done, s') ∧
        (new.run (fun _ => false) farewellRun).CleanUp s' ⟨1⟩ ∧
        s'.inbox ⟨9⟩ = some ⟨.readerDefault, [orphanNotice], false⟩ := by
  have hreach : Reachable (fun _ => false) (new.run (fun _ => false) farewellRun) :=
    reachable_run (.new _) farewellRun
  have hget : (new.run (fun _ => false) farewellRun).get ⟨1⟩ .participant =
      .ok ⟨.participant, ⟨1⟩, none, 1, .none, none, .participant 7 ["Message"]⟩ :=
    get_eq_ok.mpr (by decide)
  obtain ⟨s', hdone, hclean, -⟩ := deleteContained_cleans hreach hget
  refine ⟨hreach, by decide, s', hdone, hclean, ?_⟩
  rw [hclean.notice ⟨9⟩ (by decide), if_pos (by decide)]
  decide

end DdsBridge.Provider.State
