import DdsBridge.Proofs.Provider.Offers

/-!
# A new endpoint in any order of the table

A new writer or reader meets its peers in the order in which the table lists them, and that order
means nothing. Each meeting is a list of updates of single records; two such updates commute unless
both replace a queue, and only the replay of a history replaces one. So the meetings of a new writer
commute, and those of a new reader do if no more than one of them replays anything.

* **`State.Shuffled`** — states that differ in the order of the entities and of the calls only.
* **`Mark`**, **`State.mark`** — an update of one record, with the calls that it makes due.
* **`mark_swaps`** — two updates in either order.
* **`Meeting`**, **`meet_eq`** — a meeting as a list of updates, fixed before the first one.
* **`Shuffled.meetAll`** — meetings in any order.
* **`creation_in_any_order`** — creating a writer or a reader.
-/

namespace DdsBridge

theorem Table.modify_of_get?_eq_none {κ α : Type} [DecidableEq κ] {t : Table κ α} {k : κ}
    (h : t.get? k = none) (f : α → α) : t.modify k f = t := by
  refine Table.ext ((List.map_congr_left fun e he => ?_).trans (List.map_id _))
  have hne : e.1 ≠ k := fun hk =>
    Table.not_mem_keys_of_get?_eq_none h (hk ▸ List.mem_map_of_mem he)
  simp [hne]

theorem StatusMask.insert_comm (mask : StatusMask) (a b : StatusKind) :
    (mask.insert a).insert b = (mask.insert b).insert a := by
  unfold StatusMask.insert
  rw [StatusMask.mk.injEq, UInt32.or_assoc, UInt32.or_comm a.bit, UInt32.or_assoc]

namespace Provider

/-- Two handles are added in either order, whether or not the list is ascending. -/
theorem insertHandle_comm (a b : Handle) (l : List Handle) :
    insertHandle a (insertHandle b l) = insertHandle b (insertHandle a l) := by
  by_cases h : a.id = b.id
  · obtain rfl : a = b := by cases a; cases b; exact congrArg Handle.mk h
    rfl
  · induction l with
    | nil => grind [insertHandle]
    | cons x rest ih => grind [insertHandle]

/-! ## Updates of one record -/

/-- An update of one record: a status is raised, an endpoint remembers a peer, or the queue of a
reader is replaced. -/
inductive Mark where
  | raised (handle : Handle) (kind : StatusKind)
  | joined (side : Side) (handle peer : Handle)
  | queued (handle : Handle) (queue : List Sample)

namespace Mark

variable {m m' : Mark}

/-- The entity that the record belongs to. -/
def target : Mark → Handle
  | raised h _ => h
  | joined _ h _ => h
  | queued h _ => h

/-- What becomes of the record. -/
def update : Mark → Record → Record
  | raised _ kind, r => { r with raised := r.raised.insert kind }
  | joined .writer _ peer, r =>
    match r.body with
    | .writer w => { r with body := .writer { w with matched := insertHandle peer w.matched } }
    | _ => r
  | joined .reader _ peer, r =>
    match r.body with
    | .reader x => { r with body := .reader { x with matched := insertHandle peer x.matched } }
    | _ => r
  | queued _ queue, r =>
    match r.body with
    | .reader x => { r with body := .reader { x with queue } }
    | _ => r

/-- The listener calls that it makes due. -/
def callsFor : Mark → Record → List Call
  | raised h kind, r => r.callFor h kind
  | _, _ => []

/-- Whether the queues stay. -/
def sparesQueues : Mark → Bool
  | queued .. => false
  | _ => true

/-- Two updates of one record are the same in either order, unless both replace the queue. -/
theorem update_comm (h : m.sparesQueues = true ∨ m'.sparesQueues = true) (r : Record) :
    m.update (m'.update r) = m'.update (m.update r) := by
  obtain ⟨kind, participant, parent, refs, raised, condition, body⟩ := r
  rcases m with ⟨_, kind⟩ | ⟨_ | _, _, peer⟩ | ⟨_, queue⟩ <;>
    rcases m' with ⟨_, kind'⟩ | ⟨_ | _, _, peer'⟩ | ⟨_, queue'⟩ <;>
    cases body <;>
    simp_all [update, sparesQueues, StatusMask.insert_comm, insertHandle_comm]

/-- No update touches a listener. -/
@[simp] theorem callsFor_update (m m' : Mark) (r : Record) :
    m.callsFor (m'.update r) = m.callsFor r := by
  obtain ⟨kind, participant, parent, refs, raised, condition, body⟩ := r
  cases m with
  | raised h kind =>
      rcases m' with _ | ⟨_ | _, _, _⟩ | _ <;> cases body <;> rfl
  | _ => rfl

end Mark

/-- The updates that offering a sample to an entity with this record comes down to: a reader refuses
it, or queues it and announces it. -/
def Record.offerMarks (bound : Nat) (h : Handle) (x : Sample) (r : Record) : List Mark :=
  match r.body with
  | .reader y =>
    match State.enqueue y.qos.history bound y.queue x with
    | none => [.raised h .sampleRejected]
    | some queue =>
      .queued h queue :: .raised h .dataAvailable ::
        r.parent.toList.map (Mark.raised · .dataOnReaders)
  | _ => []

/-- What becomes of a sample depends on the queue only. -/
theorem Mark.offerMarks_update {m : Mark} (hm : m.sparesQueues = true) (r : Record) (bound : Nat)
    (h : Handle) (x : Sample) : (m.update r).offerMarks bound h x = r.offerMarks bound h x := by
  obtain ⟨kind, participant, parent, refs, raised, condition, body⟩ := r
  rcases m with _ | ⟨_ | _, _, _⟩ | _
  · rfl
  · cases body <;> rfl
  · cases body <;> rfl
  · cases hm

/-- The partitions of a publisher or subscriber. -/
def Role.partition : Role → List String
  | .publisher partition => partition
  | .subscriber partition => partition
  | _ => []

namespace State

variable {s t u : State} {m m' : Mark}

/-- The same state but for the order in which the table lists the entities, and for the order of the
listener calls that are due. -/
structure Shuffled (s t : State) : Prop where
  entities : ∀ h, t.entities.get? h = s.entities.get? h
  calls : t.calls.Perm s.calls
  rest : { t with entities := s.entities, calls := s.calls } = s

namespace Shuffled

theorem refl (s : State) : s.Shuffled s := ⟨fun _ => rfl, .rfl, rfl⟩

theorem symm (h : s.Shuffled t) : t.Shuffled s :=
  ⟨fun k => (h.entities k).symm, h.calls.symm,
    (congrArg (fun u => { u with entities := t.entities, calls := t.calls }) h.rest).symm⟩

theorem trans (h₁ : s.Shuffled t) (h₂ : t.Shuffled u) : s.Shuffled u :=
  ⟨fun k => (h₂.entities k).trans (h₁.entities k), h₂.calls.trans h₁.calls,
    (congrArg (fun u => { u with entities := s.entities, calls := s.calls }) h₂.rest).trans h₁.rest⟩

theorem maxSamples (h : s.Shuffled t) : t.maxSamples = s.maxSamples :=
  (congrArg State.maxSamples h.rest :)

theorem lastId (h : s.Shuffled t) : t.lastId = s.lastId :=
  (congrArg State.lastId h.rest :)

theorem initialized (h : s.Shuffled t) : t.initialized = s.initialized :=
  (congrArg State.initialized h.rest :)

theorem profile (h : s.Shuffled t) (k : Handle) : t.profile k = s.profile k :=
  congrArg (Option.map Record.profile) (h.entities k)

theorem history (h : s.Shuffled t) (k : Handle) : t.history k = s.history k :=
  congrArg (Option.bind · Record.history) (h.entities k)

theorem keys_perm (h : s.Shuffled t) : s.entities.keys.Perm t.entities.keys :=
  (List.perm_ext_iff_of_nodup s.entities.distinct t.entities.distinct).mpr fun k => by
    show k ∈ s.entities.keys ↔ k ∈ t.entities.keys
    rw [Table.mem_keys_iff, Table.mem_keys_iff, h.entities]

end Shuffled

/-- The calls that an update makes due. -/
def due (s : State) (m : Mark) : List Call :=
  match s.entities.get? m.target with
  | some r => m.callsFor r
  | none => []

/-- Carries an update out. -/
def mark (s : State) (m : Mark) : State :=
  { s.modifyEntity m.target m.update with calls := s.calls ++ s.due m }

/-- Carries updates out, one after the other. -/
def markAll (s : State) (ms : List Mark) : State := ms.foldl mark s

theorem mark_get? (s : State) (m : Mark) (k : Handle) :
    (s.mark m).entities.get? k =
      if k = m.target then (s.entities.get? k).map m.update else s.entities.get? k :=
  modifyEntity_get? ..

theorem due_mark (s : State) (m m' : Mark) : (s.mark m').due m = s.due m := by
  unfold due
  rw [mark_get?]
  cases s.entities.get? m.target with
  | none => rw [Option.map_none, ite_self]
  | some r =>
      by_cases htarget : m.target = m'.target
      · rw [if_pos htarget]
        exact m.callsFor_update m' r
      · rw [if_neg htarget]

/-! ## Updates in either order -/

/-- An operation on states that cannot tell shuffled states apart. -/
def Steady (f : State → State) : Prop := ∀ {s t}, s.Shuffled t → (f s).Shuffled (f t)

/-- Two operations that may be done in either order. -/
def Swaps (f g : State → State) : Prop := ∀ s, (f (g s)).Shuffled (g (f s))

theorem Swaps.symm {f g : State → State} (h : Swaps f g) : Swaps g f := fun s => (h s).symm

section Folds

variable {α : Type} {f : State → State} {g : State → α → State} {as bs : List α}

theorem Steady.foldl (hg : ∀ a, Steady (g · a)) (as : List α) : Steady (as.foldl g ·) := by
  intro s t h
  induction as generalizing s t with
  | nil => exact h
  | cons a rest ih => exact ih (hg a h)

theorem Swaps.foldl (hg : ∀ a, Steady (g · a)) (hswap : ∀ a ∈ as, Swaps f (g · a)) :
    Swaps f (as.foldl g ·) := by
  intro s
  induction as generalizing s with
  | nil => exact .refl _
  | cons a rest ih =>
      have hrest := ih (fun b hb => hswap b (List.mem_cons_of_mem a hb)) (g s a)
      exact hrest.trans (Steady.foldl hg rest (hswap a List.mem_cons_self s))

/-- What may be done in either order two by two may be done in any order. -/
theorem Shuffled.foldl (h : s.Shuffled t) (hg : ∀ a, Steady (g · a)) (hperm : as.Perm bs)
    (hswap : ∀ a ∈ as, ∀ b ∈ as, a ≠ b → Swaps (g · a) (g · b)) :
    (as.foldl g s).Shuffled (bs.foldl g t) := by
  induction hperm generalizing s t with
  | nil => exact h
  | cons a _ ih =>
      exact ih (hg a h) fun b hb c hc =>
        hswap b (List.mem_cons_of_mem a hb) c (List.mem_cons_of_mem a hc)
  | swap a b rest =>
      have hpair : (g (g s b) a).Shuffled (g (g t a) b) := by
        by_cases hab : a = b
        · subst hab
          exact hg a (hg a h)
        · exact (hswap a (by simp) b (by simp) hab s).trans (hg b (hg a h))
      exact Steady.foldl hg rest hpair
  | trans h₁ _ ih₁ ih₂ =>
      refine (ih₁ (.refl s) hswap).trans (ih₂ h fun a ha b hb => ?_)
      exact hswap a (h₁.mem_iff.mpr ha) b (h₁.mem_iff.mpr hb)

end Folds

theorem steady_mark (m : Mark) : Steady (mark · m) := by
  intro s t h
  refine ⟨fun k => ?_, ?_, ?_⟩
  · rw [mark_get?, mark_get?, h.entities]
  · have hdue : t.due m = s.due m := by rw [due, due, h.entities]
    exact h.calls.append (.of_eq hdue)
  · exact congrArg (fun u =>
      { u with entities := (s.mark m).entities, calls := (s.mark m).calls }) h.rest

/-- Two updates of records may be carried out in either order, unless both replace a queue. -/
theorem mark_swaps (h : m.sparesQueues = true ∨ m'.sparesQueues = true) :
    Swaps (mark · m) (mark · m') := by
  intro s
  refine ⟨fun k => ?_, ?_, rfl⟩
  · simp only [mark_get?]
    split
    · split
      · rw [Option.map_map, Option.map_map]
        exact congrArg (Option.map · _) (funext fun r => m'.update_comm h.symm r)
      · rfl
    · rfl
  · show (s.calls ++ s.due m ++ (s.mark m).due m').Perm (s.calls ++ s.due m' ++ (s.mark m').due m)
    rw [due_mark, due_mark, List.append_assoc, List.append_assoc]
    exact List.perm_append_comm.append_left _

/-! ## Offers as updates -/

theorem raise_eq_mark (s : State) (h : Handle) (kind : StatusKind) :
    s.raise h kind = s.mark (.raised h kind) := by
  unfold raise mark due Mark.target Mark.callsFor
  cases hr : s.entities.get? h with
  | none =>
      dsimp only
      rw [List.append_nil, modifyEntity, Table.modify_of_get?_eq_none hr]
  | some r => rfl

/-- Nobody is called for anything but a status. -/
theorem modifyEntity_eq_mark (hm : ∀ r, m.callsFor r = []) (s : State) :
    s.modifyEntity m.target m.update = s.mark m := by
  have hdue : s.due m = [] := by
    unfold due
    cases s.entities.get? m.target with
    | none => rfl
    | some r => exact hm r
  rw [mark, hdue, List.append_nil]
  rfl

theorem announce_eq_markAll {h : Handle} {r : Record} (hr : s.entities.get? h = some r) :
    s.announce h = s.markAll
      (.raised h .dataAvailable :: r.parent.toList.map (Mark.raised · .dataOnReaders)) := by
  unfold announce
  rw [hr, Option.bind_some]
  cases r.parent with
  | none => exact raise_eq_mark s h _
  | some g =>
      dsimp only
      rw [raise_eq_mark, raise_eq_mark]
      rfl

/-- The updates that offering a sample to a reader comes down to. -/
def offerMarks (s : State) (h : Handle) (x : Sample) : List Mark :=
  match s.entities.get? h with
  | some r => r.offerMarks s.maxSamples h x
  | none => []

theorem offer_eq_markAll (s : State) (h : Handle) (x : Sample) :
    s.offer h x = s.markAll (s.offerMarks h x) := by
  unfold offer offerMarks reader?
  cases hr : s.entities.get? h with
  | none => rfl
  | some r =>
      cases hbody : r.body with
      | reader y =>
          simp only [Option.map_some, hbody, Record.offerMarks]
          cases enqueue y.qos.history s.maxSamples y.queue x with
          | none => exact raise_eq_mark s h _
          | some queue =>
              have hmarked : (s.mark (.queued h queue)).entities.get? h =
                  some { r with body := .reader { y with queue } } := by
                refine (mark_get? ..).trans ((if_pos rfl).trans ?_)
                rw [hr]
                simp only [Option.map_some, Mark.update, hbody]
              have hmark := modifyEntity_eq_mark (m := .queued h queue) (fun _ => rfl) s
              have hannounced := announce_eq_markAll hmarked
              exact (congrArg (announce · h) hmark).trans hannounced
      | _ => simp only [Option.map_some, hbody, Record.offerMarks]; rfl

theorem offerMarks_mark (hm : m.sparesQueues = true) (s : State) (h : Handle) (x : Sample) :
    (s.mark m).offerMarks h x = s.offerMarks h x := by
  unfold offerMarks
  rw [mark_get?]
  cases s.entities.get? h with
  | none => rw [Option.map_none, ite_self]
  | some r =>
      by_cases htarget : h = m.target
      · rw [if_pos htarget]
        exact Mark.offerMarks_update hm r _ h x
      · rw [if_neg htarget]
        rfl

theorem steady_markAll (ms : List Mark) : Steady (markAll · ms) := Steady.foldl steady_mark ms

theorem steady_offer (h : Handle) (x : Sample) : Steady (offer · h x) := by
  intro s t hst
  have hmarks : t.offerMarks h x = s.offerMarks h x := by
    rw [offerMarks, offerMarks, hst.entities, hst.maxSamples]
  show (s.offer h x).Shuffled (t.offer h x)
  rw [offer_eq_markAll, offer_eq_markAll, hmarks]
  exact steady_markAll _ hst

/-- An update that leaves the queues alone may come before or after an offer. -/
theorem mark_swaps_offer (hm : m.sparesQueues = true) (h : Handle) (x : Sample) :
    Swaps (mark · m) (offer · h x) := by
  intro s
  show ((s.offer h x).mark m).Shuffled ((s.mark m).offer h x)
  rw [offer_eq_markAll, offer_eq_markAll, offerMarks_mark hm]
  exact Swaps.foldl steady_mark (fun m' _ => mark_swaps (.inl hm)) s

/-! ## Meetings as updates -/

/-- What comes of a meeting: updates that leave the queues alone, then samples for the reader. -/
structure Meeting where
  reader : Handle
  marks : List Mark
  samples : List Sample
  spares : ∀ m ∈ marks, m.sparesQueues = true

/-- Carries a meeting out. -/
def Meeting.hold (meeting : Meeting) (s : State) : State :=
  (s.markAll meeting.marks).offerAll meeting.reader meeting.samples

/-- What comes of a meeting of a writer and a reader, told from what they are and from what the writer
has kept. -/
def meeting (s : State) (w r : Handle) : Meeting :=
  match (s.writer? w).map Writer.qos, (s.reader? r).map Reader.qos with
  | some offered, some requested =>
    if !s.sharePartition w r then ⟨r, [], [], by simp⟩
    else
      match incompatiblePolicy offered requested with
      | some _ =>
        ⟨r, [.raised w .offeredIncompatibleQos, .raised r .requestedIncompatibleQos], [],
          by simp [Mark.sparesQueues]⟩
      | none =>
        ⟨r, [.joined .writer w r, .joined .reader r w, .raised w .publicationMatched,
          .raised r .subscriptionMatched], s.keptFor w r, by simp [Mark.sparesQueues]⟩
  | _, _ => ⟨r, [], [], by simp⟩

theorem connect_eq_hold (s : State) (w r : Handle) :
    s.connect w r = (s.meeting w r).hold s := by
  unfold connect meeting
  cases hshare : s.sharePartition w r with
  | false =>
      rw [Bool.not_false, if_pos rfl]
      split <;> rfl
  | true =>
      cases hw : s.writer? w with
      | none => rfl
      | some x =>
          cases hr : s.reader? r with
          | none => rfl
          | some y =>
              simp only [Bool.not_true, Bool.false_eq_true, if_false, Option.map_some]
              cases incompatiblePolicy x.qos y.qos with
              | some policy =>
                  dsimp only
                  rw [raise_eq_mark, raise_eq_mark]
                  rfl
              | none =>
                  have hjoined := modifyEntity_eq_mark (m := .joined .writer w r) (fun _ => rfl) s
                  have hjoined' := modifyEntity_eq_mark (m := .joined .reader r w) (fun _ => rfl)
                    (s.mark (.joined .writer w r))
                  -- the two lists and the two statuses are marks that do not depend on each other
                  have hmarks : (((s.modifyWriter w fun w =>
                      { w with matched := insertHandle r w.matched }).modifyReader r fun r =>
                        { r with matched := insertHandle w r.matched }).raise w
                          .publicationMatched).raise r .subscriptionMatched =
                      s.markAll [.joined .writer w r, .joined .reader r w,
                        .raised w .publicationMatched, .raised r .subscriptionMatched] := by
                    rw [raise_eq_mark, raise_eq_mark]
                    exact congrArg (fun u => (mark u _).mark _)
                      ((congrArg (modifyEntity · r _) hjoined).trans hjoined')
                  have hkept : s.keptFor w r =
                      (replay x y.qos).map fun payload => ⟨payload, .valid w⟩ := by
                    simp only [keptFor, hw, hr]
                  dsimp only
                  rw [Meeting.hold, hmarks, hkept]

theorem writerQos_congr {w : Handle} (h : t.profile w = s.profile w) :
    (t.writer? w).map Writer.qos = (s.writer? w).map Writer.qos := by
  have hrole : ∀ s : State, (s.writer? w).map Writer.qos =
      (s.profile w).bind fun p => match p.role with
        | .writer _ qos => some qos
        | _ => none := by
    intro s
    unfold writer? State.profile
    cases s.entities.get? w with
    | none => rfl
    | some r =>
        obtain ⟨_, _, _, _, _, _, body⟩ := r
        cases body <;> rfl
  rw [hrole, hrole, h]

theorem sharePartition_congr (h : ∀ k, t.profile k = s.profile k) (w r : Handle) :
    t.sharePartition w r = s.sharePartition w r := by
  have hparent : ∀ k, (t.entities.get? k).bind Record.parent =
      (s.entities.get? k).bind Record.parent := by
    intro k
    have hprofile := congrArg (Option.bind · Profile.parent) (h k)
    simp only [State.profile, Option.bind_map] at hprofile
    exact hprofile
  have hpartition : ∀ group, t.partitionOf group = s.partitionOf group := by
    intro group
    -- the partition of a group is part of its role
    have hrole : ∀ s : State, s.partitionOf group =
        ((group.bind s.profile).map fun p => p.role.partition).getD [] := by
      intro s
      unfold partitionOf
      cases group with
      | none => rfl
      | some g =>
          simp only [Option.bind_some, State.profile]
          cases s.entities.get? g with
          | none => rfl
          | some r =>
              obtain ⟨_, _, _, _, _, _, body⟩ := r
              cases body <;> rfl
    rw [hrole, hrole, funext h]
  rw [sharePartition, sharePartition, hparent, hparent, hpartition, hpartition]

/-- What comes of a meeting is fixed before it is held, and before any other is. -/
theorem meeting_congr (hprofile : ∀ k, t.profile k = s.profile k)
    (hhistory : ∀ k, t.history k = s.history k) (w r : Handle) : t.meeting w r = s.meeting w r := by
  unfold meeting
  rw [writerQos_congr (hprofile w), readerQos_congr (hprofile r), sharePartition_congr hprofile,
    keptFor_congr (hhistory w) (hprofile r)]

/-- What comes of the meeting of an endpoint with a peer. -/
def meetingWith (s : State) (e peer : Handle) : Meeting :=
  match (s.writer? e).map Writer.qos with
  | some _ => s.meeting e peer
  | none => s.meeting peer e

theorem meet_eq (s : State) (e peer : Handle) : s.meet e peer = (s.meetingWith e peer).hold s := by
  unfold meet meetingWith
  cases s.writer? e with
  | some _ => exact connect_eq_hold s e peer
  | none => exact connect_eq_hold s peer e

/-- What comes of all meetings of an endpoint is fixed before the first. -/
theorem meetAll_eq {e : Handle} (hprofile : ∀ k, t.profile k = s.profile k)
    (hhistory : ∀ k, t.history k = s.history k) (peers : List Handle) :
    t.meetAll e peers = peers.foldl (fun u peer => (s.meetingWith e peer).hold u) t := by
  unfold meetAll
  induction peers generalizing t with
  | nil => rfl
  | cons peer rest ih =>
      have hsame : t.meetingWith e peer = s.meetingWith e peer := by
        unfold meetingWith
        rw [writerQos_congr (hprofile e), meeting_congr hprofile hhistory,
          meeting_congr hprofile hhistory]
      rw [List.foldl_cons, List.foldl_cons, ← hsame, ← meet_eq]
      exact ih (fun k => ((agree_meet profile_ignoresTraffic t e peer).look k).trans (hprofile k))
        fun k => ((agree_meet history_ignoresTraffic t e peer).history k).trans (hhistory k)

/-! ## Meetings in either order -/

theorem steady_offerAll (h : Handle) (xs : List Sample) : Steady (offerAll · h xs) :=
  Steady.foldl (steady_offer h) xs

theorem steady_hold (meeting : Meeting) : Steady meeting.hold := fun h =>
  steady_offerAll _ _ (steady_markAll _ h)

section Spares

variable {ms : List Mark} (hms : ∀ m ∈ ms, m.sparesQueues = true)
include hms

theorem markAll_swaps (ms' : List Mark) : Swaps (markAll · ms) (markAll · ms') := by
  have hone : ∀ m' ∈ ms', Swaps (markAll · ms) (mark · m') := fun m' _ =>
    (Swaps.foldl steady_mark fun m hm => mark_swaps (.inr (hms m hm))).symm
  exact Swaps.foldl steady_mark hone

theorem markAll_swaps_offerAll (h : Handle) (xs : List Sample) :
    Swaps (markAll · ms) (offerAll · h xs) := by
  have hone : ∀ x ∈ xs, Swaps (markAll · ms) (offer · h x) := fun x _ =>
    (Swaps.foldl steady_mark fun m hm => (mark_swaps_offer (hms m hm) h x).symm).symm
  exact Swaps.foldl (steady_offer h) hone

end Spares

theorem hold_swaps_silent {a b : Meeting} (hb : b.samples = []) : Swaps a.hold b.hold := by
  intro s
  unfold Meeting.hold
  rw [hb]
  have hmarks := steady_offerAll a.reader a.samples (markAll_swaps a.spares b.marks s)
  exact hmarks.trans (markAll_swaps_offerAll b.spares a.reader a.samples (s.markAll a.marks)).symm

/-- Two meetings may be held in either order, unless a history is replayed in both. -/
theorem hold_swaps {a b : Meeting} (h : a.samples = [] ∨ b.samples = []) :
    Swaps a.hold b.hold := by
  rcases h with ha | hb
  · exact (hold_swaps_silent ha).symm
  · exact hold_swaps_silent hb

/-- Of the meetings of an endpoint, at most one replays a history. -/
def OneReplays (s : State) (e : Handle) (peers : List Handle) : Prop :=
  ∀ a ∈ peers, ∀ b ∈ peers, a ≠ b →
    (s.meetingWith e a).samples = [] ∨ (s.meetingWith e b).samples = []

/-- Meetings may be held in any order, if at most one of them replays a history. -/
theorem Shuffled.meetAll {e : Handle} {peers peers' : List Handle} (h : s.Shuffled t)
    (hperm : peers.Perm peers') (hone : s.OneReplays e peers) :
    (s.meetAll e peers).Shuffled (t.meetAll e peers') := by
  rw [meetAll_eq (s := s) (fun _ => rfl) fun _ => rfl, meetAll_eq h.profile h.history]
  exact h.foldl (fun _ => steady_hold _) hperm fun a ha b hb hne => hold_swaps (hone a ha b hb hne)

/-! ## A new endpoint -/

theorem Shuffled.topicKey (h : s.Shuffled t) (e : Handle) : t.topicKey e = s.topicKey e := by
  unfold State.topicKey domainOf
  simp only [h.entities]

theorem Shuffled.peersOf (h : s.Shuffled t) (e : Handle) : (s.peersOf e).Perm (t.peersOf e) := by
  unfold State.peersOf
  rw [h.entities, h.topicKey]
  split
  · simp only [h.entities, h.topicKey]
    exact h.keys_perm.filter _
  · exact .rfl

theorem Shuffled.discover {e : Handle} (h : s.Shuffled t) (hone : s.OneReplays e (s.peersOf e)) :
    (s.discover e).Shuffled (t.discover e) := h.meetAll (h.peersOf e) hone

theorem Shuffled.insert (h : s.Shuffled t) (kind : EntityKind)
    (participant parent : Option Handle) (body : Body) :
    (s.insert kind participant parent body).2.Shuffled
      (t.insert kind participant parent body).2 := by
  have hnext : t.next = s.next := congrArg (fun id => Handle.mk (id + 1)) h.lastId
  refine ⟨fun k => ?_, h.calls, ?_⟩
  · rw [insert_get?, insert_get?, hnext, h.entities]
  · exact congrArg (fun u => { u with
      lastId := u.lastId + 1, entities := (s.insert kind participant parent body).2.entities }) h.rest

/-- A meeting replays what the writer has kept for the reader if it ends in a match, and else
nothing. -/
theorem meeting_samples (s : State) (w r : Handle) :
    (s.meeting w r).samples = [] ∨ s.Joins w r ∧ (s.meeting w r).samples = s.keptFor w r := by
  unfold meeting
  cases hw : s.writer? w with
  | none => exact .inl rfl
  | some x =>
      cases hr : s.reader? r with
      | none => exact .inl rfl
      | some y =>
          dsimp only [Option.map_some]
          cases hshare : s.sharePartition w r with
          | false => exact .inl rfl
          | true =>
              cases hqos : incompatiblePolicy x.qos y.qos with
              | some policy => exact .inl rfl
              | none => exact .inr ⟨⟨hshare, x, y, hw, hr, hqos⟩, rfl⟩

section NewEndpoint

variable {isFile : String → Bool} {side : Side} {p g topic : Handle} {qos : EndpointQos}

/-- A new writer has nothing to replay. -/
theorem oneReplays_newWriter (hwf : s.WellFormed)
    (hplaced : s.Placed s.next ⟨p, some g, Side.writer.endpoint topic qos⟩) (peers : List Handle) :
    (s.withEndpoint .writer p g topic qos).OneReplays s.next peers := by
  obtain ⟨site, hat⟩ := hwf.newEndpointAt hplaced
  obtain ⟨x, hx, -⟩ := hat.writer
  have hnone := withEndpoint_history s .writer p g topic qos
  intro a _ b _ _
  left
  unfold meetingWith
  rw [hx, Option.map_some]
  rcases meeting_samples (s.withEndpoint .writer p g topic qos) s.next a with hnil | ⟨-, hkept⟩
  · exact hnil
  · exact hkept.trans (keptFor_of_history (.inr hnone) a)

/-- At most one of some writers has kept anything. -/
def OneHasKept (s : State) (writers : List Handle) : Prop :=
  ∀ w ∈ writers, ∀ w' ∈ writers,
    (s.history w).getD [] ≠ [] → (s.history w').getD [] ≠ [] → w = w'

instance (s : State) (writers : List Handle) : Decidable (s.OneHasKept writers) :=
  inferInstanceAs (Decidable (∀ w ∈ writers, ∀ w' ∈ writers,
    (s.history w).getD [] ≠ [] → (s.history w').getD [] ≠ [] → w = w'))

/-- A writer that replays something to a new reader is matched with it, and has kept something. -/
theorem newReader_replayed (hm : s.Matching) (hwf : s.WellFormed)
    (hplaced : s.Placed s.next ⟨p, some g, Side.reader.endpoint topic qos⟩) {w : Handle}
    (hw : w ∈ (s.withEndpoint .reader p g topic qos).peersOf s.next)
    (hsamples : ((s.withEndpoint .reader p g topic qos).meetingWith s.next w).samples ≠ []) :
    w ∈ ((s.withEndpoint .reader p g topic qos).discover s.next).matchedWith s.next ∧
      (s.history w).getD [] ≠ [] := by
  obtain ⟨site, hat⟩ := hwf.newEndpointAt hplaced
  obtain ⟨other, hpeer, hkey⟩ := (mem_peersOf_iff (hwf.withEndpoint hplaced) hat).mp hw
  have hne : w ≠ s.next := by
    rintro rfl
    exact absurd (hat.unique hpeer).1 (by simp [Side.opposite])
  unfold meetingWith at hsamples
  rw [hat.writer?_eq_none, Option.map_none] at hsamples
  obtain ⟨hjoin, hkept⟩ :=
    (meeting_samples (s.withEndpoint .reader p g topic qos) w s.next).resolve_left hsamples
  constructor
  · rw [(hm.joined hwf hplaced).mem_iff, discover_linked, linked_iff_of_reader hat,
      compatible_iff hpeer hat, ← joins_iff_serves hpeer hat hkey.symm]
    exact hjoin
  · have hhistory := insert_history s .reader (some p) (some g) (Side.reader.newBody topic qos) w hne
    rw [← hhistory]
    intro hnil
    refine hsamples (hkept.trans (keptFor_of_history ?_ s.next))
    cases hx : (s.withEndpoint .reader p g topic qos).history w with
    | none => exact .inl rfl
    | some kept => exact .inr (congrArg some ((congrArg (Option.getD · []) hx).symm.trans hnil))

theorem oneReplays_newReader (hm : s.Matching) (hwf : s.WellFormed)
    (hplaced : s.Placed s.next ⟨p, some g, Side.reader.endpoint topic qos⟩)
    (hone : s.OneHasKept
      (((s.withEndpoint .reader p g topic qos).discover s.next).matchedWith s.next)) :
    (s.withEndpoint .reader p g topic qos).OneReplays s.next
      ((s.withEndpoint .reader p g topic qos).peersOf s.next) := by
  intro a ha b hb hne
  by_cases hreplayed :
      ((s.withEndpoint .reader p g topic qos).meetingWith s.next a).samples = []
  · exact .inl hreplayed
  · refine .inr (Classical.not_not.mp fun hreplayed' => ?_)
    obtain ⟨hmatched, hkept⟩ := newReader_replayed hm hwf hplaced ha hreplayed
    obtain ⟨hmatched', hkept'⟩ := newReader_replayed hm hwf hplaced hb hreplayed'
    exact hne (hone a hmatched b hmatched' hkept hkept')

/-- Creates a writer or a reader. -/
def createEndpoint (s : State) (side : Side) (group topic : Handle) (qos : EndpointQos) :
    Result Handle :=
  if !qos.history.isConsistent then s.fail .inconsistentPolicy
  else
    s.proceed s.requireInit fun _ =>
    s.proceed (s.commonParticipant group side.groupKind topic) fun participant =>
      s.insertEndpoint side.kind participant group (side.newBody topic qos)

theorem perform_create (isFile : String → Bool) (s : State) (side : Side) (g topic : Handle)
    (qos : EndpointQos) :
    s.perform isFile (side.create g topic qos) =
      (s.createEndpoint side g topic qos).settleWith .entity := by
  cases side <;> rfl

/-- The checks before a creation do not tell shuffled states apart. -/
theorem Shuffled.createEndpoint (h : s.Shuffled t) (side : Side) (g topic : Handle)
    (qos : EndpointQos) :
    (∃ code, s.createEndpoint side g topic qos = s.fail code ∧
        t.createEndpoint side g topic qos = t.fail code) ∨
      ∃ p, s.commonParticipant g side.groupKind topic = .ok p ∧ qos.history.isConsistent = true ∧
        s.createEndpoint side g topic qos =
          s.insertEndpoint side.kind p g (side.newBody topic qos) ∧
        t.createEndpoint side g topic qos =
          t.insertEndpoint side.kind p g (side.newBody topic qos) := by
  have hinit : t.requireInit = s.requireInit := by rw [requireInit, requireInit, h.initialized]
  have hcommon : t.commonParticipant g side.groupKind topic =
      s.commonParticipant g side.groupKind topic := by
    unfold commonParticipant participantOf get missing
    rw [h.entities, h.entities, h.lastId]
  unfold State.createEndpoint
  rw [hinit, hcommon]
  cases hqos : qos.history.isConsistent with
  | false => exact .inl ⟨_, rfl, rfl⟩
  | true =>
      cases s.requireInit with
      | error code => exact .inl ⟨_, rfl, rfl⟩
      | ok _ =>
          cases hp : s.commonParticipant g side.groupKind topic with
          | error code => exact .inl ⟨_, rfl, rfl⟩
          | ok p => exact .inr ⟨p, rfl, rfl, rfl, rfl⟩

/-- If a creation succeeds, at most one of the meetings of the new endpoint replays a history. -/
def CreationReplaysOne (s : State) (side : Side) (g topic : Handle) (qos : EndpointQos) : Prop :=
  ∀ p, s.commonParticipant g side.groupKind topic = .ok p → qos.history.isConsistent = true →
    s.createEndpoint side g topic qos =
      s.insertEndpoint side.kind p g (side.newBody topic qos) →
    (s.withEndpoint side p g topic qos).OneReplays s.next
      ((s.withEndpoint side p g topic qos).peersOf s.next)

/-- A creation ends alike in shuffled states, if at most one writer replays anything. -/
theorem Shuffled.perform_create (h : s.Shuffled t) (isFile : String → Bool)
    (hone : s.CreationReplaysOne side g topic qos) :
    (t.perform isFile (side.create g topic qos)).1 = (s.perform isFile (side.create g topic qos)).1 ∧
      (s.perform isFile (side.create g topic qos)).2.Shuffled
        (t.perform isFile (side.create g topic qos)).2 := by
  rw [State.perform_create, State.perform_create]
  rcases h.createEndpoint side g topic qos with ⟨code, hs, ht⟩ | ⟨p, hcommon, hqos, hs, ht⟩
  · rw [hs, ht]
    exact ⟨rfl, h⟩
  · have hnext : t.next = s.next := congrArg (fun id => Handle.mk (id + 1)) h.lastId
    have hmet : (s.insertEndpoint side.kind p g (side.newBody topic qos)).2.Shuffled
        (t.insertEndpoint side.kind p g (side.newBody topic qos)).2 := by
      show ((s.withEndpoint side p g topic qos).discover s.next).Shuffled
        ((t.withEndpoint side p g topic qos).discover t.next)
      rw [hnext]
      exact (h.insert _ _ _ _).discover (hone p hcommon hqos hs)
    rw [hs, ht]
    exact ⟨congrArg Reply.entity hnext, hmet⟩

/-- A creation ends alike in any two orders of the table. -/
theorem perform_create_shuffled (isFile : String → Bool) (side : Side) (ht : s.Shuffled t)
    (hu : s.Shuffled u) (hone : s.CreationReplaysOne side g topic qos) :
    (t.perform isFile (side.create g topic qos)).1 = (u.perform isFile (side.create g topic qos)).1 ∧
      (t.perform isFile (side.create g topic qos)).2.Shuffled
        (u.perform isFile (side.create g topic qos)).2 := by
  obtain ⟨hreply, hstate⟩ := ht.perform_create isFile hone
  obtain ⟨hreply', hstate'⟩ := hu.perform_create isFile hone
  exact ⟨hreply.trans hreply'.symm, hstate.symm.trans hstate'⟩

theorem creationReplaysOne_writer (hwf : s.WellFormed) :
    s.CreationReplaysOne .writer g topic qos := fun _ hp hqos _ =>
  oneReplays_newWriter hwf (placed_endpoint hwf .writer hqos hp) _

theorem creationReplaysOne_reader (hm : s.Matching) (hwf : s.WellFormed)
    (hkept : ∀ r s', s.perform isFile (.createReader g topic qos) = (.entity r, s') →
      s.OneHasKept (s'.matchedWith r)) : s.CreationReplaysOne .reader g topic qos := by
  intro p hp hqos hcreated
  refine oneReplays_newReader hm hwf (placed_endpoint hwf .reader hqos hp) (hkept _ _ ?_)
  exact (perform_create isFile s .reader g topic qos).trans
    (congrArg (Result.settleWith Reply.entity) hcreated)

end NewEndpoint

/-- In every reachable state, creating a writer ends alike whatever the order in which the table lists
the entities, and so does creating a reader that matches at most one writer that has kept anything. The
entities are the same, with their statuses, matched peers and queues; the same listener calls are due,
each as often. -/
theorem creation_in_any_order {isFile : String → Bool} (hreach : Reachable isFile s)
    (ht : s.Shuffled t) (hu : s.Shuffled u) (g topic : Handle) (qos : EndpointQos) :
    ((t.perform isFile (.createWriter g topic qos)).1 =
        (u.perform isFile (.createWriter g topic qos)).1 ∧
      (t.perform isFile (.createWriter g topic qos)).2.Shuffled
        (u.perform isFile (.createWriter g topic qos)).2) ∧
    ((∀ r s', s.perform isFile (.createReader g topic qos) = (.entity r, s') →
        s.OneHasKept (s'.matchedWith r)) →
      (t.perform isFile (.createReader g topic qos)).1 =
          (u.perform isFile (.createReader g topic qos)).1 ∧
        (t.perform isFile (.createReader g topic qos)).2.Shuffled
          (u.perform isFile (.createReader g topic qos)).2) := by
  have hwf := wellFormed_of_reachable hreach
  have hm := matching_of_reachable hreach
  exact ⟨perform_create_shuffled isFile .writer ht hu (creationReplaysOne_writer hwf),
    fun hkept => perform_create_shuffled isFile .reader ht hu
      (creationReplaysOne_reader hm hwf hkept)⟩

/-- The state whose table lists the entities the other way round. -/
def backwards (s : State) : State :=
  { s with
    entities :=
      ⟨s.entities.entries.reverse,
        by rw [List.map_reverse]; exact List.pairwise_reverse.mpr (s.entities.distinct.imp Ne.symm)⟩ }

theorem shuffled_backwards (s : State) : s.Shuffled s.backwards := by
  refine ⟨fun h => Option.ext fun r => ?_, .rfl, rfl⟩
  rw [← Table.mem_entries_iff, ← Table.mem_entries_iff]
  exact List.mem_reverse

/-- What the two writers of the following run offer. -/
def keptWriter : EndpointQos :=
  { EndpointQos.writerDefault with durability := .transientLocal }

/-- What a late reader requests. -/
def keptReader : EndpointQos :=
  { EndpointQos.readerDefault with durability := .transientLocal }

/-- Two durable writers, one of which has written, and two readers with listeners. -/
def audienceRun : List Operation :=
  [.init [], .createParticipant 7, .registerType ⟨1⟩ "Message", .createTopic ⟨1⟩ "chat" "Message",
    .createPublisher ⟨1⟩ [], .createSubscriber ⟨1⟩ [], .createWriter ⟨3⟩ ⟨2⟩ keptWriter,
    .createWriter ⟨3⟩ ⟨2⟩ keptWriter, .write ⟨5⟩ [1], .createReader ⟨4⟩ ⟨2⟩ .readerDefault,
    .createReader ⟨4⟩ ⟨2⟩ .readerDefault, .setListener ⟨7⟩ (some .channel) .all,
    .setListener ⟨8⟩ (some .channel) .all]

/-- The table lists the entities of the run in either direction. A new writer calls the listeners of the
readers in either order, and a late reader finds the one payload that was written. -/
theorem creation_in_any_order_audience :
    Reachable (fun _ => false) (new.run (fun _ => false) audienceRun) ∧
      ((new.run (fun _ => false) audienceRun).perform (fun _ => false)
          (.createWriter ⟨3⟩ ⟨2⟩ keptWriter)).2.Shuffled
        ((new.run (fun _ => false) audienceRun).backwards.perform (fun _ => false)
          (.createWriter ⟨3⟩ ⟨2⟩ keptWriter)).2 ∧
      ((new.run (fun _ => false) audienceRun).perform (fun _ => false)
          (.createWriter ⟨3⟩ ⟨2⟩ keptWriter)).2.calls ≠
        ((new.run (fun _ => false) audienceRun).backwards.perform (fun _ => false)
          (.createWriter ⟨3⟩ ⟨2⟩ keptWriter)).2.calls ∧
      ((new.run (fun _ => false) audienceRun).backwards.perform (fun _ => false)
          (.createReader ⟨4⟩ ⟨2⟩ keptReader)).2.inbox ⟨9⟩ =
        some ⟨keptReader, [⟨[1], .valid ⟨5⟩⟩], false⟩ := by
  have hreach : Reachable (fun _ => false) (new.run (fun _ => false) audienceRun) :=
    reachable_run (.new _) audienceRun
  obtain ⟨⟨-, hwriter⟩, hreader⟩ := creation_in_any_order hreach (.refl _) (shuffled_backwards _)
    ⟨3⟩ ⟨2⟩ keptWriter
  have hkept : ∀ r s', (new.run (fun _ => false) audienceRun).perform (fun _ => false)
      (.createReader ⟨4⟩ ⟨2⟩ keptReader) = (.entity r, s') →
      (new.run (fun _ => false) audienceRun).OneHasKept (s'.matchedWith r) := by
    intro r s' hcreated
    have hreply : ((new.run (fun _ => false) audienceRun).perform (fun _ => false)
      (.createReader ⟨4⟩ ⟨2⟩ keptReader)).1 = .entity ⟨9⟩ := by decide
    rw [hcreated] at hreply
    cases hreply
    have hstate := congrArg Prod.snd hcreated
    subst hstate
    decide
  obtain ⟨-, hfound⟩ := (creation_in_any_order hreach (.refl _) (shuffled_backwards _)
    ⟨4⟩ ⟨2⟩ keptReader).2 hkept
  refine ⟨hreach, hwriter, by decide, ?_⟩
  have hinbox : ((new.run (fun _ => false) audienceRun).perform (fun _ => false)
      (.createReader ⟨4⟩ ⟨2⟩ keptReader)).2.inbox ⟨9⟩ =
        some ⟨keptReader, [⟨[1], .valid ⟨5⟩⟩], false⟩ := by decide
  exact (congrArg (Option.bind · Record.inbox) (hfound.entities ⟨9⟩)).trans hinbox

end State

end Provider
end DdsBridge
