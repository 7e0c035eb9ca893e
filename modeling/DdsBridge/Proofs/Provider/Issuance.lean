import DdsBridge.Proofs.Provider.Cleanup
import DdsBridge.Proofs.Provider.Coherence
import DdsBridge.Proofs.Provider.Subjects

/-!
# Numbers that were handed out

The provider keeps no record of what is gone. If a look-up finds nothing, the last number issued
decides the answer: a number up to it was handed out, so what it named is gone. But entities, status
conditions and wait sets draw from one counter. What the answer tells is thus whether the number was
handed out for anything at all, and not whether it was ever that of an entity.

* **`Reply.handsOut`**, **`State.handedOut`** — the numbers in an answer, and in the answers of a
  run.
* **`State.Hands`**, **`perform_hands`** — every step hands out the next number or none.
* **`State.Ledger`**, **`ledger_run`** — the counter and the history of a run agree.
* **`State.LooksUp`**, **`LooksUp.perform_eq`** — operations that get as far as looking for an
  entity, and how they answer if it is not there.
* **`lookUp_tells_of_number`** — the answer by the history of the run.
-/

namespace DdsBridge.Provider

/-- The number that an answer hands out, and what bears it. -/
def Reply.handsOut : Reply → Option (Bearer × Nat)
  | .entity e => some (.entity, e.id)
  | .condition c => some (.condition, c.id)
  | .waitSet w => some (.waitSet, w.id)
  | .failed _ | .done | .sample _ => none

namespace State

variable {s s' t : State} {isFile : String → Bool} {operation : Operation} {e : Handle}

/-- The numbers that the answers of a run hand out. -/
def handedOut (isFile : String → Bool) : State → List Operation → List (Bearer × Nat) :=
  trace isFile fun _ _ step => step.1.handsOut.toList

/-! ## Steps that issue no number -/

theorem Appends.lastId (h : s.Appends s') : s'.lastId = s.lastId := by
  show s'.settings.lastId = s.settings.lastId
  rw [h.settings]

theorem Appends.connect (s : State) (w r : Handle) : s.Appends (s.connect w r) := by
  unfold State.connect
  split
  · exact refl s
  · split
    · split
      · exact (raise s w _).trans (raise _ r _)
      · refine .trans ?_ (foldl (fun s y => offer s r y) _ _)
        exact (((modifyEntity s w _).trans (modifyEntity _ r _)).trans (raise _ w _)).trans
          (raise _ r _)
    · exact refl s

theorem Appends.discover (s : State) (e : Handle) : s.Appends (s.discover e) := by
  refine foldl (fun s peer => ?_) s _
  unfold State.meet
  split
  · exact connect s e peer
  · exact connect s peer e

theorem Appends.settleReader (s : State) (r : Handle) : s.Appends (s.settleReader r) := by
  unfold State.settleReader
  dsimp only
  split
  · unfold State.settleSubscriber
    split
    · exact modifyEntity s r _
    · exact (modifyEntity s r _).trans (modifyEntity _ _ _)
  · exact modifyEntity s r _

theorem Appends.take (s : State) (r : Handle) : s.Appends (s.take r).2 := by
  rcases s.take_snd r with h | h | ⟨rest, h | h⟩ <;> rw [h]
  · exact refl s
  · exact settleReader s r
  · exact modifyEntity s r _
  · exact (modifyEntity s r _).trans (settleReader _ r)

theorem Appends.write {w : Handle} {payload : List UInt8} (hok : s.write w payload = (.ok (), s')) :
    s.Appends s' := by
  obtain ⟨x, -, rfl⟩ := write_eq_ok hok
  exact (modifyEntity s w _).trans (foldl (fun s r => offer s r _) _ _)

/-! ## What a step hands out -/

/-- A step hands out no number, or the next one for something that is there from now on, or once
more that of a condition. -/
inductive Hands (s : State) : Reply × State → Prop where
  | nothing {reply : Reply} {s' : State} (hnone : reply.handsOut = none)
      (hid : s'.lastId = s.lastId) : Hands s (reply, s')
  | next {reply : Reply} {s' : State} {b : Bearer}
      (hnew : reply.handsOut = some (b, s.lastId + 1)) (hbears : s'.Bears b (s.lastId + 1))
      (hid : s'.lastId = s.lastId + 1) : Hands s (reply, s')
  | again {c : ConditionId} (hbears : s.Bears .condition c.id) : Hands s (.condition c, s)

/-- What comes is the next number, because no other one is above the old counter and not above the
new one. -/
theorem Gains.hands (h : s.Gains e s') (hid : s'.lastId = s.lastId + 1) :
    s.Hands (.entity e, s') := by
  have hnew : e.id = s.lastId + 1 := by
    have hfresh := h.fresh
    have hissued := h.issued
    omega
  obtain ⟨r, hr, -⟩ := h.alive
  exact .next (congrArg some (Prod.ext rfl hnew)) ⟨r, hnew ▸ hr⟩ hid

/-- Every operation, by what it hands out. -/
theorem perform_hands (hc : s.Conditioned) (isFile : String → Bool) (operation : Operation) :
    s.Hands (s.perform isFile operation) := by
  have hcase := perform_cases isFile s operation
  generalize s.perform isFile operation = result at hcase ⊢
  cases hcase with
  | created => exact (insert_gains s _ _ _ _).hands rfl
  | joined => exact (joined_gains s _ _ _ _ _).hands (Appends.discover _ _).lastId
  | cleared => exact .nothing rfl (Appends.deleteAll s _).lastId
  | wrote hok => exact .nothing rfl (Appends.write hok).lastId
  | took r => exact .nothing (by cases (s.take r).1 <;> rfl) (Appends.take s r).lastId
  | asked hok =>
      rcases statusCondition_eq_ok hok with ⟨hcond, rfl⟩ | ⟨-, -, rfl, rfl⟩
      · obtain ⟨mask, hknown⟩ := hc.known hcond
        exact .again ⟨_, hknown⟩
      · exact .next (b := .condition) rfl ⟨_, (Table.get?_insert ..).trans (if_pos rfl)⟩ rfl
  | enabled hok =>
      obtain ⟨-, rfl⟩ := setEnabled_eq_ok hok
      exact .nothing rfl rfl
  | madeWaitSet =>
      exact .next (b := .waitSet) rfl ⟨_, (Table.get?_insert ..).trans (if_pos rfl)⟩ rfl
  | droppedWaitSet hok =>
      obtain ⟨-, rfl⟩ := deleteWaitSet_eq_ok hok
      exact .nothing rfl rfl
  | released h => exact .nothing rfl (release_lastId s h)
  | _ => exact .nothing rfl rfl

/-! ## The history of a run -/

/-- What was handed out is the numbers up to the last one issued, each of them for things of one
sort, and whatever bears a number had it handed out. -/
structure Ledger (s : State) (given : List (Bearer × Nat)) : Prop where
  issued : ∀ n, (∃ b, (b, n) ∈ given) ↔ 0 < n ∧ n ≤ s.lastId
  unique : ∀ {b c n}, (b, n) ∈ given → (c, n) ∈ given → b = c
  bears : ∀ {b n}, s.Bears b n → (b, n) ∈ given

theorem ledger_new (maxSamples : Nat) : (new maxSamples).Ledger [] := by
  refine ⟨fun n => ?_, fun hb => absurd hb List.not_mem_nil, fun {b n} hb => ?_⟩
  · have hlast : (new maxSamples).lastId = 0 := rfl
    simp only [List.not_mem_nil, exists_false, false_iff]
    omega
  · cases b <;> obtain ⟨_, hx⟩ := hb <;> cases hx

/-- A step keeps the ledger if its answer is entered into it. -/
theorem Ledger.step {given : List (Bearer × Nat)} {step : Reply × State} (hl : s.Ledger given)
    (hn : s.Numbered) (hhands : s.Hands step) (hissues : s.IssuesSome step.2) :
    step.2.Ledger (given ++ step.1.handsOut.toList) := by
  obtain ⟨b', -, hissues⟩ := hissues
  cases hhands with
  | @nothing reply s' hnone hid =>
      have hlast : (reply, s').2.lastId = s.lastId := hid
      rw [hnone, Option.toList_none, List.append_nil]
      refine ⟨fun n => by rw [hl.issued, hid], hl.unique, fun hc => ?_⟩
      rcases hissues hc with hold | ⟨-, hnew, hle⟩
      · exact hl.bears hold
      · omega
  | @next reply s' b hnew hbears hid =>
      rw [hnew, Option.toList_some]
      have hmem : ∀ {c n}, (c, n) ∈ given ++ [(b, s.lastId + 1)] ↔
          (c, n) ∈ given ∨ (c = b ∧ n = s.lastId + 1) := by
        simp
      -- a number in the ledger was issued, so the new one was not in it
      have hold : ∀ {c n}, (c, n) ∈ given → n ≤ s.lastId := fun hin =>
        ((hl.issued _).mp ⟨_, hin⟩).2
      refine ⟨fun n => ?_, fun {c d n} hc hd => ?_, fun {c n} hc => hmem.mpr ?_⟩
      · have hbefore := hl.issued n
        simp only [hmem, exists_or, hbefore, exists_eq_left]
        have hlast : s'.lastId = s.lastId + 1 := hid
        show _ ↔ 0 < n ∧ n ≤ s'.lastId
        omega
      · rcases hmem.mp hc with hin | ⟨rfl, hn⟩ <;> rcases hmem.mp hd with hin' | ⟨rfl, hn'⟩
        · exact hl.unique hin hin'
        · have hle := hold hin
          omega
        · have hle := hold hin'
          omega
        · rfl
      · have hsort : b = b' := by
          rcases hissues hbears with hwas | ⟨hsame, -, -⟩
          · have hle := hn.issued hwas
            omega
          · exact hsame
        rcases hissues hc with hwas | ⟨rfl, hfresh, hle⟩
        · exact .inl (hl.bears hwas)
        · have hlast : s'.lastId = s.lastId + 1 := hid
          have hle' : n ≤ s'.lastId := hle
          exact .inr ⟨hsort.symm, by omega⟩
  | @again c hbears =>
      have hmem : ∀ {b n}, (b, n) ∈ given ++ [(Bearer.condition, c.id)] ↔ (b, n) ∈ given := by
        intro b n
        have hin := hl.bears hbears
        rw [List.mem_append, List.mem_singleton]
        exact or_iff_left_of_imp fun hsame => hsame ▸ hin
      show s.Ledger (given ++ [(Bearer.condition, c.id)])
      exact ⟨fun n => by simp only [hmem, hl.issued], fun hb hd => hl.unique (hmem.mp hb) (hmem.mp hd),
        fun hb => hmem.mpr (hl.bears hb)⟩

theorem ledger_run {given : List (Bearer × Nat)} (hl : s.Ledger given)
    (hreach : Reachable isFile s) (operations : List Operation) :
    (s.run isFile operations).Ledger (given ++ s.handedOut isFile operations) := by
  induction operations generalizing s given with
  | nil => exact (List.append_nil given).symm ▸ hl
  | cons operation rest ih =>
      have hstep := hl.step (numbered_of_reachable hreach)
        (perform_hands (conditioned_of_reachable hreach) isFile operation)
        (perform_issues (wellFormed_of_reachable hreach) isFile operation)
      have hrest := ih hstep (.step hreach operation)
      rw [List.append_assoc] at hrest
      exact hrest

/-! ## Look-ups that find nothing -/

/-- What an operation is refused for before it looks at any entity. -/
def ready (s : State) : Operation → Bool
  | .registerType _ typeName => !typeName.isEmpty
  | .createTopic .. | .createPublisher .. | .createSubscriber .. => s.initialized
  | .createWriter _ _ qos | .createReader _ _ qos => qos.history.isConsistent && s.initialized
  | _ => true

/-- An operation looks for an entity: nothing refuses it before, and whatever it looks for first is
there. -/
def LooksUp (s : State) (operation : Operation) (e : Handle) : Prop :=
  s.ready operation = true ∧ ∃ earlier kind later,
    operation.subjects = earlier ++ (e, kind) :: later ∧ ∀ subject ∈ earlier, s.Has subject

theorem isAlive_eq_false_iff : s.isAlive e = false ↔ s.entities.get? e = none :=
  Option.isSome_eq_false_iff.trans Option.isNone_iff_eq_none

theorem get_of_not_alive (hgone : s.isAlive e = false) (kind : EntityKind) :
    s.get e kind = .error (s.missing e) := by
  rw [get, isAlive_eq_false_iff.mp hgone]

theorem requireInit_of_initialized (h : s.initialized = true) : s.requireInit = .ok () := by
  rw [requireInit, if_pos h]

/-- Where an operation looks for one entity only. -/
theorem LooksUp.one (hlooks : s.LooksUp operation e) {e' : Handle} {kind' : Option EntityKind}
    (hone : operation.subjects = [(e', kind')]) : e' = e := by
  obtain ⟨-, earlier, kind, later, hsplit, -⟩ := hlooks
  rw [hone] at hsplit
  cases earlier with
  | nil => exact congrArg Prod.fst (List.cons.inj hsplit).1
  | cons first earlier => simp at hsplit

/-- Where an operation looks for a group and then for a topic. -/
theorem LooksUp.two (hlooks : s.LooksUp operation e) {g t : Handle} {kind' : EntityKind}
    (htwo : operation.subjects = [(g, some kind'), (t, some .topic)]) :
    g = e ∨ (t = e ∧ ∃ r, s.get g kind' = .ok r) := by
  obtain ⟨-, earlier, kind, later, hsplit, hearlier⟩ := hlooks
  rw [htwo] at hsplit
  rcases earlier with _ | ⟨first, _ | ⟨second, earlier⟩⟩
  · exact .inl (congrArg Prod.fst (List.cons.inj hsplit).1)
  · obtain ⟨rfl, hrest⟩ := List.cons.inj hsplit
    obtain ⟨r, hr, hkind⟩ := hearlier _ (List.mem_singleton_self _)
    exact .inr ⟨congrArg Prod.fst (List.cons.inj hrest).1, r, get_eq_ok.mpr ⟨hr, hkind _ rfl⟩⟩
  · simp at hsplit

theorem commonParticipant_eq_error {g t : Handle} {kind : EntityKind}
    (hgone : s.isAlive e = false) (hlooks : g = e ∨ (t = e ∧ ∃ r, s.get g kind = .ok r)) :
    s.commonParticipant g kind t = .error (s.missing e) := by
  unfold commonParticipant participantOf
  rcases hlooks with rfl | ⟨rfl, r, hr⟩
  · rw [get_of_not_alive hgone]
    rfl
  · rw [hr, get_of_not_alive hgone]
    rfl

/-- An operation that looks for an entity which is not there is refused with what the last number
issued says of it. -/
theorem LooksUp.perform_eq (hlooks : s.LooksUp operation e) (hgone : s.isAlive e = false)
    (isFile : String → Bool) : s.perform isFile operation = (.failed (s.missing e), s) := by
  have hget := get_of_not_alive hgone
  have hready := hlooks.1
  cases operation with
  | deleteContained p =>
      obtain rfl := hlooks.one rfl
      simp only [perform, deleteContained, hget]
      rfl
  | registerType p typeName =>
      obtain rfl := hlooks.one rfl
      have hname : typeName.isEmpty = false := by simpa [ready] using hready
      simp only [perform, registerType, hname, hget]
      rfl
  | createTopic p name typeName =>
      obtain rfl := hlooks.one rfl
      simp only [perform, createTopic, requireInit_of_initialized hready, hget]
      rfl
  | createPublisher p partition =>
      obtain rfl := hlooks.one rfl
      simp only [perform, createPublisher, requireInit_of_initialized hready, hget]
      rfl
  | createSubscriber p partition =>
      obtain rfl := hlooks.one rfl
      simp only [perform, createSubscriber, requireInit_of_initialized hready, hget]
      rfl
  | createWriter g t qos =>
      obtain ⟨hqos, hinit⟩ := (Bool.and_eq_true _ _).mp hready
      simp only [perform, createWriter, hqos, requireInit_of_initialized hinit,
        commonParticipant_eq_error hgone (hlooks.two rfl)]
      rfl
  | createReader g t qos =>
      obtain ⟨hqos, hinit⟩ := (Bool.and_eq_true _ _).mp hready
      simp only [perform, createReader, hqos, requireInit_of_initialized hinit,
        commonParticipant_eq_error hgone (hlooks.two rfl)]
      rfl
  | write w payload =>
      obtain rfl := hlooks.one rfl
      simp only [perform, write, hget]
      rfl
  | take r =>
      obtain rfl := hlooks.one rfl
      simp only [perform, take, hget]
      rfl
  | statusCondition e' =>
      obtain rfl := hlooks.one rfl
      simp only [perform, statusCondition, isAlive_eq_false_iff.mp hgone]
      rfl
  | setListener r listener mask =>
      obtain rfl := hlooks.one rfl
      simp only [perform, setListener, hget]
      rfl
  | _ =>
      -- the other operations look for no entity
      obtain ⟨-, earlier, kind, later, hsplit, -⟩ := hlooks
      exact absurd (congrArg List.length hsplit) (by simp [Operation.subjects])

theorem missing_eq_alreadyDeleted_iff :
    s.missing e = .alreadyDeleted ↔ 0 < e.id ∧ e.id ≤ s.lastId := by
  rw [missing, Nat.pos_iff_ne_zero]
  split <;> simp_all

theorem missing_eq_badParameter_iff :
    s.missing e = .badParameter ↔ ¬(0 < e.id ∧ e.id ≤ s.lastId) := by
  rw [missing, Nat.pos_iff_ne_zero]
  split <;> simp_all

/-- After a run, an operation that looks for an entity which is not there answers `alreadyDeleted`
exactly if the run handed out that number, for an entity, a status condition or a wait set, and
`badParameter` exactly if it did not; and it handed it out for things of one sort only. So the
number of an entity that is gone is told from one that was never issued, but the number of a
condition or a wait set is taken for that of an entity that is gone. -/
theorem lookUp_tells_of_number (isFile : String → Bool) (maxSamples : Nat)
    (operations : List Operation)
    (hgone : ((new maxSamples).run isFile operations).isAlive e = false)
    (hlooks : ((new maxSamples).run isFile operations).LooksUp operation e) :
    (∃ code, (((new maxSamples).run isFile operations).perform isFile operation).1 = .failed code ∧
      (code = .alreadyDeleted ↔ ∃ b, (b, e.id) ∈ (new maxSamples).handedOut isFile operations) ∧
      (code = .badParameter ↔ ∀ b, (b, e.id) ∉ (new maxSamples).handedOut isFile operations)) ∧
    ∀ b c, (b, e.id) ∈ (new maxSamples).handedOut isFile operations →
      (c, e.id) ∈ (new maxSamples).handedOut isFile operations → b = c := by
  have hnew : Reachable isFile (.new maxSamples) := .new maxSamples
  have hl := ledger_run (ledger_new maxSamples) hnew operations
  rw [List.nil_append] at hl
  refine ⟨⟨_, congrArg Prod.fst (hlooks.perform_eq hgone isFile), ?_, ?_⟩, fun b c => hl.unique⟩
  · rw [missing_eq_alreadyDeleted_iff, hl.issued]
  · rw [missing_eq_badParameter_iff, ← hl.issued, not_exists]

deriving instance DecidableEq for Bearer

/-- A publisher that is gone, with a status condition and a wait set that are there. -/
def sortsRun : List Operation :=
  [.init [], .createParticipant 0, .createPublisher ⟨1⟩ [], .statusCondition ⟨1⟩, .createWaitSet,
    .deleteContained ⟨1⟩]

theorem lookUp_tells_of_number_sorts :
    (new.run (fun _ => false) sortsRun).isAlive ⟨2⟩ = false ∧
      (new.run (fun _ => false) sortsRun).LooksUp (.createTopic ⟨2⟩ "chat" "Message") ⟨2⟩ ∧
      ((new.run (fun _ => false) sortsRun).perform (fun _ => false)
        (.createTopic ⟨2⟩ "chat" "Message")).1 = .failed .alreadyDeleted := by
  have hgone : (new.run (fun _ => false) sortsRun).isAlive ⟨2⟩ = false := by decide
  have hlooks : (new.run (fun _ => false) sortsRun).LooksUp (.createTopic ⟨2⟩ "chat" "Message") ⟨2⟩ :=
    ⟨by decide, [], _, [], rfl, fun _ hmem => absurd hmem List.not_mem_nil⟩
  obtain ⟨⟨code, hreply, hdeleted, -⟩, -⟩ := lookUp_tells_of_number _ _ sortsRun hgone hlooks
  refine ⟨hgone, hlooks, hreply.trans (congrArg Reply.failed (hdeleted.mpr ⟨.entity, ?_⟩))⟩
  decide

/-- A number that was never that of an entity is taken for that of one that is gone: it is that of
a wait set. -/
theorem lookUp_of_waitSet :
    (new.run (fun _ => false) [.createWaitSet]).isAlive ⟨1⟩ = false ∧
      (new.run (fun _ => false) [.createWaitSet]).LooksUp (.take ⟨1⟩) ⟨1⟩ ∧
      (.entity, 1) ∉ new.handedOut (fun _ => false) [.createWaitSet] ∧
      ((new.run (fun _ => false) [.createWaitSet]).perform (fun _ => false) (.take ⟨1⟩)).1 =
        .failed .alreadyDeleted :=
  ⟨by decide, ⟨by decide, [], _, [], rfl, fun _ hmem => absurd hmem List.not_mem_nil⟩, by decide,
    by decide⟩

end State

end DdsBridge.Provider
