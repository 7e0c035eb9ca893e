import DdsBridge.Proofs.Provider.Delivery
import DdsBridge.Proofs.Provider.TypeNames

/-!
# Replay and live delivery agree

A durable writer and a reader bound what they keep each in its own way, and a reader that comes late
gets its samples through both: first the writer forgets, then the queue does. As long as the queue
is the shorter of the two, this makes no difference to having been there from the start.

* **`IsLast`** — the last elements of a list, up to a number of them; **`IsLast.snoc`**,
  **`IsLast.trans`** — one more element, and the last ones of the last ones.
* **`State.Remembers`**, **`remembers_run`** — what a writer keeps of what was written on it.
* **`Evolves.offers_from_peer`**, **`offeredTo_from_peer`** — a reader that is matched with one
  writer is offered what is written on it.
* **`late_queue`** — what a reader finds that comes late.
* **`replay_agrees_with_delivery`** — both, in every run.
-/

namespace DdsBridge.Provider

/-! ## The last elements of a list -/

/-- A list consists of the last elements of another: of `k` of them, or of all if there are not as
many. -/
def IsLast {α : Type} (k : Nat) (kept all : List α) : Prop :=
  kept <:+ all ∧ kept.length = min all.length k

namespace IsLast

variable {α β : Type} {k d : Nat} {kept all : List α}

theorem nil (k : Nat) : IsLast k ([] : List α) [] := ⟨List.suffix_refl _, (Nat.zero_min k).symm⟩

/-- One more element, for which the oldest one is dropped if there are too many. -/
theorem snoc (h : IsLast k kept all) (x : α) :
    IsLast k ((kept ++ [x]).drop ((kept ++ [x]).length - k)) (all ++ [x]) := by
  obtain ⟨⟨front, hfront⟩, hlength⟩ := h
  constructor
  · refine (List.drop_suffix _ _).trans ⟨front, ?_⟩
    rw [← List.append_assoc, hfront]
  · rw [List.length_drop, List.length_append, List.length_append, List.length_singleton]
    omega

/-- There is only one list of the last elements. -/
theorem unique {kept' : List α} (h : IsLast k kept all) (h' : IsLast k kept' all) :
    kept = kept' := by
  rw [List.suffix_iff_eq_drop.mp h.1, List.suffix_iff_eq_drop.mp h'.1, h.2, h'.2]

/-- The last elements of the last elements. -/
theorem trans {few : List α} (h : IsLast k kept all) (h' : IsLast d few kept) (hd : d ≤ k) :
    IsLast d few all := by
  refine ⟨h'.1.trans h.1, ?_⟩
  rw [h'.2, h.2]
  omega

theorem map (h : IsLast k kept all) (f : α → β) : IsLast k (kept.map f) (all.map f) := by
  refine ⟨?_, by rw [List.length_map, List.length_map, h.2]⟩
  obtain ⟨front, rfl⟩ := h.1
  exact ⟨front.map f, List.map_append.symm⟩

end IsLast

/-- An untouched queue that keeps the last samples holds the last of what was offered. -/
theorem Inbox.Moves.isLast {bound : Nat} {qos : EndpointQos} {b : Inbox} {events : List QueueEvent}
    (h : (⟨qos, [], false⟩ : Inbox).Moves bound events b) (hkind : qos.history.kind = .keepLast)
    (huntaken : takenBy events = []) :
    IsLast (qos.history.capacity bound) b.queue (offeredBy events) :=
  ⟨h.run.suffix hkind, h.run.length_eq hkind huntaken⟩

/-- What a writer keeps of what was written on it: the last payloads if it is durable, and nothing
otherwise. -/
def Writer.Remembers (bound : Nat) (written : List (List UInt8)) (x : Writer) : Prop :=
  if x.qos.durability.isDurable then IsLast (x.qos.history.capacity bound) x.history written
  else x.history = []

namespace State

/-! ## What a writer remembers -/

theorem remember_of_durable {qos : EndpointQos} (hdurable : qos.durability.isDurable = true)
    (bound : Nat) (history : List (List UInt8)) (payload : List UInt8) :
    remember qos bound history payload =
      (history ++ [payload]).drop ((history ++ [payload]).length - qos.history.capacity bound) :=
  if_pos hdurable

theorem remember_of_volatile {qos : EndpointQos} (hvolatile : ¬qos.durability.isDurable = true)
    (bound : Nat) (history : List (List UInt8)) (payload : List UInt8) :
    remember qos bound history payload = history := if_neg hvolatile

/-- Writing more keeps the history in line with what was written. -/
theorem remembers_foldl {x x' : Writer} {bound : Nat} {written payloads : List (List UInt8)}
    (h : x.Remembers bound written) (hqos : x'.qos = x.qos)
    (hhistory : x'.history = payloads.foldl (remember x.qos bound) x.history) :
    x'.Remembers bound (written ++ payloads) := by
  unfold Writer.Remembers at h ⊢
  rw [hqos, hhistory]
  clear hhistory
  generalize x.history = history at h ⊢
  by_cases hdurable : x.qos.durability.isDurable = true
  · rw [if_pos hdurable] at h ⊢
    induction payloads generalizing history written with
    | nil => rwa [List.append_nil]
    | cons payload rest ih =>
        have hrest := ih _ (h.snoc payload)
        rw [List.append_assoc] at hrest
        rw [List.foldl_cons, remember_of_durable hdurable]
        exact hrest
  · rw [if_neg hdurable] at h ⊢
    subst h
    induction payloads with
    | nil => rfl
    | cons payload rest ih => rwa [List.foldl_cons, remember_of_volatile hdurable]

/-- What is known of a writer when some payloads were written on it. -/
structure Remembers (s : State) (w : Handle) (written : List (List UInt8)) : Prop where
  unborn : s.lastId < w.id → written = []
  live : ∀ x, s.writer? w = some x → x.Remembers s.maxSamples written

variable {s s' : State} {isFile : String → Bool} {operation : Operation} {reply : Reply}
  {w r : Handle} {written : List (List UInt8)}

/-- Nothing is written on a handle that was not issued. -/
theorem Evolves.writes_of_unborn (hstep : s.Evolves operation (reply, s')) (hwf : s.WellFormed)
    (hw : s.lastId < w.id) : writes w operation reply = [] := by
  cases hstep with
  | quiet hquiet hagree => exact (unnoted_of_quiet s s' w w reply hquiet).2.2
  | @wrote w' payload _ hok =>
      have hne : w' ≠ w := by
        rintro rfl
        obtain ⟨x, hx, -⟩ := write_eq_ok hok
        obtain ⟨p, g, hprofile, -⟩ := writer?_profile hx
        exact absurd (hwf.issued hprofile) (by omega)
      exact if_neg hne
  | created hquiet hside hplaced => exact (unnoted_of_quiet s s w w (.entity s.next) (.inl hquiet)).2.2
  | @joined side p g t qos hplaced => exact writes_create w _ side g t qos
  | _ => rfl

theorem Remembers.step (h : s.Remembers w written) (hwf : s.WellFormed)
    (hstep : s.Evolves operation (reply, s')) :
    s'.Remembers w (written ++ writes w operation reply) := by
  constructor
  · intro hw
    have hunborn : s.lastId < w.id := Nat.lt_of_le_of_lt hstep.lastId_le hw
    rw [h.unborn hunborn, hstep.writes_of_unborn hwf hunborn]
    rfl
  · intro x' hx'
    have hkept : s'.history w = some x'.history := by rw [State.history_eq, hx']; rfl
    rw [hstep.maxSamples_eq]
    rcases hstep.history_eq w hkept with ⟨rfl, hempty, hnothing⟩ | ⟨x, hx, hhistory⟩
    · rw [h.unborn (Nat.lt_succ_self _), hnothing, Writer.Remembers, hempty]
      split
      · exact .nil _
      · rfl
    · -- the writer is the same one, so that its quality of service is the same
      obtain ⟨p', g', hprofile', -⟩ := writer?_profile hx'
      obtain ⟨p, g, hprofile, -⟩ := writer?_profile hx
      have hbefore := hstep.precedes.profile (hwf.issued hprofile) hprofile'
      rw [hprofile] at hbefore
      simp only [Option.some.injEq, Profile.mk.injEq, Role.writer.injEq] at hbefore
      exact remembers_foldl (h.live x hx) hbefore.2.2.2.symm hhistory

theorem remembers_new (maxSamples : Nat) (w : Handle) : (State.new maxSamples).Remembers w [] :=
  ⟨fun _ => rfl, fun x hx => by simp [writer?, State.new] at hx⟩

variable (isFile) in
theorem remembers_run (h : s.Remembers w written) (hwf : s.WellFormed)
    (operations : List Operation) :
    (s.run isFile operations).Remembers w (written ++ writtenBy isFile w s operations) := by
  induction operations generalizing s written with
  | nil => simpa [State.run, writtenBy, trace] using h
  | cons operation rest ih =>
      have hstep : s.Evolves operation
          ((s.perform isFile operation).1, (s.perform isFile operation).2) :=
        perform_evolves hwf isFile operation
      have hnext := ih (h.step hwf hstep) (hwf.evolves hstep)
      rw [List.append_assoc] at hnext
      exact hnext

/-! ## A reader with one peer -/

theorem Linked.before {e f : Handle} (h : s'.Linked e f) (hwf : s.WellFormed)
    (hprecedes : s.Precedes s') (he : e.id ≤ s.lastId) (hf : f.id ≤ s.lastId) :
    s.Linked e f := by
  rcases h with ⟨a, b, ha, hb, hserves⟩ | ⟨a, b, ha, hb, hserves⟩
  · exact .inl ⟨a, b, ha.before hwf hprecedes he, hb.before hwf hprecedes hf, hserves⟩
  · exact .inr ⟨a, b, ha.before hwf hprecedes hf, hb.before hwf hprecedes he, hserves⟩

/-- A reader that is matched with no other writer, and with this one whenever there is this one, is
offered what is written on it. -/
theorem Evolves.offers_from_peer (hstep : s.Evolves operation (reply, s')) (hm : s.Matching)
    (hwf : s.WellFormed) (hr : r.id ≤ s.lastId) (honly : ∀ k ∈ s.matchedWith r, k = w)
    (hmet : ∀ x, s.writer? w = some x → w ∈ s.matchedWith r)
    (hstays : w ∈ s.matchedWith r → w ∈ s'.matchedWith r) :
    s.offers s' r operation reply =
      (writes w operation reply).map fun payload => ⟨payload, .valid w⟩ := by
  cases hstep with
  | quiet hquiet hagree =>
      obtain ⟨hoffers, -, hwrites⟩ := unnoted_of_quiet s s' r w reply hquiet
      rw [hoffers, hwrites]
      rfl
  | @wrote w' payload _ hok =>
      rw [offers_write, writes_write]
      by_cases hw : w' = w
      · subst hw
        obtain ⟨x, hx, -⟩ := write_eq_ok hok
        rw [if_pos (hm.symm (hmet x hx)), if_pos rfl]
        rfl
      · rw [if_neg fun hmatched => hw (honly w' (hm.symm hmatched)), if_neg hw]
        rfl
  | took r' =>
      rw [offers_take]
      rfl
  | created hquiet hside hplaced =>
      obtain ⟨hoffers, -, hwrites⟩ := unnoted_of_quiet s _ r w _ (.inl hquiet)
      rw [hoffers, hwrites]
      rfl
  | @joined side p g t qos hplaced =>
      have hne : r ≠ s.next := by
        rintro rfl
        exact absurd hr (Nat.not_succ_le_self _)
      rw [offers_create, writes_create]
      exact replayed_of_old hm hwf hplaced hne
  | @cleared p d hp =>
      -- the one peer stays, so that no notice is due
      refine if_neg fun hdue => ?_
      obtain ⟨hpeers, hbereft, -⟩ := hdue
      obtain ⟨k, hk⟩ := List.exists_mem_of_ne_nil _ hpeers
      obtain rfl := honly k hk
      have hkept := hstays hk
      rw [hbereft] at hkept
      cases hkept
  | released hp hempty hagree => rfl

/-- The same of a run, in the end of which the two are matched. -/
theorem offeredTo_from_peer (hreach : Reachable isFile s) {operations : List Operation}
    (hr : r.id ≤ s.lastId)
    (honly : ∀ n, ∀ k ∈ (s.run isFile (operations.take n)).matchedWith r, k = w)
    (hmatched : w ∈ (s.run isFile operations).matchedWith r) :
    offeredTo isFile r s operations =
      (writtenBy isFile w s operations).map fun payload => ⟨payload, .valid w⟩ := by
  induction operations generalizing s with
  | nil => rfl
  | cons operation rest ih =>
      have hwf := wellFormed_of_reachable hreach
      have hm := matching_of_reachable hreach
      have hreach' : Reachable isFile (s.perform isFile operation).2 := .step hreach operation
      have hwf' := wellFormed_of_reachable hreach'
      have hm' := matching_of_reachable hreach'
      have hstep : s.Evolves operation
          ((s.perform isFile operation).1, (s.perform isFile operation).2) :=
        perform_evolves hwf isFile operation
      have hlinked : ((s.perform isFile operation).2.run isFile rest).Linked r w :=
        ((matching_of_reachable (reachable_run hreach' rest)).mem_iff r w).mp hmatched
      have hprecedes' := precedes_run isFile hwf' rest
      have hprecedes := hstep.precedes.trans hprecedes'
      have hr' : r.id ≤ (s.perform isFile operation).2.lastId := Nat.le_trans hr hstep.lastId_le
      -- both are there in the end, so that they were matched as soon as both were there
      have hmet : ∀ x, s.writer? w = some x → w ∈ s.matchedWith r := by
        intro x hx
        obtain ⟨p, g, hprofile, -⟩ := writer?_profile hx
        exact (hm.mem_iff r w).mpr (hlinked.before hwf hprecedes hr (hwf.issued hprofile))
      have hstays : w ∈ s.matchedWith r → w ∈ (s.perform isFile operation).2.matchedWith r := by
        intro hpeer
        have hissued : w.id ≤ s.lastId := by
          rcases (hm.mem_iff r w).mp hpeer with ⟨a, b, -, ⟨_, _, _, hprofile, -⟩, -⟩ |
            ⟨a, b, ⟨_, _, _, hprofile, -⟩, -⟩ <;> exact hwf.issued hprofile
        exact (hm'.mem_iff r w).mpr
          (hlinked.before hwf' hprecedes' hr' (Nat.le_trans hissued hstep.lastId_le))
      have hfirst := hstep.offers_from_peer hm hwf hr (honly 0) hmet hstays
      have hrest := ih hreach' hr' (fun n => honly (n + 1)) hmatched
      show s.offers _ r operation _ ++ offeredTo isFile r _ rest =
        (writes w operation _ ++ writtenBy isFile w _ rest).map _
      rw [hfirst, hrest, List.map_append]

/-! ## A reader that comes late -/

/-- What comes of creating a reader: it is new, stands in its place and has met its peers. -/
theorem perform_createReader_eq (hwf : s.WellFormed) {g t : Handle} {qos : EndpointQos}
    (hcreated : s.perform isFile (.createReader g t qos) = (.entity r, s')) :
    r = s.next ∧ ∃ p, s.Placed s.next ⟨p, some g, Side.reader.endpoint t qos⟩ ∧
      s' = (s.withEndpoint .reader p g t qos).discover s.next := by
  obtain ⟨hreply, hstate⟩ := Prod.mk.inj hcreated
  cases hok : (s.createReader g t qos).1 with
  | error code =>
      rw [hok] at hreply
      cases hreply
  | ok e =>
      rw [hok] at hreply
      cases hreply
      obtain ⟨-, hqos, p, hcommon, rfl, rfl⟩ := createReader_eq_ok (Prod.ext hok hstate)
      exact ⟨rfl, p, placed_endpoint hwf .reader hqos hcommon, rfl⟩

theorem newReader_profile {p g t : Handle} {qos : EndpointQos}
    (hs' : s' = (s.withEndpoint .reader p g t qos).discover s.next) :
    s'.profile s.next = some ⟨p, some g, .reader t qos⟩ := by
  have hmet := agree_discover profile_ignoresTraffic (s.withEndpoint .reader p g t qos) s.next
  rw [hs']
  exact (hmet.look s.next).trans
    ((withEndpoint_profile s .reader p g t qos s.next).trans (if_pos rfl))

theorem newReader_qos {p g t : Handle} {qos : EndpointQos}
    (hs' : s' = (s.withEndpoint .reader p g t qos).discover s.next) {p' t' : Handle}
    {g' : Option Handle} {qos' : EndpointQos}
    (hprofile : s'.profile s.next = some ⟨p', g', .reader t' qos'⟩) : qos' = qos := by
  have hrole := congrArg (Option.map Profile.role) (hprofile.symm.trans (newReader_profile hs'))
  simp only [Option.map_some, Option.some.injEq, Role.reader.injEq] at hrole
  exact hrole.2

/-- If nobody but one writer has to replay anything, its history is what is replayed. -/
theorem replayed_of_one_peer (hpeer : s'.matchedWith r = [w]) (hnew : s.matchedWith r = [])
    {x : Writer} (hx : s.writer? w = some x) : s.replayed s' r = s'.keptFor w r := by
  obtain ⟨rec, hrec, -⟩ := writer?_eq_some_iff.mp hx
  have hnodup : s.entities.keys.Nodup := s.entities.distinct
  have hone : s.entities.keys.filter
      (fun k => decide (k ∈ s'.matchedWith r ∧ k ∉ s.matchedWith r)) = [w] := by
    simp only [hpeer, hnew, List.mem_singleton, List.not_mem_nil, not_false_eq_true, and_true]
    rw [List.filter_eq, hnodup.count, if_pos (Table.mem_keys_iff.mpr ⟨rec, hrec⟩),
      List.replicate_one]
  unfold replayed
  rw [hone, List.flatMap_singleton]

/-- A new reader leaves the histories and the other queues alone. -/
theorem newReader_others (hm : s.Matching) (hwf : s.WellFormed) {p g t : Handle}
    {qos : EndpointQos} (hplaced : s.Placed s.next ⟨p, some g, Side.reader.endpoint t qos⟩)
    (hs' : s' = (s.withEndpoint .reader p g t qos).discover s.next) :
    (∀ {k x}, s.writer? k = some x → ∃ x', s'.writer? k = some x' ∧ x'.history = x.history) ∧
    (∀ {k y}, s.reader? k = some y → ∃ y', s'.reader? k = some y' ∧ y'.queue = y.queue) := by
  have hold : ∀ {k rec}, s.entities.get? k = some rec → k ≠ s.next := fun hrec =>
    hwf.ne_fresh (profile_of_get? hrec)
  constructor
  · intro k x hx
    obtain ⟨rec, hrec, -⟩ := writer?_eq_some_iff.mp hx
    have hkept : s'.history k = s.history k := by
      rw [hs', discover_history]
      exact insert_history s .reader (some p) (some g) (Side.reader.newBody t qos) k (hold hrec)
    rw [State.history_eq, State.history_eq, hx] at hkept
    exact Option.map_eq_some_iff.mp hkept
  · intro k y hy
    obtain ⟨rec, hrec, -⟩ := reader?_eq_some_iff.mp hy
    obtain ⟨rejected, hbox⟩ := inbox_of_reader? hy
    have hsame : s'.inbox k = s.inbox k := by
      rw [hs', newReader_meets hm hwf hplaced, if_neg (hold hrec)]
      exact insert_inbox s .reader (some p) (some g) (Side.reader.newBody t qos) k (hold hrec)
    obtain ⟨rec', y', hrec', hbody', hbox'⟩ := inbox_eq_some_iff.mp (hsame.trans hbox)
    refine ⟨y', reader?_eq_some_iff.mpr ⟨rec', hrec', hbody'⟩, ?_⟩
    exact (congrArg Inbox.queue hbox').symm

/-- A reader that is created when one writer matches it finds the last of what that writer has
kept. -/
theorem late_queue (hm : s.Matching) (hwf : s.WellFormed) (hbound : 0 < s.maxSamples)
    {p g t : Handle} {qos : EndpointQos}
    (hplaced : s.Placed s.next ⟨p, some g, Side.reader.endpoint t qos⟩)
    (hs' : s' = (s.withEndpoint .reader p g t qos).discover s.next)
    (hdurable : qos.durability.isDurable = true) (hkind : qos.history.kind = .keepLast)
    (hpeer : s'.matchedWith s.next = [w]) {x : Writer} (hx : s.writer? w = some x) :
    ∃ y, s'.reader? s.next = some y ∧ y.qos = qos ∧
      IsLast (qos.history.capacity s.maxSamples) y.queue
        (x.history.map fun payload => ⟨payload, .valid w⟩) := by
  have hnew : s.matchedWith s.next = [] := by
    refine List.eq_nil_iff_forall_not_mem.mpr fun k hk => ?_
    exact (((hm.mem_iff _ k).mp hk).ne_fresh hwf).1 rfl
  obtain ⟨x', hx', hhistory⟩ := (newReader_others hm hwf hplaced hs').1 hx
  have hinbox : s'.inbox s.next =
      some ((⟨qos, [], false⟩ : Inbox).offerAll s.maxSamples (s'.keptFor w s.next)) := by
    rw [← replayed_of_one_peer hpeer hnew hx, hs', newReader_meets hm hwf hplaced, if_pos rfl,
      withEndpoint_inbox, if_pos rfl, Option.map_some]
  obtain ⟨rec, y, hrec, hbody, hbox⟩ := inbox_eq_some_iff.mp hinbox
  have hreader : s'.reader? s.next = some y := reader?_eq_some_iff.mpr ⟨rec, hrec, hbody⟩
  have hqos : y.qos = qos := by
    obtain ⟨p', g', hprofile, -⟩ := reader?_profile hreader
    exact newReader_qos hs' hprofile
  have hkept : s'.keptFor w s.next = x.history.map fun payload => ⟨payload, .valid w⟩ := by
    simp only [keptFor, hx', hhistory, hreader, replay, hqos, hdurable, if_true]
  obtain ⟨events, hoffered, huntaken, hmoves⟩ := Inbox.Moves.exists_offerAll
    (b := ⟨qos, [], false⟩) (Nat.zero_le _) hbound (s'.keptFor w s.next)
  have hlast := hmoves.isLast hkind huntaken
  rw [hbox, hoffered, hkept] at hlast
  exact ⟨y, hreader, hqos, hlast⟩

/-! ## Every run -/

/-- A reader that is created before anything is written on its one writer is offered nothing until
then. -/
theorem offers_to_early (hwf : s.WellFormed) (hm : s.Matching)
    (hstep : s.Evolves operation (reply, s')) (hremembers : s'.Remembers w [])
    (honly : ∀ k ∈ s'.matchedWith s.next, k = w) : s.offers s' s.next operation reply = [] := by
  have hnone : ∀ k, s.next ∉ s.matchedWith k := fun k hk =>
    (((hm.mem_iff k _).mp hk).ne_fresh hwf).2 rfl
  -- its one writer has kept nothing yet
  have hnothing : s.replayed s' s.next = [] := by
    refine List.flatMap_eq_nil_iff.mpr fun k hk => ?_
    obtain rfl := honly k (of_decide_eq_true (List.mem_filter.mp hk).2).1
    refine keptFor_of_history ?_ _
    rw [State.history_eq]
    cases hx : s'.writer? k with
    | none => exact .inl rfl
    | some x =>
        have hlive := hremembers.live x hx
        unfold Writer.Remembers at hlive
        refine .inr (congrArg some ?_)
        split at hlive
        · exact List.eq_nil_of_suffix_nil hlive.1
        · exact hlive
  unfold offers
  split
  · exact hnothing
  · exact hnothing
  · exact if_neg (hnone _)
  · refine if_neg fun h => h.1 (List.eq_nil_iff_forall_not_mem.mpr fun k hk => ?_)
    exact hnone k (hm.symm hk)
  · rfl

/-- The end of a run that performs some operation in between. -/
theorem run_through {before later : List Operation} {s₁ : State}
    (hstep : (s.run isFile before).perform isFile operation = (reply, s₁)) :
    s.run isFile (before ++ operation :: later) = s₁.run isFile later := by
  refine List.foldl_append.trans ?_
  exact congrArg (fun step : Reply × State => step.2.run isFile later) hstep

/-- What is noted down of such a run. -/
theorem trace_through {α : Type} {note : State → Operation → Reply × State → List α}
    {before later : List Operation} {s₁ : State}
    (hstep : (s.run isFile before).perform isFile operation = (reply, s₁)) :
    trace isFile note s (before ++ operation :: later) =
      trace isFile note s before ++
        (note (s.run isFile before) operation (reply, s₁) ++ trace isFile note s₁ later) := by
  rw [trace_append, trace, hstep]

/-- A reader is offered nothing before it is there. -/
theorem offeredTo_of_unborn {maxSamples : Nat} {before : List Operation}
    (hr : ((State.new maxSamples).run isFile before).lastId < r.id) :
    offeredTo isFile r (State.new maxSamples) before = [] := by
  obtain ⟨log, hlog, hexplained⟩ := (explained_new maxSamples r).run isFile before
  have hnothing : log.flatten = [] := hexplained.logged.unborn hr
  rw [← hlog.offeredBy_eq, hnothing]
  rfl

section

variable {maxSamples : Nat} {before later : List Operation} {g t : Handle} {qos : EndpointQos}
  {s₁ : State}
  (hcreated : ((State.new maxSamples).run isFile before).perform isFile (.createReader g t qos) =
    (.entity r, s₁))
  (hunwritten : writtenBy isFile w (State.new maxSamples) before = [])
  (honly : ∀ n, ∀ k ∈ (s₁.run isFile (later.take n)).matchedWith r, k = w)
  (hmatched : w ∈ (s₁.run isFile later).matchedWith r)
include hcreated hunwritten honly hmatched

/-- A reader that was there before the first write of its one writer is offered what is written. -/
theorem offeredTo_early :
    offeredTo isFile r (State.new maxSamples) (before ++ .createReader g t qos :: later) =
      (writtenBy isFile w (State.new maxSamples) (before ++ .createReader g t qos :: later)).map
        fun payload => ⟨payload, .valid w⟩ := by
  have hreach₀ : Reachable isFile ((State.new maxSamples).run isFile before) :=
    reachable_run (.new maxSamples) before
  have hwf₀ := wellFormed_of_reachable hreach₀
  have hstep : ((State.new maxSamples).run isFile before).Evolves (.createReader g t qos)
      (.entity r, s₁) := hcreated ▸ perform_evolves hwf₀ isFile _
  have hreach₁ : Reachable isFile s₁ := by
    have hnext := Reachable.step hreach₀ (.createReader g t qos)
    rwa [hcreated] at hnext
  obtain ⟨rfl, p, hplaced, hs₁⟩ := perform_createReader_eq hwf₀ hcreated
  -- nothing was written before the reader was created, nor by creating it
  have hremembers := remembers_run isFile (remembers_new maxSamples w)
    (wellFormed_new maxSamples) before
  rw [hunwritten, List.append_nil] at hremembers
  have hearly := offers_to_early hwf₀ (matching_of_reachable hreach₀) hstep
    (hremembers.step hwf₀ hstep) (honly 0)
  have hissued := (wellFormed_of_reachable hreach₁).issued (newReader_profile hs₁)
  have hlater := offeredTo_from_peer hreach₁ hissued honly hmatched
  have hbefore : offeredTo isFile _ (State.new maxSamples) before = [] :=
    offeredTo_of_unborn (Nat.lt_succ_self _)
  unfold offeredTo writtenBy at *
  rw [trace_through hcreated, trace_through hcreated, hbefore, hunwritten, hearly, hlater]
  rfl

/-- If nothing was taken from it either, it holds the last of what was written. -/
theorem early_queue
    (huntaken : takenFrom isFile r (State.new maxSamples)
      (before ++ .createReader g t qos :: later) = [])
    (hkind : qos.history.kind = .keepLast) {y : Reader}
    (hy : (s₁.run isFile later).reader? r = some y) :
    y.qos = qos ∧
      IsLast (qos.history.capacity (max maxSamples 1)) y.queue
        ((writtenBy isFile w (State.new maxSamples)
          (before ++ .createReader g t qos :: later)).map fun payload => ⟨payload, .valid w⟩) := by
  have hoffered := offeredTo_early hcreated hunwritten honly hmatched
  have hreach₀ : Reachable isFile ((State.new maxSamples).run isFile before) :=
    reachable_run (.new maxSamples) before
  have hwf₁ : s₁.WellFormed := by
    have hnext := wellFormed_of_reachable (hreach₀.step (.createReader g t qos))
    rwa [hcreated] at hnext
  obtain ⟨rfl, p, hplaced, hs₁⟩ := perform_createReader_eq (wellFormed_of_reachable hreach₀) hcreated
  -- the reader that is there in the end is the one that was created
  have hqos : y.qos = qos := by
    obtain ⟨p', g', hprofile, -⟩ := reader?_profile hy
    have hborn := (precedes_run isFile hwf₁ later).profile
      (hwf₁.issued (newReader_profile hs₁)) hprofile
    exact newReader_qos hs₁ hborn
  have hend : (State.new maxSamples).run isFile (before ++ .createReader g t qos :: later) =
      s₁.run isFile later := run_through hcreated
  have hmax : (s₁.run isFile later).maxSamples = max maxSamples 1 :=
    hend ▸ run_maxSamples (wellFormed_new maxSamples) _
  obtain ⟨log, hlog, hexplained⟩ := (explained_new maxSamples
    ((State.new maxSamples).run isFile before).next).run isFile
      (before ++ .createReader g t qos :: later)
  rw [hend] at hexplained
  obtain ⟨rejected, hbox⟩ := inbox_of_reader? hy
  obtain rfl := hqos
  have hlast := (hexplained.logged.live _ hbox).isLast hkind (hlog.takenBy_eq.trans huntaken)
  rw [List.nil_append, hlog.offeredBy_eq, hoffered, hmax] at hlast
  exact ⟨rfl, hlast⟩

end

/-- In every run, a durable writer has kept the last of what was written on it, as many as its
policy allows, and any other writer nothing. And a durable reader that is created late, when only
this writer matches it, finds what an untouched reader holds that was there from the start, if the
queues are no longer than what the writer keeps. -/
theorem replay_agrees_with_delivery (isFile : String → Bool) (maxSamples : Nat)
    (operations : List Operation) (w : Handle) (x : Writer)
    (hx : ((State.new maxSamples).run isFile operations).writer? w = some x) :
    (x.qos.durability.isDurable = true →
      IsLast (x.qos.history.capacity (max maxSamples 1)) x.history
        (writtenBy isFile w (State.new maxSamples) operations)) ∧
    (x.qos.durability.isDurable = false → x.history = []) ∧
    (x.qos.history.kind = .keepLast →
      (x.qos.history.capacity (max maxSamples 1) : Int) = x.qos.history.depth) ∧
    (x.qos.history.kind = .keepAll →
      x.qos.history.capacity (max maxSamples 1) = max maxSamples 1) ∧
    ∀ before later g₁ t₁ r₁ s₁ qos g₂ t₂ r₂ s₂,
      operations = before ++ .createReader g₁ t₁ qos :: later →
      ((State.new maxSamples).run isFile before).perform isFile (.createReader g₁ t₁ qos) =
        (.entity r₁, s₁) →
      writtenBy isFile w (State.new maxSamples) before = [] →
      takenFrom isFile r₁ (State.new maxSamples) operations = [] →
      (∀ n, ∀ k ∈ (s₁.run isFile (later.take n)).matchedWith r₁, k = w) →
      w ∈ ((State.new maxSamples).run isFile operations).matchedWith r₁ →
      qos.durability.isDurable = true → qos.history.kind = .keepLast →
      qos.history.depth ≤ (x.qos.history.capacity (max maxSamples 1) : Int) →
      ((State.new maxSamples).run isFile operations).perform isFile (.createReader g₂ t₂ qos) =
        (.entity r₂, s₂) →
      s₂.matchedWith r₂ = [w] →
      ∃ y₁ y₂, s₂.reader? r₁ = some y₁ ∧ s₂.reader? r₂ = some y₂ ∧ y₂.queue = y₁.queue := by
  have hreach : Reachable isFile ((State.new maxSamples).run isFile operations) :=
    reachable_run (.new maxSamples) operations
  have hwf := wellFormed_of_reachable hreach
  have hm := matching_of_reachable hreach
  have hmax : ((State.new maxSamples).run isFile operations).maxSamples = max maxSamples 1 :=
    run_maxSamples (wellFormed_new maxSamples) operations
  have hremembers := (remembers_run isFile (remembers_new maxSamples w)
    (wellFormed_new maxSamples) operations).live x hx
  rw [List.nil_append, hmax, Writer.Remembers] at hremembers
  obtain ⟨offered, hat, hoffered, hconsistent⟩ := hwf.writerAt hx
  have hdurable_last : x.qos.durability.isDurable = true →
      IsLast (x.qos.history.capacity (max maxSamples 1)) x.history
        (writtenBy isFile w (State.new maxSamples) operations) := by
    intro hdurable
    rwa [if_pos hdurable] at hremembers
  refine ⟨hdurable_last, fun hvolatile => ?_, capacity_keepLast _ hconsistent, capacity_keepAll _,
    fun before later g₁ t₁ r₁ s₁ qos g₂ t₂ r₂ s₂ hsplit hcreated hunwritten huntaken honly hmatched
      hdurable hkind hdepth hlate hpeer => ?_⟩
  · rwa [if_neg (by rw [hvolatile]; simp)] at hremembers
  · have hend : (State.new maxSamples).run isFile operations = s₁.run isFile later :=
      hsplit ▸ run_through hcreated
    -- the early reader is there, and matched with the writer
    have hserved := ((hm.mem_iff r₁ w).mp hmatched).symm
    rw [linked_iff_of_writer hat] at hserved
    obtain ⟨offered', requested, hat', hrequested, hserves⟩ := hserved
    obtain rfl := (hat.unique hat').2
    obtain ⟨y₁, hy₁, hqos₁⟩ := hrequested.reader
    obtain ⟨rfl, hearly⟩ := early_queue hcreated hunwritten honly (hend ▸ hmatched)
      (hsplit ▸ huntaken) hkind (hend ▸ hy₁)
    rw [← hsplit] at hearly
    -- the late reader finds the end of the history, which is the end of what was written
    obtain ⟨rfl, p, hplaced, hs₂⟩ := perform_createReader_eq hwf hlate
    have hbound : 0 < ((State.new maxSamples).run isFile operations).maxSamples := by
      rw [hmax]
      exact Nat.lt_of_lt_of_le Nat.zero_lt_one (Nat.le_max_right maxSamples 1)
    obtain ⟨y₂, hy₂, -, hlate⟩ := late_queue hm hwf hbound hplaced hs₂ hdurable hkind hpeer hx
    obtain ⟨y₁', hy₁', hqueue⟩ := (newReader_others hm hwf hplaced hs₂).2 hy₁
    have hwriter_durable : x.qos.durability.isDurable = true := by
      have hrank := hserves.durability
      rw [hoffered, ← hqos₁] at hrank
      exact decide_eq_true (Nat.le_trans (of_decide_eq_true hdurable) hrank)
    have hshorter : y₁.qos.history.capacity (max maxSamples 1) ≤
        x.qos.history.capacity (max maxSamples 1) := by
      obtain ⟨-, -, -, hconsistent₁⟩ := hwf.readerAt hy₁
      have hcapacity := capacity_keepLast (max maxSamples 1) hconsistent₁ hkind
      omega
    rw [hmax] at hlate
    have hsame := (((hdurable_last hwriter_durable).map _).trans hlate hshorter).unique hearly
    exact ⟨y₁', y₂, hy₁', hy₂, hsame.trans hqueue.symm⟩

/-- A durable writer that keeps two payloads. -/
def echoWriter : EndpointQos :=
  { durability := .transientLocal, reliability := { kind := .reliable }
    history := { kind := .keepLast, depth := 2 } }

/-- A durable reader that keeps one sample. -/
def echoReader : EndpointQos :=
  { durability := .transientLocal, reliability := { kind := .bestEffort } }

/-- A participant with a durable writer. -/
def echoBefore : List Operation :=
  [.init [], .createParticipant 7, .registerType ⟨1⟩ "Message",
    .createTopic ⟨1⟩ "echo" "Message", .createPublisher ⟨1⟩ [], .createSubscriber ⟨1⟩ [],
    .createWriter ⟨3⟩ ⟨2⟩ echoWriter]

/-- A reader joins, and three payloads are written. -/
def echoRun : List Operation :=
  echoBefore ++ .createReader ⟨4⟩ ⟨2⟩ echoReader ::
    [.write ⟨5⟩ [1], .write ⟨5⟩ [2], .write ⟨5⟩ [3]]

theorem replay_agrees_with_delivery_echo :
    (new.run (fun _ => false) echoRun).writer? ⟨5⟩ =
        some ⟨⟨2⟩, echoWriter, [⟨6⟩], [[2], [3]]⟩ ∧
      IsLast 2 [[2], [3]] (writtenBy (fun _ => false) ⟨5⟩ new echoRun) ∧
      ∃ y₁ y₂, ((new.run (fun _ => false) echoRun).perform (fun _ => false)
          (.createReader ⟨4⟩ ⟨2⟩ echoReader)).2.reader? ⟨6⟩ = some y₁ ∧
        ((new.run (fun _ => false) echoRun).perform (fun _ => false)
          (.createReader ⟨4⟩ ⟨2⟩ echoReader)).2.reader? ⟨7⟩ = some y₂ ∧ y₂.queue = y₁.queue := by
  have hwriter : (new.run (fun _ => false) echoRun).writer? ⟨5⟩ =
      some ⟨⟨2⟩, echoWriter, [⟨6⟩], [[2], [3]]⟩ := by decide
  obtain ⟨hkept, -, -, -, hagree⟩ :=
    replay_agrees_with_delivery (fun _ => false) defaultMaxSamples echoRun ⟨5⟩ _ hwriter
  have hearly : ((new.run (fun _ => false) echoBefore).perform (fun _ => false)
      (.createReader ⟨4⟩ ⟨2⟩ echoReader)).1 = .entity ⟨6⟩ := by decide
  have hlate : ((new.run (fun _ => false) echoRun).perform (fun _ => false)
      (.createReader ⟨4⟩ ⟨2⟩ echoReader)).1 = .entity ⟨7⟩ := by decide
  -- the reader has the writer for its peer at every moment
  have hpeer : ∀ n, ∀ k ∈ (((new.run (fun _ => false) echoBefore).perform (fun _ => false)
      (.createReader ⟨4⟩ ⟨2⟩ echoReader)).2.run (fun _ => false)
        ([.write ⟨5⟩ [1], .write ⟨5⟩ [2], .write ⟨5⟩ [3]].take n)).matchedWith ⟨6⟩, k = ⟨5⟩ := by
    intro n
    match n with
    | 0 => decide
    | 1 => decide
    | 2 => decide
    | n + 3 =>
        rw [List.take_of_length_le (Nat.le_add_left 3 n)]
        decide
  exact ⟨hwriter, hkept rfl, hagree echoBefore _ ⟨4⟩ ⟨2⟩ ⟨6⟩ _ echoReader ⟨4⟩ ⟨2⟩ ⟨7⟩ _ rfl
    (Prod.ext hearly rfl) (by decide) (by decide) hpeer (by decide) rfl rfl (by decide)
    (Prod.ext hlate rfl) (by decide)⟩

end State

end DdsBridge.Provider
