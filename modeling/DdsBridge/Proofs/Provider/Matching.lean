import DdsBridge.Proofs.Provider.Evolution

/-!
# Matched means compatible

A writer and a reader are to be matched exactly if they stand in one domain, on topics with one
name and one type name, in groups that share a partition, and if the reader requests no more than
the writer offers. The provider keeps the match on both ends and touches it only when an endpoint
is created and when a participant is cleaned up. That it is never lost, never half kept and never
kept for too long is an invariant of all operations.

* **`Site.Serves`** — what the match is to depend on.
* **`State.Linked`**, **`State.Matching`** — the invariant: every matched list is ascending and
  holds exactly the live endpoints that its owner is compatible with.
* **`connect_joins_iff`**, **`mem_peersOf_iff`** — the checks of the provider are the right ones.
* **`Matching.evolves`** — one step.
* **`matched_iff_serves`** — every reachable state.
-/

namespace DdsBridge.Provider

/-- A writer at one site is to be matched with a reader at the other. -/
structure Site.Serves (offered requested : Site) : Prop where
  domain : requested.domain = offered.domain
  topicName : requested.topicName = offered.topicName
  typeName : requested.typeName = offered.typeName
  partition : ∃ name ∈ partitionNames offered.partition, name ∈ partitionNames requested.partition
  reliability : requested.qos.reliability.kind.rank ≤ offered.qos.reliability.kind.rank
  durability : requested.qos.durability.rank ≤ offered.qos.durability.rank

/-- What the two ends of a match have in common. -/
def Site.key (site : Site) : TopicKey := ⟨site.domain, site.topicName, site.typeName⟩

/-- The other end of a match. -/
def Side.opposite : Side → Side
  | .writer => .reader
  | .reader => .writer

theorem partitionsMatch_iff {offered requested : List String} :
    partitionsMatch offered requested = true ↔
      ∃ name ∈ partitionNames offered, name ∈ partitionNames requested := by
  simp [partitionsMatch]

theorem incompatiblePolicy_eq_none_iff {offered requested : EndpointQos} :
    incompatiblePolicy offered requested = none ↔
      requested.reliability.kind.rank ≤ offered.reliability.kind.rank ∧
        requested.durability.rank ≤ offered.durability.rank := by
  unfold incompatiblePolicy
  split
  · simp
    omega
  · split
    · simp
      omega
    · simp
      omega

/-! ## Ascending lists of handles -/

theorem mem_insertHandle {h k : Handle} {l : List Handle} :
    k ∈ insertHandle h l ↔ k = h ∨ k ∈ l := by
  induction l with
  | nil => simp [insertHandle]
  | cons x rest ih =>
      unfold insertHandle
      split
      · simp
      · split
        · rename_i hid
          have hx : h = x := by cases h; cases x; exact congrArg Handle.mk hid
          subst hx
          simp
        · simp only [List.mem_cons, ih]
          constructor
          · rintro (hk | hk | hk)
            · exact .inr (.inl hk)
            · exact .inl hk
            · exact .inr (.inr hk)
          · rintro (hk | hk | hk)
            · exact .inr (.inl hk)
            · exact .inl hk
            · exact .inr (.inr hk)

/-- A list of handles in which every one precedes those after it. -/
def Ascending (l : List Handle) : Prop := l.Pairwise fun a b => a.id < b.id

theorem Ascending.insertHandle {h : Handle} {l : List Handle} (hl : Ascending l) :
    Ascending (insertHandle h l) := by
  induction l with
  | nil => exact List.pairwise_singleton _ _
  | cons x rest ih =>
      obtain ⟨hx, hrest⟩ := List.pairwise_cons.mp hl
      unfold Provider.insertHandle
      split
      · rename_i hlt
        refine List.pairwise_cons.mpr ⟨fun k hk => ?_, hl⟩
        rcases List.mem_cons.mp hk with rfl | hk
        · exact hlt
        · exact Nat.lt_trans hlt (hx k hk)
      · split
        · exact hl
        · refine List.pairwise_cons.mpr ⟨fun k hk => ?_, ih hrest⟩
          rcases mem_insertHandle.mp hk with rfl | hk
          · omega
          · exact hx k hk

theorem Ascending.filter {l : List Handle} (hl : Ascending l) (p : Handle → Bool) :
    Ascending (l.filter p) := List.Pairwise.filter p hl

theorem Ascending.nodup {l : List Handle} (hl : Ascending l) : l.Nodup := by
  refine List.Pairwise.imp (fun {a b} hlt => ?_) hl
  rintro rfl
  exact Nat.lt_irrefl _ hlt

namespace State

/-- A live writer and a live reader that are to be matched. -/
def Compatible (s : State) (w r : Handle) : Prop :=
  ∃ offered requested, s.EndpointAt .writer w offered ∧ s.EndpointAt .reader r requested ∧
    offered.Serves requested

/-- Two live endpoints, one of each side, that are to be matched. -/
def Linked (s : State) (e f : Handle) : Prop := s.Compatible e f ∨ s.Compatible f e

/-- Every endpoint remembers exactly those it is to be matched with, each of them once. -/
structure Matching (s : State) : Prop where
  mem_iff : ∀ e f, f ∈ s.matchedWith e ↔ s.Linked e f
  ascending : ∀ e, Ascending (s.matchedWith e)

theorem Linked.symm {s : State} {e f : Handle} (h : s.Linked e f) : s.Linked f e := Or.symm h

/-- What one end remembers the other end remembers as well. -/
theorem Matching.symm {s : State} (hm : s.Matching) {e f : Handle} (h : f ∈ s.matchedWith e) :
    e ∈ s.matchedWith f := (hm.mem_iff f e).mpr ((hm.mem_iff e f).mp h).symm

/-! ## The checks of a meeting -/

namespace EndpointAt

variable {s : State} {side : Side} {h : Handle} {site : Site}

theorem record (hat : s.EndpointAt side h site) :
    ∃ r p g t, s.entities.get? h = some r ∧ r.participant = p ∧ r.parent = some g ∧
      r.body.role = side.endpoint t site.qos ∧
      s.profile p = some ⟨p, none, .participant site.domain⟩ ∧
      s.profile g = some ⟨p, some p, side.group site.partition⟩ ∧
      s.profile t = some ⟨p, some p, .topic site.topicName site.typeName⟩ := by
  obtain ⟨p, g, t, hh, hp, hg, ht⟩ := hat
  obtain ⟨r, hr, hpr⟩ := profile_eq_some_iff.mp hh
  simp only [Record.profile, Profile.mk.injEq] at hpr
  exact ⟨r, p, g, t, hr, hpr.1, hpr.2.1, hpr.2.2, hp, hg, ht⟩

theorem topicKey (hat : s.EndpointAt side h site) : s.topicKey h = some site.key := by
  obtain ⟨r, p, g, t, hr, hrp, -, hrole, hp, -, ht⟩ := hat.record
  obtain ⟨rt, hrt, hpt⟩ := profile_eq_some_iff.mp ht
  obtain ⟨rp, hrpp, hpp⟩ := profile_eq_some_iff.mp hp
  have htopic : r.body.topic? = some t := by
    cases side <;> cases hb : r.body <;> simp_all [Body.role, Side.endpoint, Body.topic?]
  have htbody : rt.body = .topic site.topicName site.typeName := by
    cases hb : rt.body <;> simp_all [Record.profile, Body.role]
  have hdomain : s.domainOf p = some site.domain := by
    unfold domainOf
    cases hb : rp.body <;> simp_all [Record.profile, Body.role]
  simp [State.topicKey, hr, htopic, hrt, htbody, hrp, hdomain, Site.key]

theorem partition (hat : s.EndpointAt side h site) :
    s.partitionOf ((s.entities.get? h).bind Record.parent) = site.partition := by
  obtain ⟨r, p, g, t, hr, -, hrg, -, -, hg, -⟩ := hat.record
  obtain ⟨rg, hrgg, hpg⟩ := profile_eq_some_iff.mp hg
  simp only [Record.profile, Profile.mk.injEq] at hpg
  obtain ⟨-, -, hrole⟩ := hpg
  cases side <;> cases hb : rg.body <;>
    simp_all [Body.role, Side.group, partitionOf]

theorem writer (hat : s.EndpointAt .writer h site) :
    ∃ w, s.writer? h = some w ∧ w.qos = site.qos := by
  obtain ⟨p, g, t, hh, -⟩ := hat
  obtain ⟨w, hw, -, hq, -⟩ := writer?_of_profile hh
  exact ⟨w, hw, hq⟩

theorem reader (hat : s.EndpointAt .reader h site) :
    ∃ x, s.reader? h = some x ∧ x.qos = site.qos := by
  obtain ⟨p, g, t, hh, -⟩ := hat
  obtain ⟨x, hx, -, hq, -⟩ := reader?_of_profile hh
  exact ⟨x, hx, hq⟩

end EndpointAt

/-- A meeting of endpoints with one key ends in a match if and only if they are compatible. -/
theorem joins_iff_serves {s : State} {w r : Handle} {offered requested : Site}
    (hw : s.EndpointAt .writer w offered) (hr : s.EndpointAt .reader r requested)
    (hkey : requested.key = offered.key) : s.Joins w r ↔ offered.Serves requested := by
  obtain ⟨x, hx, hxq⟩ := hw.writer
  obtain ⟨y, hy, hyq⟩ := hr.reader
  simp only [Site.key, TopicKey.mk.injEq] at hkey
  have hshare : s.sharePartition w r = true ↔
      ∃ name ∈ partitionNames offered.partition, name ∈ partitionNames requested.partition := by
    unfold sharePartition
    rw [hw.partition, hr.partition, partitionsMatch_iff]
  constructor
  · rintro ⟨hpart, x', y', hx', hy', hqos⟩
    rw [hx] at hx'
    rw [hy] at hy'
    obtain rfl := Option.some.inj hx'
    obtain rfl := Option.some.inj hy'
    rw [hxq, hyq] at hqos
    obtain ⟨hrel, hdur⟩ := incompatiblePolicy_eq_none_iff.mp hqos
    exact ⟨hkey.1, hkey.2.1, hkey.2.2, hshare.mp hpart, hrel, hdur⟩
  · intro hserves
    refine ⟨hshare.mpr hserves.partition, x, y, hx, hy, ?_⟩
    rw [hxq, hyq]
    exact incompatiblePolicy_eq_none_iff.mpr ⟨hserves.reliability, hserves.durability⟩

/-- Among live endpoints of either side, compatibility is a matter of their sites. -/
theorem compatible_iff {s : State} {w r : Handle} {offered requested : Site}
    (hw : s.EndpointAt .writer w offered) (hr : s.EndpointAt .reader r requested) :
    s.Compatible w r ↔ offered.Serves requested := by
  constructor
  · rintro ⟨a, b, ha, hb, hserves⟩
    rw [(hw.unique ha).2, (hr.unique hb).2]
    exact hserves
  · exact fun hserves => ⟨offered, requested, hw, hr, hserves⟩

theorem Compatible.side {s : State} {w r : Handle} (h : s.Compatible w r) :
    (∃ a, s.EndpointAt .writer w a) ∧ ∃ b, s.EndpointAt .reader r b := by
  obtain ⟨a, b, ha, hb, -⟩ := h
  exact ⟨⟨a, ha⟩, ⟨b, hb⟩⟩

/-- For a writer, being linked means being compatible as a writer. -/
theorem linked_iff_of_writer {s : State} {w r : Handle} {site : Site}
    (hw : s.EndpointAt .writer w site) : s.Linked w r ↔ s.Compatible w r := by
  refine ⟨fun h => h.resolve_right fun hback => ?_, Or.inl⟩
  obtain ⟨-, b, hb⟩ := hback.side
  exact absurd (hw.unique hb).1 (by simp)

theorem linked_iff_of_reader {s : State} {w r : Handle} {site : Site}
    (hr : s.EndpointAt .reader r site) : s.Linked r w ↔ s.Compatible w r := by
  refine ⟨fun h => h.resolve_left fun hback => ?_, Or.inr⟩
  obtain ⟨⟨a, ha⟩, -⟩ := hback.side
  exact absurd (hr.unique ha).1 (by simp)

/-- No endpoint is linked with itself, being on one side only. -/
theorem Linked.irrefl {s : State} {e : Handle} (h : s.Linked e e) : False := by
  obtain ⟨⟨a, ha⟩, b, hb⟩ := h.elim Compatible.side Compatible.side
  exact absurd (ha.unique hb).1 (by simp)

/-! ## The endpoints that a new one meets -/

/-- The endpoints of the other side, told from the bodies of the two. -/
theorem WellFormed.endpointAt_opposite {s : State} (hwf : s.WellFormed) {side : Side}
    {f : Handle} {re rf : Record} {t : Handle} {q : EndpointQos}
    (hrole : re.body.role = side.endpoint t q) (hf : s.entities.get? f = some rf) :
    areOpposite re.body rf.body = true ↔ ∃ site, s.EndpointAt side.opposite f site := by
  constructor
  · intro hopp
    have hother : ∃ u q', rf.body.role = side.opposite.endpoint u q' := by
      cases side <;> cases hbe : re.body <;> cases hbf : rf.body <;>
        simp_all [Body.role, Side.endpoint, Side.opposite, areOpposite]
    obtain ⟨u, q', hother⟩ := hother
    have hprofile : s.profile f =
        some ⟨rf.participant, rf.parent, side.opposite.endpoint u q'⟩ := by
      simp [State.profile, hf, Record.profile, hother]
    obtain ⟨site, hat, -⟩ := hwf.endpointAt hprofile
    exact ⟨site, hat⟩
  · rintro ⟨site, hat⟩
    obtain ⟨r, p, g, u, hr, -, -, hother, -⟩ := hat.record
    rw [hf] at hr
    obtain rfl := Option.some.inj hr
    cases side <;> cases hbe : re.body <;> cases hbf : rf.body <;>
      simp_all [Body.role, Side.endpoint, Side.opposite, areOpposite]

/-- An endpoint meets every live endpoint of the other side that has the same key. -/
theorem mem_peersOf_iff {s : State} (hwf : s.WellFormed) {side : Side} {e f : Handle}
    {site : Site} (hat : s.EndpointAt side e site) :
    f ∈ s.peersOf e ↔ ∃ other, s.EndpointAt side.opposite f other ∧ other.key = site.key := by
  obtain ⟨re, p, g, t, hre, -, -, hrole, -⟩ := hat.record
  simp only [peersOf, hre, hat.topicKey, List.mem_filter, Table.mem_keys_iff]
  cases hf : s.entities.get? f with
  | none =>
      simp only [reduceCtorEq, exists_false, false_and, false_iff, not_exists, not_and]
      intro other hother
      obtain ⟨rf, _, _, _, hrf, -⟩ := hother.record
      rw [hf] at hrf
      exact absurd hrf (by simp)
  | some rf =>
      simp only [Option.some.injEq, exists_eq', true_and, Bool.and_eq_true, decide_eq_true_eq]
      rw [hwf.endpointAt_opposite hrole hf]
      constructor
      · rintro ⟨⟨other, hother⟩, hkey⟩
        rw [hother.topicKey] at hkey
        exact ⟨other, hother, Option.some.inj hkey⟩
      · rintro ⟨other, hother, hkey⟩
        exact ⟨⟨other, hother⟩, by rw [hother.topicKey, hkey]⟩

/-- An endpoint meets everything that it is linked with. -/
theorem Linked.mem_peersOf {s : State} (hwf : s.WellFormed) {side : Side} {e f : Handle}
    {site : Site} (hlink : s.Linked e f) (hat : s.EndpointAt side e site) : f ∈ s.peersOf e := by
  refine (mem_peersOf_iff hwf hat).mpr ?_
  rcases hlink with ⟨a, b, ha, hb, hserves⟩ | ⟨a, b, ha, hb, hserves⟩
  · obtain ⟨rfl, rfl⟩ := hat.unique ha
    exact ⟨b, hb, by simp [Site.key, hserves.domain, hserves.topicName, hserves.typeName]⟩
  · obtain ⟨rfl, rfl⟩ := hat.unique hb
    exact ⟨a, ha, by simp [Site.key, hserves.domain, hserves.topicName, hserves.typeName]⟩

/-! ## What a meeting adds -/

theorem mem_connect {s : State} {w r : Handle} {offered requested : Site}
    (hw : s.EndpointAt .writer w offered) (hr : s.EndpointAt .reader r requested)
    (hkey : requested.key = offered.key) (k x : Handle) :
    x ∈ (s.connect w r).matchedWith k ↔
      x ∈ s.matchedWith k ∨ (s.Compatible w r ∧ (k = w ∧ x = r ∨ k = r ∧ x = w)) := by
  rw [compatible_iff hw hr]
  have hne : w ≠ r := by
    rintro rfl
    exact absurd (hw.unique hr).1 (by simp)
  by_cases hserves : offered.Serves requested
  · rw [connect_matchedWith ((joins_iff_serves hw hr hkey).mpr hserves)]
    by_cases hkw : k = w
    · subst hkw
      simp [mem_insertHandle, hserves, hne, or_comm]
    · by_cases hkr : k = r
      · subst hkr
        simp [mem_insertHandle, hserves, hkw, or_comm]
      · simp [hkw, hkr]
  · rw [connect_matchedWith_of_not fun h => hserves ((joins_iff_serves hw hr hkey).mp h)]
    simp [hserves]

/-- A meeting links the two ends if they are compatible, and does nothing else. -/
theorem mem_meet {s : State} {side : Side} {e f : Handle} {site other : Site}
    (hat : s.EndpointAt side e site) (hpeer : s.EndpointAt side.opposite f other)
    (hkey : other.key = site.key) (k x : Handle) :
    x ∈ (s.meet e f).matchedWith k ↔
      x ∈ s.matchedWith k ∨ (s.Linked e f ∧ (k = e ∧ x = f ∨ k = f ∧ x = e)) := by
  unfold meet
  cases side with
  | writer =>
      obtain ⟨w, hw, -⟩ := hat.writer
      rw [hw, mem_connect hat hpeer hkey, linked_iff_of_writer hat]
  | reader =>
      have hw : s.writer? e = none := by
        obtain ⟨r, _, _, _, hr, -, -, hrole, -⟩ := hat.record
        unfold writer?
        cases hb : r.body <;> simp_all [Body.role, Side.endpoint]
      rw [hw, mem_connect hpeer hat hkey.symm, linked_iff_of_reader hat]
      rw [or_comm (a := k = f ∧ x = e)]

theorem ascending_connect {s : State} (hasc : ∀ k, Ascending (s.matchedWith k)) (w r k : Handle) :
    Ascending ((s.connect w r).matchedWith k) := by
  by_cases hjoin : s.Joins w r
  · rw [connect_matchedWith hjoin]
    split
    · exact (hasc w).insertHandle
    · split
      · exact (hasc r).insertHandle
      · exact hasc k
  · rw [connect_matchedWith_of_not hjoin]
    exact hasc k

theorem ascending_meet {s : State} (hasc : ∀ k, Ascending (s.matchedWith k)) (e f k : Handle) :
    Ascending ((s.meet e f).matchedWith k) := by
  unfold meet
  split <;> exact ascending_connect hasc _ _ k

theorem ascending_meetAll {s : State} (hasc : ∀ k, Ascending (s.matchedWith k)) (e : Handle)
    (peers : List Handle) (k : Handle) : Ascending ((s.meetAll e peers).matchedWith k) := by
  unfold meetAll
  induction peers generalizing s with
  | nil => exact hasc k
  | cons f rest ih => exact ih (ascending_meet hasc e f)

/-- Links are a matter of profiles. -/
theorem linked_congr {s s' : State} (hsame : ∀ k, s'.profile k = s.profile k) (e f : Handle) :
    s'.Linked e f ↔ s.Linked e f := by
  have hat : ∀ side h site, s'.EndpointAt side h site ↔ s.EndpointAt side h site :=
    fun side h site => endpointAt_congr (hsame h) fun _ _ k _ => hsame k
  simp only [Linked, Compatible, hat]

/-- Meeting peers one after the other links the endpoint with those it is compatible with. -/
theorem mem_meetAll {s : State} {side : Side} {e : Handle} {site : Site}
    (hat : s.EndpointAt side e site) (peers : List Handle)
    (hpeers : ∀ f ∈ peers, ∃ other, s.EndpointAt side.opposite f other ∧ other.key = site.key)
    (k x : Handle) :
    x ∈ (s.meetAll e peers).matchedWith k ↔
      x ∈ s.matchedWith k ∨ (s.Linked e x ∧ k = e ∧ x ∈ peers) ∨
        (s.Linked e k ∧ x = e ∧ k ∈ peers) := by
  unfold meetAll
  induction peers generalizing s with
  | nil => simp
  | cons f rest ih =>
      obtain ⟨other, hpeer, hkey⟩ := hpeers f List.mem_cons_self
      have hsame : ∀ k, (s.meet e f).profile k = s.profile k :=
        (agree_meet profile_ignoresTraffic s e f).look
      have hkeep : ∀ k p, s.profile k = some p → (s.meet e f).profile k = some p :=
        fun k p hk => (hsame k).trans hk
      have hrest : ∀ g ∈ rest, ∃ other,
          (s.meet e f).EndpointAt side.opposite g other ∧ other.key = site.key := by
        intro g hg
        obtain ⟨other, hg, hkey⟩ := hpeers g (List.mem_cons_of_mem _ hg)
        exact ⟨other, hg.mono hkeep, hkey⟩
      -- meeting changes no profile, so the rest can be met in the state after the first
      rw [List.foldl_cons, ih (hat.mono hkeep) hrest, mem_meet hat hpeer hkey,
        linked_congr hsame, linked_congr hsame]
      simp only [List.mem_cons]
      constructor
      · rintro ((hx | ⟨hlink, ⟨hk, hx⟩ | ⟨hk, hx⟩⟩) | ⟨hlink, hk, hx⟩ | ⟨hlink, hx, hk⟩)
        · exact .inl hx
        · exact .inr (.inl ⟨hx ▸ hlink, hk, .inl hx⟩)
        · exact .inr (.inr ⟨hk ▸ hlink, hx, .inl hk⟩)
        · exact .inr (.inl ⟨hlink, hk, .inr hx⟩)
        · exact .inr (.inr ⟨hlink, hx, .inr hk⟩)
      · rintro (hx | ⟨hlink, hk, hx | hx⟩ | ⟨hlink, hx, hk | hk⟩)
        · exact .inl (.inl hx)
        · exact .inl (.inr ⟨hx ▸ hlink, .inl ⟨hk, hx⟩⟩)
        · exact .inr (.inl ⟨hlink, hk, hx⟩)
        · exact .inl (.inr ⟨hk ▸ hlink, .inr ⟨hk, hx⟩⟩)
        · exact .inr (.inr ⟨hlink, hx, hk⟩)

/-! ## One step -/

theorem Linked.ne_fresh {s : State} (hwf : s.WellFormed) {e f : Handle} (h : s.Linked e f) :
    e ≠ s.next ∧ f ≠ s.next := by
  have hlive : ∀ {side k site}, s.EndpointAt side k site → k ≠ s.next := by
    rintro side k site ⟨p, g, t, hk, -⟩
    exact hwf.ne_fresh hk
  rcases h with ⟨a, b, ha, hb, -⟩ | ⟨a, b, ha, hb, -⟩
  · exact ⟨hlive ha, hlive hb⟩
  · exact ⟨hlive hb, hlive ha⟩

/-- A new entity leaves the links between the others as they are. -/
theorem WellFormed.linked_insert {s : State} (hwf : s.WellFormed)
    {participant parent : Option Handle} {body : Body} {e f : Handle}
    (he : e ≠ s.next) (hf : f ≠ s.next) :
    (s.insert kind participant parent body).2.Linked e f ↔ s.Linked e f := by
  simp only [Linked, Compatible, hwf.endpointAt_insert he, hwf.endpointAt_insert hf]

theorem linked_delete {s s' : State} {doomed : List Handle} (hclosed : s.Closed doomed)
    (hgone : ∀ k, s'.profile k = if k ∈ doomed then none else s.profile k) {e f : Handle} :
    s'.Linked e f ↔ e ∉ doomed ∧ f ∉ doomed ∧ s.Linked e f := by
  simp only [Linked, Compatible, endpointAt_delete hclosed hgone]
  constructor
  · rintro (⟨a, b, ⟨he, ha⟩, ⟨hf, hb⟩, hserves⟩ | ⟨a, b, ⟨hf, ha⟩, ⟨he, hb⟩, hserves⟩)
    · exact ⟨he, hf, .inl ⟨a, b, ha, hb, hserves⟩⟩
    · exact ⟨he, hf, .inr ⟨a, b, ha, hb, hserves⟩⟩
  · rintro ⟨he, hf, ⟨a, b, ha, hb, hserves⟩ | ⟨a, b, ha, hb, hserves⟩⟩
    · exact .inl ⟨a, b, ⟨he, ha⟩, ⟨hf, hb⟩, hserves⟩
    · exact .inr ⟨a, b, ⟨hf, ha⟩, ⟨he, hb⟩, hserves⟩

namespace Matching

variable {s s' : State}

theorem kept (hm : s.Matching) (hagree : Agree Record.outline s s') : s'.Matching := by
  constructor
  · intro e f
    rw [hagree.matchedWith, hm.mem_iff, linked_congr hagree.profile]
  · intro e
    rw [hagree.matchedWith]
    exact hm.ascending e

/-- A new entity that is no endpoint is linked with nothing. -/
theorem created (hm : s.Matching) (hwf : s.WellFormed) {participant parent : Option Handle}
    {body : Body} (hside : ∀ (side : Side) t q, body.role ≠ side.endpoint t q) :
    (s.insert kind participant parent body).2.Matching := by
  have hmatched : body.matched = [] := by
    cases body with
    | writer w => exact absurd rfl (hside .writer w.topic w.qos)
    | reader r => exact absurd rfl (hside .reader r.topic r.qos)
    | _ => rfl
  -- the new entity is no endpoint, so that it is linked with nobody
  have hnew : ∀ {side site}, ¬(s.insert kind participant parent body).2.EndpointAt side
      s.next site := by
    rintro side site ⟨p, g, t, hh, -⟩
    rw [insert_profile, if_pos rfl] at hh
    simp only [Option.some.injEq, Profile.mk.injEq] at hh
    exact hside side t _ hh.2.2
  constructor
  · intro e f
    rw [insert_matchedWith]
    by_cases he : e = s.next
    · rw [if_pos he, hmatched, he]
      simp [Linked, Compatible, hnew]
    · rw [if_neg he, hm.mem_iff]
      by_cases hf : f = s.next
      · refine iff_of_false (fun h => (h.ne_fresh hwf).2 hf) ?_
        rw [hf]
        simp [Linked, Compatible, hnew]
      · exact (hwf.linked_insert he hf).symm
  · intro e
    rw [insert_matchedWith, hmatched]
    split
    · exact List.Pairwise.nil
    · exact hm.ascending e

/-- A new endpoint meets everything that it is compatible with. -/
theorem joined (hm : s.Matching) (hwf : s.WellFormed) {p g t : Handle} {side : Side}
    {qos : EndpointQos}
    (hplaced : s.Placed s.next ⟨p, some g, side.endpoint t qos⟩) :
    ((s.withEndpoint side p g t qos).discover s.next).Matching := by
  have hwf₁ := hwf.withEndpoint hplaced
  obtain ⟨site, hat⟩ := hwf.newEndpointAt hplaced
  -- before it meets anybody, the new endpoint has no peers
  have hbefore : ∀ k x, x ∈ (s.withEndpoint side p g t qos).matchedWith k ↔
      k ≠ s.next ∧ s.Linked k x := by
    intro k x
    rw [withEndpoint_matchedWith]
    by_cases hk : k = s.next
    · simp [hk]
    · simp [hk, hm.mem_iff]
  have hold : ∀ e f, e ≠ s.next → f ≠ s.next →
      ((s.withEndpoint side p g t qos).Linked e f ↔ s.Linked e f) :=
    fun e f he hf => hwf.linked_insert he hf
  have hlinked := linked_congr
    (agree_discover profile_ignoresTraffic (s.withEndpoint side p g t qos) s.next).look
  constructor
  · intro e f
    rw [hlinked]
    refine (mem_meetAll hat _ (fun f hf => (mem_peersOf_iff hwf₁ hat).mp hf) e f).trans ?_
    rw [hbefore]
    constructor
    · rintro (⟨he, hlink⟩ | ⟨hlink, rfl, -⟩ | ⟨hlink, rfl, -⟩)
      · exact (hold e f he (hlink.ne_fresh hwf).2).mpr hlink
      · exact hlink
      · exact hlink.symm
    · intro hlink
      -- the new one is linked with whom it meets, and the old ones as they were
      by_cases he : e = s.next
      · subst he
        exact .inr (.inl ⟨hlink, rfl, Linked.mem_peersOf hwf₁ hlink hat⟩)
      · by_cases hf : f = s.next
        · subst hf
          exact .inr (.inr ⟨hlink.symm, rfl, Linked.mem_peersOf hwf₁ hlink.symm hat⟩)
        · exact .inl ⟨he, (hold e f he hf).mp hlink⟩
  · refine ascending_meetAll (fun k => ?_) s.next _
    rw [withEndpoint_matchedWith]
    split
    · exact List.Pairwise.nil
    · exact hm.ascending k

/-- When a part of the tree goes, exactly the links that touch it go. -/
theorem deleted (hm : s.Matching) {doomed : List Handle} (hclosed : s.Closed doomed) :
    (s.deleteAll doomed).Matching := by
  constructor
  · intro e f
    rw [deleteAll_matchedWith, linked_delete hclosed (deleteAll_profile s doomed)]
    by_cases he : e ∈ doomed
    · simp [he]
    · simp only [he, if_false, List.mem_filter, hm.mem_iff e f, decide_eq_true_eq,
        not_false_eq_true, true_and, not_and]
      constructor
      · rintro ⟨hlink, hback⟩
        exact ⟨fun hf => hback hf ((hm.mem_iff f e).mpr hlink.symm), hlink⟩
      · rintro ⟨hf, hlink⟩
        exact ⟨hlink, fun hf' => absurd hf' hf⟩
  · intro e
    rw [deleteAll_matchedWith]
    split
    · exact List.Pairwise.nil
    · exact (hm.ascending e).filter _

/-- A participant that goes alone had no matched peers and was nobody's peer. -/
theorem released (hm : s.Matching) {p : Handle} (hclosed : s.Closed [p])
    {d : DomainId} (hp : s.profile p = some ⟨p, none, .participant d⟩)
    (hagree : Agree Record.core (s.remove p) s') : s'.Matching := by
  have hnone : s.matchedWith p = [] := by
    obtain ⟨r, hr, hpr⟩ := profile_eq_some_iff.mp hp
    rw [matchedWith_of_get? hr]
    cases hb : r.body <;> simp_all [Record.profile, Body.role, Body.matched]
  have hsame : Agree Record.outline (s.deleteAll [p]) (s.remove p) := by
    have hkept : s.unmatchPeers [p] p = s := by
      unfold unmatchPeers
      rw [hnone, List.filter_nil, List.foldl_nil]
    unfold deleteAll
    simp only [List.foldl_cons, List.foldl_nil, hkept]
    exact .refl _ _
  exact (hm.deleted hclosed).kept (hsame.trans (hagree.of_core Record.outline_core))

/-- Every step keeps the matched peers in line with what is to be matched. -/
theorem evolves (hm : s.Matching) (hwf : s.WellFormed) {operation : Operation} {reply : Reply}
    (hstep : s.Evolves operation (reply, s')) : s'.Matching := by
  cases hstep with
  | quiet hquiet hagree => exact hm.kept (hagree.of_core Record.outline_core)
  | wrote hok => exact hm.kept (agree_write hok)
  | took r => exact hm.kept (agree_take outline_ignoresRaised outline_ignoresQueue s r)
  | created hquiet hside hplaced => exact hm.created hwf hside
  | joined hplaced => exact hm.joined hwf hplaced
  | cleared hp => exact hm.deleted (hwf.closed_contained hp)
  | released hp hempty hagree => exact hm.released (hwf.closed_singleton hp hempty) hp hagree

end Matching

/-- A writer remembers those it is compatible with. -/
theorem Matching.mem_matched_iff {s : State} (hm : s.Matching) (hwf : s.WellFormed) {w : Handle}
    {x : Writer} (hx : s.writer? w = some x) (h : Handle) : h ∈ x.matched ↔ s.Compatible w h := by
  obtain ⟨offered, hat, -⟩ := hwf.writerAt hx
  rw [← matchedWith_of_writer? hx, hm.mem_iff, linked_iff_of_writer hat]

/-- What a writer remembers are other entities, and readers. -/
theorem Matching.reader_of_matched {s : State} (hm : s.Matching) (hwf : s.WellFormed)
    {w h : Handle} {x : Writer} (hx : s.writer? w = some x) (hh : h ∈ x.matched) :
    h ≠ w ∧ ∃ y, s.reader? h = some y := by
  obtain ⟨offered, requested, hw, hr, -⟩ := (hm.mem_matched_iff hwf hx h).mp hh
  obtain ⟨y, hy, -⟩ := hr.reader
  refine ⟨?_, y, hy⟩
  rintro rfl
  cases (hw.unique hr).1

/-! ## Every run -/

theorem matching_new (maxSamples : Nat) : (State.new maxSamples).Matching := by
  constructor
  · intro e f
    refine iff_of_false (fun h => nomatch h) ?_
    rintro (⟨a, b, ⟨p, g, t, hh, -⟩, -⟩ | ⟨a, b, ⟨p, g, t, hh, -⟩, -⟩) <;>
      exact absurd hh (by simp [State.profile, State.new])
  · exact fun e => List.Pairwise.nil

theorem matching_of_reachable {isFile : String → Bool} {s : State}
    (hreach : Reachable isFile s) : s.Matching := by
  induction hreach with
  | new maxSamples => exact matching_new maxSamples
  | step before operation ih =>
      have hwf := wellFormed_of_reachable before
      exact ih.evolves hwf (perform_evolves hwf isFile operation)

/-- In every reachable state, a live writer and a live reader stand at a site each, and either end
remembers the other exactly if the writer's site serves the reader's. Nothing is remembered but
live endpoints of the other side. -/
theorem matched_iff_serves {isFile : String → Bool} {s : State} (hreach : Reachable isFile s) :
    (∀ w r x y, s.writer? w = some x → s.reader? r = some y →
      ∃ offered requested,
        s.EndpointAt .writer w offered ∧ s.EndpointAt .reader r requested ∧
        (r ∈ x.matched ↔ offered.Serves requested) ∧
        (w ∈ y.matched ↔ offered.Serves requested)) ∧
    (∀ w x, s.writer? w = some x → ∀ r ∈ x.matched, ∃ y, s.reader? r = some y) ∧
    (∀ r y, s.reader? r = some y → ∀ w ∈ y.matched, ∃ x, s.writer? w = some x) := by
  have hwf := wellFormed_of_reachable hreach
  have hm := matching_of_reachable hreach
  refine ⟨fun w r x y hx hy => ?_, fun w x hx r hr => ?_, fun r y hy w hw => ?_⟩
  · obtain ⟨offered, hw, -⟩ := hwf.writerAt hx
    obtain ⟨requested, hr, -⟩ := hwf.readerAt hy
    refine ⟨offered, requested, hw, hr, ?_, ?_⟩
    · rw [← matchedWith_of_writer? hx, hm.mem_iff, linked_iff_of_writer hw, compatible_iff hw hr]
    · rw [← matchedWith_of_reader? hy, hm.mem_iff, linked_iff_of_reader hr, compatible_iff hw hr]
  · obtain ⟨offered, hw, -⟩ := hwf.writerAt hx
    rw [← matchedWith_of_writer? hx, hm.mem_iff, linked_iff_of_writer hw] at hr
    obtain ⟨y, hy, -⟩ := hr.side.2.choose_spec.reader
    exact ⟨y, hy⟩
  · obtain ⟨requested, hr, -⟩ := hwf.readerAt hy
    rw [← matchedWith_of_reader? hy, hm.mem_iff, linked_iff_of_reader hr] at hw
    obtain ⟨x, hx, -⟩ := hw.side.1.choose_spec.writer
    exact ⟨x, hx⟩

/-- A participant that talks to itself: one topic, one writer and one reader. -/
def chatRun : List Operation :=
  [.init [], .createParticipant 7, .registerType ⟨1⟩ "Message",
    .createTopic ⟨1⟩ "chat" "Message", .createPublisher ⟨1⟩ ["a", "b"],
    .createSubscriber ⟨1⟩ ["b"], .createWriter ⟨3⟩ ⟨2⟩ .writerDefault,
    .createReader ⟨4⟩ ⟨2⟩ .readerDefault]

theorem matched_iff_serves_chat :
    Reachable (fun _ => false) (new.run (fun _ => false) chatRun) ∧
      ∃ offered requested,
        (new.run (fun _ => false) chatRun).EndpointAt .writer ⟨5⟩ offered ∧
        (new.run (fun _ => false) chatRun).EndpointAt .reader ⟨6⟩ requested ∧
        offered.Serves requested := by
  have hreach : Reachable (fun _ => false) (new.run (fun _ => false) chatRun) :=
    reachable_run (.new _) chatRun
  refine ⟨hreach, ?_⟩
  obtain ⟨offered, requested, hw, hr, hmatched, -⟩ := (matched_iff_serves hreach).1 ⟨5⟩ ⟨6⟩
    ⟨⟨2⟩, .writerDefault, [⟨6⟩], []⟩ ⟨⟨2⟩, .readerDefault, [⟨5⟩], [], none⟩ (by decide) (by decide)
  exact ⟨offered, requested, hw, hr, hmatched.mp (by decide)⟩

end State

end DdsBridge.Provider
