import DdsBridge.Proofs.Provider.Cleanup
import DdsBridge.Proofs.Provider.Subjects

/-!
# Domains are kept apart

All participants share one table of entities, and some operations look at all of it: a new endpoint
looks for its peers, a clean-up for what it deletes, a subscriber for the queues below it. What an
operation then touches is in the domain of what it names, because an entity refers to entities of
its own participant and is matched with endpoints of its own domain.

* **`State.domain?`** — the domain of an entity.
* **`WellFormed.domain?_refersTo`**, **`Matching.domain?_eq`**, **`domain?_peersOf`** — references,
  matches and meetings stay within a domain.
* **`State.Passes`** — an update passes a domain by.
* **`State.Untouched`** — what there is of a domain is as it was, with the listener calls due for it.
* **`Operation.names`**, **`State.Confined`** — what an operation names lies in one domain.
* **`domains_isolated`** — the other domains are untouched, by a step and by a whole run.
-/

namespace DdsBridge.Provider

/-- The domain of a participant. -/
def Role.domain? : Role → Option DomainId
  | .participant domain => some domain
  | _ => none

namespace State

variable {s s' t : State} {d : DomainId} {e f g h k : Handle}

/-! ## The domain of an entity -/

/-- The domain that a live entity is in: that of its participant. -/
def domain? (s : State) (h : Handle) : Option DomainId :=
  (s.entities.get? h).bind fun r => s.domainOf r.participant

theorem domainOf_eq (s : State) (p : Handle) :
    s.domainOf p = (s.profile p).bind fun pr => pr.role.domain? := by
  unfold domainOf State.profile
  cases hr : s.entities.get? p with
  | none => rfl
  | some r =>
      obtain ⟨_, _, _, _, _, _, body⟩ := r
      cases body <;> rfl

theorem domain?_eq (s : State) (h : Handle) :
    s.domain? h = (s.profile h).bind fun pr => s.domainOf pr.participant := by
  unfold domain? State.profile
  cases s.entities.get? h <;> rfl

/-- Domains are a matter of profiles. -/
theorem domain?_congr (hsame : ∀ k, s'.profile k = s.profile k) (h : Handle) :
    s'.domain? h = s.domain? h := by
  simp only [domain?_eq, domainOf_eq, hsame]

theorem domain?_of_profile {pr : Profile} (hh : s.profile h = some pr) :
    s.domain? h = s.domainOf pr.participant := by
  rw [domain?_eq, hh, Option.bind_some]

theorem profile_of_domain? (hd : s.domain? h = some d) : ∃ pr, s.profile h = some pr := by
  rw [domain?_eq] at hd
  obtain ⟨pr, hpr, -⟩ := Option.bind_eq_some_iff.mp hd
  exact ⟨pr, hpr⟩

/-- What an entity refers to is in its domain. -/
theorem WellFormed.domain?_refersTo (hwf : s.WellFormed) {pr : Profile}
    (hh : s.profile h = some pr) (hk : k ∈ pr.refersTo) : s.domain? k = s.domain? h := by
  obtain ⟨prk, hprk, hsame⟩ := (hwf.placed hh).refersTo hh hk
  rw [domain?_of_profile hh, domain?_of_profile hprk, hsame]

theorem WellFormed.domain?_participant (hwf : s.WellFormed) {pr : Profile}
    (hh : s.profile h = some pr) : s.domain? pr.participant = s.domain? h :=
  hwf.domain?_refersTo hh (by simp [Profile.refersTo])

theorem WellFormed.domain?_parent (hwf : s.WellFormed)
    (hg : (s.entities.get? h).bind Record.parent = some g) : s.domain? g = s.domain? h := by
  obtain ⟨r, hr, hparent⟩ := Option.bind_eq_some_iff.mp hg
  refine hwf.domain?_refersTo (profile_of_get? hr) ?_
  simp [Profile.refersTo, Record.profile, hparent]

theorem EndpointAt.domain? {side : Side} {site : Site} (hat : s.EndpointAt side h site) :
    s.domain? h = some site.domain := by
  obtain ⟨p, g, t, hh, hp, -⟩ := hat
  rw [domain?_of_profile hh, domainOf_eq, hp]
  rfl

theorem Linked.domain? (hlink : s.Linked e f) : s.domain? f = s.domain? e := by
  rcases hlink with ⟨a, b, ha, hb, hserves⟩ | ⟨a, b, ha, hb, hserves⟩
  · rw [ha.domain?, hb.domain?, hserves.domain]
  · rw [ha.domain?, hb.domain?, hserves.domain]

/-- Matched endpoints are in one domain. -/
theorem Matching.domain?_eq (hm : s.Matching) (hf : f ∈ s.matchedWith e) :
    s.domain? f = s.domain? e :=
  ((hm.mem_iff e f).mp hf).domain?

/-- An endpoint meets endpoints of its own domain only. -/
theorem domain?_peersOf (hwf : s.WellFormed) {side : Side} {site : Site}
    (hat : s.EndpointAt side e site) (hf : f ∈ s.peersOf e) : s.domain? f = s.domain? e := by
  obtain ⟨other, hother, hkey⟩ := (mem_peersOf_iff hwf hat).mp hf
  rw [hat.domain?, hother.domain?]
  exact congrArg some (congrArg TopicKey.domain hkey)

/-! ## Updates that pass a domain by -/

/-- The entities of a domain are as they were, and no listener call has become due for them. -/
structure Skips (d : DomainId) (s s' : State) : Prop where
  record : ∀ {k}, s.domain? k = some d → s'.entities.get? k = s.entities.get? k
  calls : ∀ {k}, s.domain? k = some d → s'.callsOf k = s.callsOf k

/-- The entities of a domain are as they were, and all others are what they were. -/
structure Passes (d : DomainId) (s s' : State) : Prop
    extends Agree Record.stem s s', Skips d s s'

namespace Passes

theorem refl (d : DomainId) (s : State) : Passes d s s :=
  ⟨.refl _ s, ⟨fun _ => rfl, fun _ => rfl⟩⟩

theorem domain? (hp : Passes d s s') (h : Handle) : s'.domain? h = s.domain? h :=
  domain?_congr hp.profile_of_stem.look h

theorem trans (h₁ : Passes d s t) (h₂ : Passes d t s') : Passes d s s' where
  toAgree := h₁.toAgree.trans h₂.toAgree
  record hk := (h₂.record ((h₁.domain? _).trans hk)).trans (h₁.record hk)
  calls hk := (h₂.calls ((h₁.domain? _).trans hk)).trans (h₁.calls hk)

theorem wellFormed (hp : Passes d s s') (hwf : s.WellFormed) : s'.WellFormed :=
  hwf.of_agree hp.toAgree

/-- Each of several updates may rely on those before it. -/
theorem foldl {α : Type} {step : State → α → State} {as : List α}
    (hstep : ∀ t a, a ∈ as → Passes d s t → Passes d t (step t a)) :
    Passes d s (as.foldl step s) := by
  have hgeneral : ∀ (rest : List α) t, (∀ a ∈ rest, a ∈ as) → Passes d s t →
      Passes d s (rest.foldl step t) := by
    intro rest
    induction rest with
    | nil => exact fun t _ ht => ht
    | cons a rest ih =>
        intro t hsub ht
        refine ih _ (fun b hb => hsub b (List.mem_cons_of_mem _ hb)) ?_
        exact ht.trans (hstep t a (hsub a List.mem_cons_self) ht)
  exact hgeneral as s (fun _ ha => ha) (refl d s)

theorem ne (hout : s.domain? h ≠ some d) (hk : s.domain? k = some d) : k ≠ h := by
  rintro rfl
  exact hout hk

theorem modifyEntity (hout : s.domain? h ≠ some d) {f : Record → Record}
    (hf : ∀ r, (f r).stem = r.stem) : Passes d s (s.modifyEntity h f) where
  toAgree := agree_modifyEntity s h hf
  record hk := (modifyEntity_get? ..).trans (if_neg (ne hout hk))
  calls _ := rfl

theorem modifyWriter (hout : s.domain? h ≠ some d) {f : Writer → Writer}
    (hf : ∀ w, (f w).topic = w.topic ∧ (f w).qos = w.qos) : Passes d s (s.modifyWriter h f) := by
  refine modifyEntity hout fun r => ?_
  obtain ⟨_, _, _, _, _, _, body⟩ := r
  cases body with
  | writer w => simp [Record.stem, Record.profile, Body.role, hf w]
  | _ => rfl

theorem modifyReader (hout : s.domain? h ≠ some d) {f : Reader → Reader}
    (hf : ∀ x, (f x).topic = x.topic ∧ (f x).qos = x.qos) : Passes d s (s.modifyReader h f) := by
  refine modifyEntity hout fun r => ?_
  obtain ⟨_, _, _, _, _, _, body⟩ := r
  cases body with
  | reader x => simp [Record.stem, Record.profile, Body.role, hf x]
  | _ => rfl

theorem raise (hout : s.domain? h ≠ some d) (kind : StatusKind) : Passes d s (s.raise h kind) where
  toAgree := agree_raise (stem_ignoresTraffic.raised kind) s h
  record hk := (raise_get? ..).trans (if_neg (ne hout hk))
  calls hk := raise_callsOf_of_ne (ne hout hk) kind

theorem lower (hout : s.domain? h ≠ some d) (kind : StatusKind) : Passes d s (s.lower h kind) :=
  modifyEntity hout fun _ => rfl

theorem rematchWriter (hout : s.domain? h ≠ some d) (f : Writer → List Handle) :
    Passes d s (s.modifyWriter h fun w => { w with matched := f w }) :=
  modifyWriter hout fun _ => ⟨rfl, rfl⟩

theorem rematchReader (hout : s.domain? h ≠ some d) (f : Reader → List Handle) :
    Passes d s (s.modifyReader h fun x => { x with matched := f x }) :=
  modifyReader hout fun _ => ⟨rfl, rfl⟩

/-- An update after another one that passed the domain by. -/
theorem andThen (h₁ : Passes d s t) (hout : s.domain? h ≠ some d)
    (h₂ : t.domain? h ≠ some d → Passes d t s') : Passes d s s' :=
  h₁.trans (h₂ (h₁.domain? h ▸ hout))

/-! ### Samples -/

theorem announce (hwf : s.WellFormed) (hout : s.domain? h ≠ some d) :
    Passes d s (s.announce h) := by
  unfold State.announce
  dsimp only
  split
  · rename_i g hg
    have hgout : s.domain? g ≠ some d := hwf.domain?_parent hg ▸ hout
    exact (raise hout _).andThen hgout fun hout' => raise hout' _
  · exact raise hout _

theorem offer (hwf : s.WellFormed) (hout : s.domain? h ≠ some d) (y : Sample) :
    Passes d s (s.offer h y) := by
  unfold State.offer
  split
  · exact refl d s
  · split
    · exact raise hout _
    · rename_i queue _
      have hqueue : Passes d s (s.modifyReader h fun r => { r with queue }) :=
        modifyReader hout fun _ => ⟨rfl, rfl⟩
      exact hqueue.andThen hout (announce (hqueue.wellFormed hwf))

theorem offerAll (hwf : s.WellFormed) (hout : s.domain? h ≠ some d) (ys : List Sample) :
    Passes d s (s.offerAll h ys) :=
  foldl fun _ y _ ht => offer (ht.wellFormed hwf) (ht.domain? h ▸ hout) y

theorem settleReader (hwf : s.WellFormed) (hout : s.domain? h ≠ some d) :
    Passes d s (s.settleReader h) := by
  unfold State.settleReader
  dsimp only
  split
  · rename_i g hg
    have hgout : s.domain? g ≠ some d := hwf.domain?_parent hg ▸ hout
    refine (lower hout .dataAvailable).andThen hgout fun hout' => ?_
    unfold State.settleSubscriber
    split
    · exact refl d _
    · exact lower hout' _
  · exact lower hout _

theorem take (hwf : s.WellFormed) (hout : s.domain? h ≠ some d) : Passes d s (s.take h).2 := by
  have hpop : ∀ rest, Passes d s (s.modifyReader h fun r => { r with queue := rest }) :=
    fun rest => modifyReader hout fun _ => ⟨rfl, rfl⟩
  rcases s.take_snd h with hs | hs | ⟨rest, hs | hs⟩ <;> rw [hs]
  · exact refl d s
  · exact settleReader hwf hout
  · exact hpop rest
  · exact (hpop rest).andThen hout (settleReader ((hpop rest).wellFormed hwf))

theorem write (hwf : s.WellFormed) (hm : s.Matching) {payload : List UInt8}
    (hout : s.domain? h ≠ some d) (hok : s.write h payload = (.ok (), s')) : Passes d s s' := by
  obtain ⟨w, hw, rfl⟩ := write_eq_ok hok
  have hkept : Passes d s (s.modifyWriter h fun w =>
      { w with history := remember w.qos s.maxSamples w.history payload }) :=
    modifyWriter hout fun _ => ⟨rfl, rfl⟩
  refine hkept.trans (foldl fun t r hr ht => ?_)
  -- the readers are those matched with the writer, which are in its domain
  have hpeer : s.domain? r = s.domain? h := hm.domain?_eq (matchedWith_of_writer? hw ▸ hr)
  have hall := hkept.trans ht
  refine offer (hall.wellFormed hwf) ?_ _
  rw [hall.domain? r, hpeer]
  exact hout

/-! ### Meetings and farewells -/

theorem connect (hwf : s.WellFormed) {w r : Handle} (hw : s.domain? w ≠ some d)
    (hr : s.domain? r ≠ some d) : Passes d s (s.connect w r) := by
  unfold State.connect
  split
  · exact refl d s
  · split
    · split
      · exact (raise hw _).andThen hr fun hr' => raise hr' _
      · have hjoined := (rematchWriter hw fun x => insertHandle r x.matched).andThen hr
          fun hr' => rematchReader hr' fun x => insertHandle w x.matched
        have htold := (hjoined.andThen hw fun hw' => raise hw' .publicationMatched).andThen hr
          fun hr' => raise hr' .subscriptionMatched
        exact htold.andThen hr fun hr' => offerAll (htold.wellFormed hwf) hr' _
    · exact refl d s

theorem discover (hwf : s.WellFormed) {side : Side} {site : Site}
    (hat : s.EndpointAt side e site) (hout : s.domain? e ≠ some d) :
    Passes d s (s.discover e) := by
  refine foldl fun t peer hpeer ht => ?_
  have hwf' := ht.wellFormed hwf
  have he : t.domain? e ≠ some d := ht.domain? e ▸ hout
  have hp : t.domain? peer ≠ some d := by
    rw [ht.domain? peer, domain?_peersOf hwf hat hpeer]
    exact hout
  unfold State.meet
  split
  · exact connect hwf' he hp
  · exact connect hwf' hp he

theorem unmatch (hwf : s.WellFormed) {gone peer : Handle} (hout : s.domain? peer ≠ some d) :
    Passes d s (s.unmatch gone peer) := by
  unfold State.unmatch
  split
  · exact (rematchWriter hout fun w => w.matched.filter (· ≠ gone)).andThen hout
      fun hout' => raise hout' _
  · dsimp only
    rename_i x _ _
    have htold := (rematchReader hout fun _ => x.matched.filter (· ≠ gone)).andThen hout
      fun hout' => raise hout' .subscriptionMatched
    split
    · exact htold.andThen hout fun hout' => offer (htold.wellFormed hwf) hout' _
    · exact htold
  · exact refl d s

theorem unmatchPeers (hwf : s.WellFormed) {doomed : List Handle} {gone : Handle}
    (hout : ∀ peer ∈ s.matchedWith gone, s.domain? peer ≠ some d) :
    Passes d s (s.unmatchPeers doomed gone) :=
  foldl fun t peer hpeer ht => by
    refine unmatch (ht.wellFormed hwf) ?_
    rw [ht.domain? peer]
    exact hout peer (List.mem_filter.mp hpeer).1

/-- While peers are told, the matched peers of an endpoint only become fewer, so all who are told
are in the domain of somebody who goes. -/
theorem told (hwf : s.WellFormed) (hm : s.Matching) {doomed : List Handle}
    (hout : ∀ g ∈ doomed, s.domain? g ≠ some d) : Passes d s (s.told doomed) := by
  have hgeneral : ∀ (rest : List Handle) t, (∀ g ∈ rest, g ∈ doomed) → Passes d s t →
      (∀ k, t.matchedWith k ⊆ s.matchedWith k) →
      Passes d s (rest.foldl (fun s gone => s.unmatchPeers doomed gone) t) := by
    intro rest
    induction rest with
    | nil => exact fun t _ ht _ => ht
    | cons gone rest ih =>
        intro t hsub ht hfewer
        have hstep : Passes d t (t.unmatchPeers doomed gone) := by
          refine unmatchPeers (ht.wellFormed hwf) fun peer hpeer => ?_
          rw [ht.domain? peer, hm.domain?_eq (hfewer gone hpeer)]
          exact hout gone (hsub gone List.mem_cons_self)
        refine ih _ (fun g hg => hsub g (List.mem_cons_of_mem _ hg)) (ht.trans hstep) fun k => ?_
        intro peer hpeer
        rw [unmatchPeers_matchedWith] at hpeer
        split at hpeer
        · exact hfewer k (List.mem_filter.mp hpeer).1
        · exact hfewer k hpeer
  exact hgeneral doomed s (fun _ hg => hg) (refl d s) fun _ _ hpeer => hpeer

end Passes

/-! ## What an operation names -/

/-- Nothing of a domain changes: no entity, no status condition of one, and no listener call has
become due. -/
structure Untouched (d : DomainId) (s s' : State) : Prop extends Skips d s s' where
  condition : ∀ {k c}, s.domain? k = some d → s.conditionOf k = some c →
    s'.conditions.get? c = s.conditions.get? c

end State

/-- The entities that an operation names. -/
def Operation.names : Operation → List Handle
  | .release h => [h]
  | operation => operation.subjects.map Prod.fst

/-- The status conditions that an operation names. -/
def Operation.conditions : Operation → List ConditionId
  | .setEnabled c _ | .attach _ c | .detach _ c => [c]
  | _ => []

namespace State

variable {s s' : State} {d : DomainId} {g h k : Handle}

/-- An operation names nothing of a domain, neither an entity nor the status condition of one. -/
structure Avoids (s : State) (d : DomainId) (operation : Operation) : Prop where
  entities : ∀ h ∈ operation.names, s.domain? h ≠ some d
  conditions : ∀ c ∈ operation.conditions, ∀ x, s.conditions.get? c = some x →
    s.domain? x.entity ≠ some d

/-- All entities that an operation names are of one domain, and all status conditions are those of
entities of that domain. A number that names nothing is of no domain. -/
structure Confined (s : State) (d : DomainId) (operation : Operation) : Prop where
  entities : ∀ h ∈ operation.names, ∀ found, s.domain? h = some found → found = d
  conditions : ∀ c ∈ operation.conditions, ∀ x, s.conditions.get? c = some x →
    ∀ found, s.domain? x.entity = some found → found = d

theorem Confined.avoids {operation : Operation} {d' : DomainId} (h : s.Confined d operation)
    (hne : d' ≠ d) : s.Avoids d' operation :=
  ⟨fun e he hd => hne (h.entities e he d' hd), fun c hc x hx hd => hne (h.conditions c hc x hx d' hd)⟩

/-! ## One step -/

theorem Skips.refl (d : DomainId) (s : State) : Skips d s s := ⟨fun _ => rfl, fun _ => rfl⟩

theorem Skips.remove (hout : s.domain? h ≠ some d) : Skips d s (s.remove h) where
  record hk := (remove_get? ..).trans (if_neg (Passes.ne hout hk))
  calls _ := foldl_remove_callsOf s [h] _

/-- A new entity is none of those that are there. -/
theorem Skips.insert (hwf : s.WellFormed) (participant parent : Option Handle) (body : Body) :
    Skips d s (s.insert kind participant parent body).2 where
  record hk := by
    obtain ⟨pr, hpr⟩ := profile_of_domain? hk
    exact (insert_get? ..).trans (if_neg (hwf.ne_fresh hpr))
  calls _ := rfl

/-- The domains of a state with a new endpoint: the others stay where they are, and the new one is
in the domain of its group. -/
theorem WellFormed.domain?_withEndpoint (hwf : s.WellFormed) (side : Side) {p : Handle} (t : Handle)
    (qos : EndpointQos) {pr : Profile} (hp : s.profile p = some pr) :
    (∀ {k prk}, s.profile k = some prk →
      (s.withEndpoint side p g t qos).domain? k = s.domain? k) ∧
    (s.withEndpoint side p g t qos).domain? s.next = s.domainOf p := by
  have hkept : ∀ {k prk}, s.profile k = some prk →
      (s.withEndpoint side p g t qos).profile k = some prk := fun hk =>
    (withEndpoint_profile ..).trans ((if_neg (hwf.ne_fresh hk)).trans hk)
  have hsame : ∀ {k prk}, s.profile k = some prk →
      (s.withEndpoint side p g t qos).domainOf k = s.domainOf k := fun hk => by
    rw [domainOf_eq, domainOf_eq, hkept hk, hk]
  refine ⟨fun {k prk} hk => ?_, ?_⟩
  · obtain ⟨prp, hprp, -⟩ :=
      (hwf.placed hk).refersTo hk (k := prk.participant) (by simp [Profile.refersTo])
    rw [domain?_of_profile (hkept hk), domain?_of_profile hk, hsame hprp]
  · rw [domain?_of_profile ((withEndpoint_profile ..).trans (if_pos rfl))]
    exact hsame hp

/-- A new endpoint is in the domain of its group, and so are the peers that it meets. -/
theorem Skips.joined (hwf : s.WellFormed) (side : Side) {p t : Handle} {qos : EndpointQos}
    (hplaced : s.Placed s.next ⟨p, some g, side.endpoint t qos⟩) (hout : s.domainOf p ≠ some d)
    {pr : Profile} (hp : s.profile p = some pr) :
    Skips d s ((s.withEndpoint side p g t qos).discover s.next) := by
  obtain ⟨site, hat⟩ := hwf.newEndpointAt hplaced
  obtain ⟨hold, hnew⟩ := hwf.domain?_withEndpoint side (g := g) t qos hp
  have hmet : Passes d (s.withEndpoint side p g t qos) _ :=
    .discover (hwf.withEndpoint hplaced) hat (hnew ▸ hout)
  have hinserted : Skips d s (s.withEndpoint side p g t qos) := .insert hwf _ _ _
  have hthere : ∀ {k}, s.domain? k = some d → (s.withEndpoint side p g t qos).domain? k = some d :=
    fun hk => by
      obtain ⟨prk, hprk⟩ := profile_of_domain? hk
      exact (hold hprk).trans hk
  exact ⟨fun hk => (hmet.record (hthere hk)).trans (hinserted.record hk),
    fun hk => (hmet.calls (hthere hk)).trans (hinserted.calls hk)⟩

/-- What a participant contains is in its domain. -/
theorem WellFormed.domain?_contained (hwf : s.WellFormed) {p : Handle} (hk : k ∈ s.contained p) :
    s.domain? k = s.domain? p := by
  obtain ⟨-, pr, hpr, rfl⟩ := mem_contained.mp hk
  exact (hwf.domain?_participant hpr).symm

theorem Skips.deleteAll (hwf : s.WellFormed) (hm : s.Matching) {doomed : List Handle}
    (hout : ∀ g ∈ doomed, s.domain? g ≠ some d) : Skips d s (s.deleteAll doomed) := by
  have htold := Passes.told hwf hm hout
  constructor
  · intro k hk
    have hstays : k ∉ doomed := fun hmem => hout k hmem hk
    exact (foldl_remove_get? (s.told doomed) doomed k).trans ((if_neg hstays).trans (htold.record hk))
  · intro k hk
    exact (foldl_remove_callsOf (s.told doomed) doomed k).trans (htold.calls hk)

theorem Skips.release (hout : s.domain? h ≠ some d) : Skips d s (s.release h) := by
  unfold State.release
  split
  · exact .refl d s
  · have hgiven : Passes d s (s.modifyEntity h fun r => { r with refs := r.refs - 1 }) :=
      .modifyEntity hout fun _ => rfl
    dsimp only
    split
    · have hgone : Skips d (s.modifyEntity h fun r => { r with refs := r.refs - 1 }) _ :=
        .remove (h := h) (hgiven.domain? h ▸ hout)
      exact ⟨fun hk => (hgone.record ((hgiven.domain? _).trans hk)).trans (hgiven.record hk),
        fun hk => (hgone.calls ((hgiven.domain? _).trans hk)).trans (hgiven.calls hk)⟩
    · exact hgiven.toSkips

variable {operation : Operation}

/-- A new endpoint of a group that is not in the domain. -/
theorem Skips.createEndpoint (hwf : s.WellFormed) (side : Side) {p t : Handle} {qos : EndpointQos}
    (hqos : qos.history.isConsistent = true)
    (hcommon : s.commonParticipant g side.groupKind t = .ok p) (hout : s.domain? g ≠ some d) :
    Skips d s ((s.withEndpoint side p g t qos).discover s.next) := by
  obtain ⟨rg, _, hgroup, -, rfl, -⟩ := commonParticipant_eq_ok hcommon
  obtain ⟨partition, d', hg, hp⟩ := hwf.get_group side hgroup
  exact .joined hwf side (placed_endpoint hwf side hqos hcommon)
    (domain?_of_profile hg ▸ hout) hp

/-- An operation that names nothing of a domain leaves its entities as they are. -/
theorem perform_skips (hwf : s.WellFormed) (hm : s.Matching) (isFile : String → Bool)
    (havoids : s.Avoids d operation) : Skips d s (s.perform isFile operation).2 := by
  -- what is beside the tree touches no entity, whatever its domain
  by_cases hbeside : operation.isBeside = true
  · obtain ⟨⟨hentities, -, -⟩, hcalls⟩ := perform_aside hbeside isFile s
    exact ⟨fun _ => by rw [hentities], fun _ => by rw [callsOf, callsOf, hcalls]⟩
  · have hcase := perform_cases isFile s operation
    generalize s.perform isFile operation = result at hcase ⊢
    cases hcase with
    | refused => exact .refl d s
    | created => exact .insert hwf _ _ _
    | @joined side p g t qos hready hqos hcommon =>
        refine .createEndpoint hwf side hqos hcommon ?_
        cases side <;> exact havoids.entities _ List.mem_cons_self
    | cleared =>
        refine .deleteAll hwf hm fun g hg => ?_
        rw [hwf.domain?_contained hg]
        exact havoids.entities _ List.mem_cons_self
    | registered =>
        refine (Passes.modifyEntity (havoids.entities _ List.mem_cons_self) fun r => ?_).toSkips
        obtain ⟨_, _, _, _, _, _, body⟩ := r
        cases body <;> rfl
    | wrote hok =>
        exact (Passes.write hwf hm (havoids.entities _ List.mem_cons_self) hok).toSkips
    | took r => exact (Passes.take hwf (havoids.entities _ List.mem_cons_self)).toSkips
    | @asked e c s' hok =>
        rcases statusCondition_eq_ok hok with ⟨-, rfl⟩ | ⟨-, -, -, rfl⟩
        · exact .refl d _
        · have hmarked : Passes d s (s.modifyEntity e fun r => { r with condition := some c }) :=
            .modifyEntity (havoids.entities _ List.mem_cons_self) fun _ => rfl
          exact ⟨hmarked.record, hmarked.calls⟩
    | listened =>
        refine (Passes.modifyReader (havoids.entities _ List.mem_cons_self) fun x => ?_).toSkips
        exact ⟨rfl, rfl⟩
    | released h => exact .release (havoids.entities _ List.mem_cons_self)
    | relisted order => exact ⟨fun _ => relist_get? .., fun _ => rfl⟩
    | _ => exact absurd rfl hbeside

/-- The status conditions of the entities of a domain are as they were. -/
theorem perform_keeps_conditions (hwf : s.WellFormed) (hc : s.Conditioned) {isFile : String → Bool}
    (havoids : s.Avoids d operation) (hskips : Skips d s (s.perform isFile operation).2)
    {c : ConditionId} (hk : s.domain? k = some d) (hown : s.conditionOf k = some c) :
    (s.perform isFile operation).2.conditions.get? c = s.conditions.get? c := by
  obtain ⟨mask, hmask⟩ := hc.known hown
  by_cases hwaiting : operation.isWaiting = false
  · obtain ⟨dropped, hspares⟩ := perform_spares hwf isFile hwaiting
    rw [hspares.conditions, if_neg]
    -- a condition is dropped with its entity, and this one is still there
    intro hdropped
    obtain ⟨owner, howner, hgone⟩ := (hspares.dropped_iff c).mp hdropped
    obtain ⟨mask', hmask'⟩ := hc.known howner
    obtain ⟨rfl, -⟩ := Condition.mk.inj (Option.some.inj (hmask.symm.trans hmask'))
    obtain ⟨r, hr, -⟩ := conditionOf_eq_some_iff.mp hown
    rw [hskips.record hk, hr] at hgone
    cases hgone
  · have hcase := perform_cases isFile s operation
    generalize s.perform isFile operation = result at hcase hskips ⊢
    cases hcase with
    | created hready hcreates => exact absurd hcreates.isWaiting_eq hwaiting
    | @joined side => exact absurd (side.isWaiting_create _ _ _) hwaiting
    | asked hok =>
        rcases statusCondition_eq_ok hok with ⟨-, rfl⟩ | ⟨-, -, hnew, rfl⟩
        · rfl
        · have hissued := hc.issued hmask
          refine (Table.get?_insert ..).trans (if_neg fun hsame => ?_)
          rw [hsame, hnew] at hissued
          exact absurd hissued (Nat.not_succ_le_self _)
    | @enabled c' mask' _ hok =>
        obtain ⟨-, rfl⟩ := setEnabled_eq_ok hok
        refine (Table.get?_modify ..).trans (if_neg fun hsame => ?_)
        exact havoids.conditions c' (List.mem_singleton_self _) _ (hsame ▸ hmask) hk
    | droppedWaitSet hok =>
        obtain ⟨-, rfl⟩ := deleteWaitSet_eq_ok hok
        rfl
    | refused | madeWaitSet | attached | detached | apart | entered | left => rfl
    | _ => exact absurd rfl hwaiting

theorem untouched_perform {isFile : String → Bool} (hreach : Reachable isFile s)
    (havoids : s.Avoids d operation) : s.Untouched d (s.perform isFile operation).2 := by
  have hwf := wellFormed_of_reachable hreach
  have hskips := perform_skips hwf (matching_of_reachable hreach) isFile havoids
  exact ⟨hskips, perform_keeps_conditions hwf (conditioned_of_reachable hreach) havoids hskips⟩

/-! ## A whole run -/

theorem Untouched.refl (d : DomainId) (s : State) : s.Untouched d s := ⟨.refl d s, fun _ _ => rfl⟩

/-- The participant of an untouched entity is untouched, so the entity stays in its domain. -/
theorem Untouched.domain? (hu : s.Untouched d s') (hwf : s.WellFormed) (hk : s.domain? k = some d) :
    s'.domain? k = some d := by
  obtain ⟨pr, hpr⟩ := profile_of_domain? hk
  obtain ⟨r, hr, rfl⟩ := profile_eq_some_iff.mp hpr
  have hp : s.domain? r.participant = some d := (hwf.domain?_participant hpr).trans hk
  have hsame : s'.domainOf r.participant = s.domainOf r.participant := by
    rw [domainOf, domainOf, hu.record hp]
  rw [State.domain?, hu.record hk, hr, Option.bind_some, hsame]
  exact (domain?_of_profile hpr).symm.trans hk

theorem Untouched.trans {s₁ : State} (hwf : s.WellFormed) (h₁ : s.Untouched d s₁)
    (h₂ : s₁.Untouched d s') : s.Untouched d s' where
  record hk := (h₂.record (h₁.domain? hwf hk)).trans (h₁.record hk)
  calls hk := (h₂.calls (h₁.domain? hwf hk)).trans (h₁.calls hk)
  condition hk hown := by
    refine (h₂.condition (h₁.domain? hwf hk) ?_).trans (h₁.condition hk hown)
    rw [conditionOf, h₁.record hk]
    exact hown

/-- No operation of a run names anything of a domain. -/
def Shunned (isFile : String → Bool) (d : DomainId) : State → List Operation → Prop
  | _, [] => True
  | s, operation :: rest => s.Avoids d operation ∧ Shunned isFile d (s.perform isFile operation).2 rest

theorem untouched_run {isFile : String → Bool} (hreach : Reachable isFile s)
    {operations : List Operation} (hshunned : Shunned isFile d s operations) :
    s.Untouched d (s.run isFile operations) := by
  induction operations generalizing s with
  | nil => exact .refl d s
  | cons operation rest ih =>
      obtain ⟨havoids, hrest⟩ := hshunned
      have hwf := wellFormed_of_reachable hreach
      exact .trans hwf (untouched_perform hreach havoids) (ih (.step hreach operation) hrest)

/-- In every reachable state, an operation that names only entities of one domain, or their status
conditions, leaves everything of the other domains as it is. So does a whole run of operations of
other domains, however they are mixed with each other. -/
theorem domains_isolated {isFile : String → Bool} (hreach : Reachable isFile s) :
    (∀ {operation : Operation} {d d' : DomainId}, s.Confined d operation → d' ≠ d →
      s.Untouched d' (s.perform isFile operation).2) ∧
    ∀ {operations : List Operation} {d : DomainId}, Shunned isFile d s operations →
      s.Untouched d (s.run isFile operations) :=
  ⟨fun hconfined hne => untouched_perform hreach (hconfined.avoids hne), untouched_run hreach⟩

/-- A writer in domain 0 and a reader in domain 1, alike in everything else. -/
def apartRun : List Operation :=
  [.init [], .createParticipant 0, .registerType ⟨1⟩ "Message", .createTopic ⟨1⟩ "chat" "Message",
    .createPublisher ⟨1⟩ [], .createWriter ⟨3⟩ ⟨2⟩ .writerDefault,
    .createParticipant 1, .registerType ⟨5⟩ "Message", .createTopic ⟨5⟩ "chat" "Message",
    .createSubscriber ⟨5⟩ [], .createReader ⟨7⟩ ⟨6⟩ .readerDefault]

theorem domains_isolated_apart :
    Reachable (fun _ => false) (new.run (fun _ => false) apartRun) ∧
      (new.run (fun _ => false) apartRun).Confined 0 (.write ⟨4⟩ [1]) ∧
      ((new.run (fun _ => false) apartRun).perform (fun _ => false) (.write ⟨4⟩ [1])).1 = .done ∧
      (new.run (fun _ => false) apartRun).domain? ⟨8⟩ = some 1 ∧
      (new.run (fun _ => false) apartRun).Untouched 1
        ((new.run (fun _ => false) apartRun).perform (fun _ => false) (.write ⟨4⟩ [1])).2 := by
  have hreach : Reachable (fun _ => false) (new.run (fun _ => false) apartRun) :=
    reachable_run (.new _) apartRun
  have hconfined : (new.run (fun _ => false) apartRun).Confined 0 (.write ⟨4⟩ [1]) := by
    refine ⟨fun h hmem found hfound => ?_, fun c hmem => absurd hmem List.not_mem_nil⟩
    obtain rfl := List.mem_singleton.mp hmem
    have hwriter : (new.run (fun _ => false) apartRun).domain? ⟨4⟩ = some 0 := by decide
    exact Option.some.inj (hfound.symm.trans hwriter)
  exact ⟨hreach, hconfined, by decide, by decide,
    (domains_isolated hreach).1 hconfined (by decide)⟩

end State

end DdsBridge.Provider
