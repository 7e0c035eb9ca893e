import DdsBridge.Proofs.Provider.Cleanup
import DdsBridge.Proofs.Provider.Coherence

/-!
# Participants that nobody holds

A participant without holders goes once it contains nothing. The provider looks at this when a hold
is given back, and at no other time: a participant that is cleaned up after its last holder is gone
stays, with neither holders nor contents, and nothing but another `release` makes it go.

* **`Evolves.stays`** — what goes, goes by a clean-up or by a release.
* **`perform_keepsRefs`** — holders are lost by a release only.
* **`State.Unheld`**, **`State.Derelict`** — a live participant that nobody holds, and one that also
  contains nothing.
* **`derelict_perform`** — how one step makes or leaves a participant derelict.
* **`derelict_run_iff`** — the runs that end with a derelict participant.
-/

namespace DdsBridge.Provider.State

variable {s s' : State} {p k : Handle} {isFile : String → Bool} {operation : Operation}

/-! ## What stays -/

/-- An entity stays through a step that neither cleans up the participant containing it nor, if it
is a participant itself, gives back a hold on it. -/
theorem Evolves.stays {reply : Reply} (hstep : s.Evolves operation (reply, s'))
    (hwf : s.WellFormed) {pr : Profile} (hk : s.profile k = some pr)
    (hcleared : ∀ q, operation = .deleteContained q → k ∉ s.contained q)
    (hreleased : ∀ d, pr.role = .participant d → operation ≠ .release k) :
    s'.profile k = some pr := by
  have hold := hwf.ne_fresh hk
  cases hstep with
  | quiet hquiet hagree => exact ((hagree.of_core Record.outline_core).profile k).trans hk
  | wrote hok => exact ((agree_write hok).profile k).trans hk
  | took r => exact ((agree_take outline_ignoresRaised outline_ignoresQueue s r).profile k).trans hk
  | created hquiet hside hplaced => exact (insert_profile ..).trans ((if_neg hold).trans hk)
  | @joined side q g t qos hplaced =>
      have hmet := agree_discover profile_ignoresTraffic (s.withEndpoint side q g t qos) s.next
      refine (hmet.look k).trans ?_
      exact (withEndpoint_profile s side q g t qos k).trans ((if_neg hold).trans hk)
  | cleared hq => exact (deleteAll_profile s _ k).trans ((if_neg (hcleared _ rfl)).trans hk)
  | @released q d _ hq hempty hagree =>
      have hne : k ≠ q := by
        rintro rfl
        obtain rfl := Option.some.inj (hk.symm.trans hq)
        exact hreleased d rfl rfl
      exact (hagree.remove_profile k).trans ((if_neg (by simpa using hne)).trans hk)

/-- A participant is not among what a participant contains. -/
theorem WellFormed.participant_not_contained (hwf : s.WellFormed) {owner q : Handle}
    {g : Option Handle} {d : DomainId} (hp : s.profile p = some ⟨owner, g, .participant d⟩) :
    p ∉ s.contained q := by
  intro hmem
  obtain ⟨hne, pr, hpr, hown⟩ := mem_contained.mp hmem
  obtain rfl := Option.some.inj (hp.symm.trans hpr)
  obtain ⟨rfl, -⟩ := hwf.of_participant hp
  exact hne hown

/-- A participant stays unless a hold on it is given back. -/
theorem WellFormed.participant_stays (hwf : s.WellFormed) {d : DomainId}
    (hp : s.profile p = some ⟨p, none, .participant d⟩) (hop : operation ≠ .release p) :
    (s.perform isFile operation).2.profile p = some ⟨p, none, .participant d⟩ :=
  (perform_evolves hwf isFile operation).stays hwf hp
    (fun _ _ => hwf.participant_not_contained hp) fun _ _ => hop

/-- What a participant contains stays unless that participant is cleaned up. -/
theorem WellFormed.contained_stays (hwf : s.WellFormed) (hk : k ∈ s.contained p)
    (hop : operation ≠ .deleteContained p) : k ∈ (s.perform isFile operation).2.contained p := by
  obtain ⟨hne, pr, hpr, hown⟩ := mem_contained.mp hk
  have hstays : (s.perform isFile operation).2.profile k = some pr := by
    refine (perform_evolves hwf isFile operation).stays hwf hpr (fun q hq hmem => ?_)
      fun d hrole => ?_
    · -- what is contained in two participants would belong to both
      obtain ⟨-, pr', hpr', hown'⟩ := mem_contained.mp hmem
      obtain rfl := Option.some.inj (hpr.symm.trans hpr')
      exact hop (hq.trans (by rw [← hown, ← hown']))
    · obtain ⟨owner, g, role⟩ := pr
      obtain rfl : role = .participant d := hrole
      exact absurd hk (hwf.participant_not_contained hpr)
  exact mem_contained.mpr ⟨hne, pr, hstays, hown⟩

/-! ## Holders -/

/-- An entity that is there afterwards was there already with as many holders, or is a new one with
one holder. -/
def RefsFrom (s s' : State) (p : Handle) : Prop :=
  s.KeepsRefs s' p ∨ s.lastId < p.id ∧ ∃ r', s'.entities.get? p = some r' ∧ r'.refs = 1

theorem Gains.refsFrom {e : Handle} (h : s.Gains e s') (p : Handle) : s.RefsFrom s' p := by
  by_cases hnew : p = e
  · exact .inr (hnew ▸ ⟨h.fresh, h.alive⟩)
  · exact .inl (h.others p hnew)

/-- Only a release changes how many hold an entity. -/
theorem perform_refsFrom (hop : operation ≠ .release p) :
    s.RefsFrom (s.perform isFile operation).2 p := by
  by_cases hcreates : operation.creates = false
  · by_cases hgives : operation.givesBack = false
    · exact .inl ((perform_rests hcreates hgives isFile s).refs p)
    · cases operation with
      | release e =>
          refine .inl fun r' hr' => ?_
          obtain ⟨r, hr, hrefs⟩ := release_refs hr'
          rw [if_neg fun hsame => hop (by rw [hsame])] at hrefs
          exact ⟨r, hr, hrefs⟩
      | _ => exact absurd rfl hgives
  · have hcase := perform_cases isFile s operation
    generalize s.perform isFile operation = result at hcase ⊢
    cases hcase with
    | refused => exact .inl fun r hr => ⟨r, hr, rfl⟩
    | created => exact (insert_gains s _ _ _ _).refsFrom p
    | joined => exact (joined_gains s ..).refsFrom p
    | _ => exact absurd rfl hcreates

/-! ## Participants without holders -/

/-- A live participant that nobody holds. -/
def Unheld (s : State) (p : Handle) : Prop :=
  ∃ r, s.get p .participant = .ok r ∧ r.refs = 0

/-- A live participant that nobody holds and that contains nothing. -/
def Derelict (s : State) (p : Handle) : Prop := s.Unheld p ∧ s.contained p = []

instance (s : State) (p : Handle) : Decidable (s.Unheld p) :=
  match h : s.get p .participant with
  | .ok r => decidable_of_iff (r.refs = 0) (by simp [Unheld, h])
  | .error code => .isFalse (by simp [Unheld, h])

instance (s : State) (p : Handle) : Decidable (s.Derelict p) :=
  inferInstanceAs (Decidable (_ ∧ _))

theorem unheld_iff (hwf : s.WellFormed) : s.Unheld p ↔
    (∃ pr, s.profile p = some pr ∧ pr.role.kind = .participant) ∧
      ∃ r, s.entities.get? p = some r ∧ r.refs = 0 := by
  constructor
  · rintro ⟨r, hget, hrefs⟩
    obtain ⟨hr, hkind⟩ := get_eq_ok.mp hget
    exact ⟨⟨r.profile, profile_of_get? hr, (Body.role_kind _).trans ((hwf.sorted hr).symm.trans hkind)⟩,
      r, hr, hrefs⟩
  · rintro ⟨⟨pr, hpr, hkind⟩, r, hr, hrefs⟩
    obtain ⟨r', hr', rfl⟩ := profile_eq_some_iff.mp hpr
    obtain rfl := Option.some.inj (hr.symm.trans hr')
    exact ⟨r, get_eq_ok.mpr ⟨hr, (hwf.sorted hr).trans ((Body.role_kind _).symm.trans hkind)⟩, hrefs⟩

/-- Nobody gets hold of a participant again, and only a release makes it lose its holders. -/
theorem unheld_perform_iff (hwf : s.WellFormed) (hop : operation ≠ .release p) :
    (s.perform isFile operation).2.Unheld p ↔ s.Unheld p := by
  have hprecedes := (perform_evolves hwf isFile operation).precedes
  have hwf' := wellFormed_perform hwf isFile operation
  have hrefs : s.RefsFrom (s.perform isFile operation).2 p := perform_refsFrom hop
  -- whoever held it still does, unless the number is that of a new entity
  rcases hrefs with hkeeps | ⟨hfresh, r', hr', hone⟩
  · constructor
    · intro h
      obtain ⟨⟨pr, hpr, hkind⟩, r', hr', hrefs'⟩ := (unheld_iff hwf').mp h
      obtain ⟨r, hr, hrefs⟩ := hkeeps r' hr'
      have hissued := hwf.issued (profile_of_get? hr)
      exact (unheld_iff hwf).mpr ⟨⟨pr, hprecedes.profile hissued hpr, hkind⟩, r, hr, by omega⟩
    · rintro ⟨r, hget, hnone⟩
      obtain ⟨d, hp⟩ := hwf.get_participant hget
      have hp' : (s.perform isFile operation).2.profile p = _ := hwf.participant_stays hp hop
      obtain ⟨r', hr', -⟩ := profile_eq_some_iff.mp hp'
      obtain ⟨r₀, hr₀, hrefs⟩ := hkeeps r' hr'
      obtain rfl := Option.some.inj ((get_eq_ok.mp hget).1.symm.trans hr₀)
      exact (unheld_iff hwf').mpr ⟨⟨_, hp', rfl⟩, r', hr', by omega⟩
  · -- a new entity has a holder, and before there was none of its number
    constructor
    · intro h
      obtain ⟨-, r, hr, hnone⟩ := (unheld_iff hwf').mp h
      obtain rfl := Option.some.inj (hr'.symm.trans hr)
      omega
    · intro h
      obtain ⟨⟨pr, hpr, -⟩, -⟩ := (unheld_iff hwf).mp h
      have hissued := hwf.issued hpr
      omega

/-- Giving back a hold does not leave a participant derelict: it goes, or it contains something. -/
theorem release_not_derelict (s : State) (p : Handle) : ¬(s.release p).Derelict p := by
  rintro ⟨⟨r', hget', hnone⟩, hempty⟩
  obtain ⟨hr', hkind'⟩ := get_eq_ok.mp hget'
  unfold release at hr' hempty
  cases hr : s.entities.get? p with
  | none => simp [hr] at hr'
  | some r =>
      simp only [hr] at hr' hempty
      split at hr'
      · rw [remove_get?, if_pos rfl] at hr'
        cases hr'
      · -- the participant stayed, so something was found in it
        rename_i hstays
        rw [if_neg hstays] at hempty
        rw [modifyEntity_get?, if_pos rfl, hr] at hr'
        obtain rfl := Option.some.inj hr'
        have hlast : r.refs - 1 = 0 := hnone
        exact hstays ⟨by omega, hkind', hempty⟩

/-! ## How a participant becomes derelict -/

/-- A step leaves a participant derelict if it cleans it up and nobody holds it, or if it was
derelict already and the step neither gives back a hold on it nor puts something into it. -/
theorem derelict_perform_iff (hreach : Reachable isFile s) :
    (s.perform isFile operation).2.Derelict p ↔
      (operation = .deleteContained p ∧ s.Unheld p) ∨
        (s.Derelict p ∧ operation ≠ .release p ∧
          (s.perform isFile operation).2.contained p = []) := by
  have hwf := wellFormed_of_reachable hreach
  by_cases hrelease : operation = .release p
  · subst hrelease
    have hnot : ¬(s.perform isFile (.release p)).2.Derelict p := release_not_derelict s p
    simp [hnot]
  · have hunheld : (s.perform isFile operation).2.Unheld p ↔ s.Unheld p :=
      unheld_perform_iff hwf hrelease
    constructor
    · rintro ⟨hnone, hempty⟩
      have hnone₀ := hunheld.mp hnone
      by_cases hclear : operation = .deleteContained p
      · exact .inl ⟨hclear, hnone₀⟩
      · -- nothing left it, so there was nothing in it
        have hempty₀ : s.contained p = [] := by
          refine List.eq_nil_iff_forall_not_mem.mpr fun k hk => ?_
          have hk' : k ∈ (s.perform isFile operation).2.contained p :=
            hwf.contained_stays hk hclear
          rw [hempty] at hk'
          cases hk'
        exact .inr ⟨⟨hnone₀, hempty₀⟩, hrelease, hempty⟩
    · rintro (⟨rfl, hnone⟩ | ⟨⟨hnone, -⟩, -, hempty⟩)
      · obtain ⟨r, hget, -⟩ := id hnone
        obtain ⟨s', hperform, hclean, -⟩ := deleteContained_cleans hreach hget
        refine ⟨hunheld.mpr hnone, ?_⟩
        rw [hperform]
        exact hclean.contained_eq_nil
      · exact ⟨hunheld.mpr hnone, hempty⟩

/-- In a run, a participant is not given back and never contains anything. -/
def LeftAlone (isFile : String → Bool) (p : Handle) : State → List Operation → Prop
  | _, [] => True
  | s, operation :: rest =>
    operation ≠ .release p ∧ (s.perform isFile operation).2.contained p = [] ∧
      LeftAlone isFile p (s.perform isFile operation).2 rest

/-- In a run, a participant is cleaned up when nobody holds it, and left alone from then on. -/
def Abandons (isFile : String → Bool) (p : Handle) (s : State) (operations : List Operation) :
    Prop :=
  ∃ before after, operations = before ++ .deleteContained p :: after ∧
    (s.run isFile before).Unheld p ∧
    LeftAlone isFile p ((s.run isFile before).perform isFile (.deleteContained p)).2 after

theorem abandons_cons {rest : List Operation} :
    s.Abandons isFile p (operation :: rest) ↔
      (operation = .deleteContained p ∧ s.Unheld p ∧
        LeftAlone isFile p (s.perform isFile operation).2 rest) ∨
      (s.perform isFile operation).2.Abandons isFile p rest := by
  constructor
  · rintro ⟨before, after, hsplit, hnone, halone⟩
    cases before with
    | nil =>
        obtain ⟨rfl, rfl⟩ := List.cons.inj hsplit
        exact .inl ⟨rfl, hnone, halone⟩
    | cons first before =>
        obtain ⟨rfl, rfl⟩ := List.cons.inj hsplit
        exact .inr ⟨before, after, rfl, hnone, halone⟩
  · rintro (⟨rfl, hnone, halone⟩ | ⟨before, after, rfl, hnone, halone⟩)
    · exact ⟨[], rest, rfl, hnone, halone⟩
    · exact ⟨operation :: before, after, rfl, hnone, halone⟩

/-- A participant is derelict after a run if the run abandons it, or if it was derelict before and
the run leaves it alone. -/
theorem derelict_run (hreach : Reachable isFile s) (operations : List Operation) :
    (s.run isFile operations).Derelict p ↔
      s.Abandons isFile p operations ∨ (s.Derelict p ∧ LeftAlone isFile p s operations) := by
  induction operations generalizing s with
  | nil =>
      have hnot : ¬s.Abandons isFile p [] := by
        rintro ⟨before, after, hsplit, -⟩
        simp at hsplit
      simp [hnot, LeftAlone, run]
  | cons operation rest ih =>
      have hrest := ih (.step hreach operation)
      rw [derelict_perform_iff hreach] at hrest
      rw [abandons_cons, LeftAlone]
      refine hrest.trans ?_
      constructor
      · rintro (habandons | ⟨⟨hclear, hnone⟩ | ⟨hderelict, hrelease, hempty⟩, halone⟩)
        · exact .inl (.inr habandons)
        · exact .inl (.inl ⟨hclear, hnone, halone⟩)
        · exact .inr ⟨hderelict, hrelease, hempty, halone⟩
      · rintro ((⟨hclear, hnone, halone⟩ | habandons) | ⟨hderelict, hrelease, hempty, halone⟩)
        · exact .inr ⟨.inl ⟨hclear, hnone⟩, halone⟩
        · exact .inl habandons
        · exact .inr ⟨.inr ⟨hderelict, hrelease, hempty⟩, halone⟩

/-- In the states that runs end in, a live participant has neither holders nor contents exactly if
the run cleaned it up after its last holder was gone, and from then on gave back no hold on it and
put nothing into it. So a participant whose last child goes before its last holder is deleted, and
one whose last holder goes first is not. -/
theorem derelict_iff_abandoned (isFile : String → Bool) (maxSamples : Nat)
    (operations : List Operation) (p : Handle) :
    ((new maxSamples).run isFile operations).Derelict p ↔
      (new maxSamples).Abandons isFile p operations := by
  have hnew : ¬(new maxSamples).Derelict p := by
    rintro ⟨⟨r, hget, -⟩, -⟩
    cases (get_eq_ok.mp hget).1
  refine (derelict_run (.new maxSamples) operations).trans (or_iff_left ?_)
  exact fun h => hnew h.1

/-- The last hold on a participant is given back while it contains a publisher, and then the
participant is cleaned up. -/
def orphanRun : List Operation :=
  [.init [], .createParticipant 0, .createPublisher ⟨1⟩ [], .release ⟨1⟩, .deleteContained ⟨1⟩]

/-- A reachable state with a live participant that nobody holds and that contains nothing. -/
theorem orphanRun_derelict :
    Reachable (fun _ => false) (new.run (fun _ => false) orphanRun) ∧
      (new.run (fun _ => false) orphanRun).isAlive ⟨1⟩ = true ∧
      (new.run (fun _ => false) orphanRun).Derelict ⟨1⟩ :=
  ⟨reachable_run (.new _) orphanRun, by decide, by decide⟩

end DdsBridge.Provider.State
