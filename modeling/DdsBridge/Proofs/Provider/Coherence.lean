import DdsBridge.Proofs.Provider.Matching
import DdsBridge.Proofs.Provider.Topics
import DdsBridge.Proofs.Provider.TypeNames

/-!
# What every state of a provider guarantees

Entities refer to one another by number, nothing checks such a reference again, and entities go in
two ways. What makes every later look-up safe is collected here: the tree of entities has no
dangling branch, topics and their types agree, and a number names one thing only. Of these the
last is left to show: one counter serves three tables, and what keeps the tables apart is that one
operation gives new numbers to things of one sort only.

* **`State.Issues`**, **`perform_issues`** — where new numbers go.
* **`State.Numbered`**, **`numbered_of_reachable`** — a number in use was issued and is borne once.
* **`State.Coherent`**, **`coherent_of_reachable`** — all of it, for every reachable state.
-/

namespace DdsBridge.Table

variable {κ α : Type} {t : Table κ α} (mk : Nat → κ) {id : κ → Nat}

/-- The numbers of the keys, where keys are numbers in disguise. -/
theorem mem_map_keys_iff [DecidableEq κ] (hmk : ∀ k, mk (id k) = k) (hid : ∀ n, id (mk n) = n)
    {n : Nat} : n ∈ t.keys.map id ↔ ∃ a, t.get? (mk n) = some a := by
  rw [← mem_keys_iff]
  constructor
  · intro hmem
    obtain ⟨k, hk, rfl⟩ := List.mem_map.mp hmem
    exact (hmk k).symm ▸ hk
  · intro hk
    exact List.mem_map.mpr ⟨mk n, hk, hid n⟩

theorem nodup_map_keys (hmk : ∀ k, mk (id k) = k) : (t.keys.map id).Nodup := by
  refine List.Pairwise.map id (fun j k hne hsame => hne ?_) t.distinct
  rw [← hmk j, ← hmk k, hsame]

end DdsBridge.Table

namespace DdsBridge.Provider

/-- The sorts of things that bear a number. -/
inductive Bearer where
  | entity
  | condition
  | waitSet

namespace State

variable {s s' : State}

/-! ## Numbers -/

/-- Something that there is bears a number. -/
def Bears (s : State) : Bearer → Nat → Prop
  | .entity, n => ∃ r, s.entities.get? ⟨n⟩ = some r
  | .condition, n => ∃ c, s.conditions.get? ⟨n⟩ = some c
  | .waitSet, n => ∃ w, s.waitSets.get? ⟨n⟩ = some w

/-- Every number in use was issued, and one thing only bears it. -/
structure Numbered (s : State) : Prop where
  pos : ∀ {b n}, s.Bears b n → 0 < n
  issued : ∀ {b n}, s.Bears b n → n ≤ s.lastId
  unique : ∀ {b c n}, s.Bears b n → s.Bears c n → b = c

/-- Numbers that were not in use before are new, and things of one sort only bear them. -/
def Issues (s s' : State) (b : Bearer) : Prop :=
  s.lastId ≤ s'.lastId ∧
    ∀ {c n}, s'.Bears c n → s.Bears c n ∨ (c = b ∧ s.lastId < n ∧ n ≤ s'.lastId)

theorem Numbered.issues (hn : s.Numbered) {b : Bearer} (hstep : s.Issues s' b) : s'.Numbered := by
  obtain ⟨hid, hbears⟩ := hstep
  constructor
  · intro c n hc
    rcases hbears hc with hold | ⟨-, hnew, -⟩
    · exact hn.pos hold
    · omega
  · intro c n hc
    rcases hbears hc with hold | ⟨-, -, hle⟩
    · exact Nat.le_trans (hn.issued hold) hid
    · exact hle
  · intro c d n hc hd
    -- a new number was not in use, so either both were there before or both are new
    rcases hbears hc with hold | ⟨rfl, hnew, -⟩
    · rcases hbears hd with hold' | ⟨-, hnew', -⟩
      · exact hn.unique hold hold'
      · have hle := hn.issued hold
        omega
    · rcases hbears hd with hold' | ⟨rfl, -, -⟩
      · have hle := hn.issued hold'
        omega
      · rfl

/-- Some number may have been issued, for things of one sort. -/
def IssuesSome (s s' : State) : Prop := ∃ b, s.Issues s' b

namespace IssuesSome

/-- No number is newly in use. -/
theorem of_kept (hid : s.lastId ≤ s'.lastId) (hbears : ∀ {b n}, s'.Bears b n → s.Bears b n) :
    s.IssuesSome s' :=
  ⟨.entity, hid, fun hb => .inl (hbears hb)⟩

theorem refl (s : State) : s.IssuesSome s := of_kept (Nat.le_refl _) id

/-- Changes of wait sets. -/
theorem of_waitSets {table : Table WaitSetId WaitSet}
    (hkept : ∀ waitSet w, table.get? waitSet = some w → ∃ w₀, s.waitSets.get? waitSet = some w₀) :
    s.IssuesSome { s with waitSets := table } := by
  refine of_kept (Nat.le_refl _) fun {b n} hb => ?_
  cases b with
  | entity => exact hb
  | condition => exact hb
  | waitSet =>
      obtain ⟨w, hw⟩ := hb
      exact hkept _ w hw

theorem modifyWaitSet (waitSet : WaitSetId) (f : WaitSet → WaitSet) :
    s.IssuesSome { s with waitSets := s.waitSets.modify waitSet f } := by
  refine of_waitSets fun k w hw => ?_
  rw [Table.get?_modify] at hw
  split at hw
  · obtain ⟨w₀, hw₀, -⟩ := Option.map_eq_some_iff.mp hw
    exact ⟨w₀, hw₀⟩
  · exact ⟨w, hw⟩

/-- Operations beside conditions and wait sets may create an entity. -/
theorem of_spares (hwf : s.WellFormed) (isFile : String → Bool) {operation : Operation}
    (hwaiting : operation.isWaiting = false) : s.IssuesSome (s.perform isFile operation).2 := by
  obtain ⟨dropped, hspares⟩ := perform_spares hwf isFile hwaiting
  have hprecedes := (perform_evolves hwf isFile operation).precedes
  have hwf' := wellFormed_perform hwf isFile operation
  refine ⟨.entity, hspares.lastId_le, fun {b n} hb => ?_⟩
  cases b with
  | entity =>
      obtain ⟨r, hr⟩ := hb
      have hprofile := profile_of_get? hr
      -- numbers only grow: an old number was borne by an entity before, another is new
      by_cases hold : n ≤ s.lastId
      · obtain ⟨r₀, hr₀, -⟩ := profile_eq_some_iff.mp (hprecedes.profile hold hprofile)
        exact .inl ⟨r₀, hr₀⟩
      · exact .inr ⟨rfl, Nat.lt_of_not_le hold, hwf'.issued hprofile⟩
  | condition =>
      obtain ⟨c, hc⟩ := hb
      rw [hspares.conditions] at hc
      split at hc
      · cases hc
      · exact .inl ⟨c, hc⟩
  | waitSet =>
      obtain ⟨w, hw⟩ := hb
      rw [hspares.waitSets] at hw
      obtain ⟨w₀, hw₀, -⟩ := Option.map_eq_some_iff.mp hw
      exact .inl ⟨w₀, hw₀⟩

theorem statusCondition {e : Handle} {c : ConditionId}
    (hok : s.statusCondition e = (.ok c, s')) : s.IssuesSome s' := by
  rcases statusCondition_eq_ok hok with ⟨-, rfl⟩ | ⟨-, -, rfl, rfl⟩
  · exact refl _
  · refine ⟨.condition, Nat.le_succ _, fun {b n} hb => ?_⟩
    cases b with
    | entity =>
        obtain ⟨r, hr⟩ := hb
        refine .inl ?_
        have hkeys := Table.mem_keys_iff.mpr ⟨r, hr⟩
        rw [Table.keys_modify] at hkeys
        exact Table.mem_keys_iff.mp hkeys
    | condition =>
        obtain ⟨x, hx⟩ := hb
        rw [Table.get?_insert] at hx
        split at hx
        · rename_i hnew
          cases hnew
          exact .inr ⟨rfl, Nat.lt_succ_self _, Nat.le_refl _⟩
        · exact .inl ⟨x, hx⟩
    | waitSet => exact .inl hb

theorem setEnabled {c : ConditionId} {mask : StatusMask}
    (hok : s.setEnabled c mask = (.ok (), s')) : s.IssuesSome s' := by
  obtain ⟨-, rfl⟩ := setEnabled_eq_ok hok
  refine of_kept (Nat.le_refl _) fun {b n} hb => ?_
  cases b with
  | entity => exact hb
  | condition =>
      obtain ⟨x, hx⟩ := hb
      have hkeys := Table.mem_keys_iff.mpr ⟨x, hx⟩
      rw [Table.keys_modify] at hkeys
      exact Table.mem_keys_iff.mp hkeys
  | waitSet => exact hb

theorem createWaitSet (s : State) : s.IssuesSome s.createWaitSet.2 := by
  refine ⟨.waitSet, Nat.le_succ _, fun {b n} hb => ?_⟩
  cases b with
  | entity => exact .inl hb
  | condition => exact .inl hb
  | waitSet =>
      obtain ⟨w, hw⟩ := hb
      have hlook : (s.waitSets.insert ⟨s.lastId + 1⟩ ⟨[], false⟩).get? ⟨n⟩ = some w := hw
      rw [Table.get?_insert] at hlook
      split at hlook
      · rename_i hnew
        cases hnew
        exact .inr ⟨rfl, Nat.lt_succ_self _, Nat.le_refl _⟩
      · exact .inl ⟨w, hlook⟩

end IssuesSome

/-- Every operation issues numbers for things of one sort at most. -/
theorem perform_issues (hwf : s.WellFormed) (isFile : String → Bool) (operation : Operation) :
    s.IssuesSome (s.perform isFile operation).2 := by
  by_cases hwaiting : operation.isWaiting = false
  · exact .of_spares hwf isFile hwaiting
  · have hcase := perform_cases isFile s operation
    generalize s.perform isFile operation = result at hcase ⊢
    cases hcase with
    | refused | apart => exact .refl s
    | created hready hcreates => exact absurd hcreates.isWaiting_eq hwaiting
    | @joined side => exact absurd (side.isWaiting_create _ _ _) hwaiting
    | asked hok => exact .statusCondition hok
    | enabled hok => exact .setEnabled hok
    | madeWaitSet => exact .createWaitSet s
    | droppedWaitSet hok =>
        obtain ⟨-, rfl⟩ := deleteWaitSet_eq_ok hok
        refine .of_waitSets fun k w hw => ?_
        rw [Table.get?_erase] at hw
        split at hw
        · cases hw
        · exact ⟨w, hw⟩
    | attached | detached | entered | left => exact .modifyWaitSet _ _
    | _ => exact absurd rfl hwaiting

theorem numbered_of_reachable {isFile : String → Bool} (hreach : Reachable isFile s) :
    s.Numbered := by
  induction hreach with
  | new maxSamples =>
      have hnone : ∀ b n, ¬(State.new maxSamples).Bears b n := by
        intro b n
        cases b <;> rintro ⟨x, hx⟩ <;> cases hx
      exact ⟨fun hb => absurd hb (hnone _ _), fun hb => absurd hb (hnone _ _),
        fun hb => absurd hb (hnone _ _)⟩
  | step before operation ih =>
      obtain ⟨b, hissues⟩ := perform_issues (wellFormed_of_reachable before) _ operation
      exact ih.issues hissues

/-! ## The whole -/

/-- The numbers that things of a sort bear. -/
def numbersOf (s : State) : Bearer → List Nat
  | .entity => s.entities.keys.map Handle.id
  | .condition => s.conditions.keys.map ConditionId.id
  | .waitSet => s.waitSets.keys.map WaitSetId.id

/-- The numbers in use: those of the entities, of the conditions and of the wait sets. -/
def numbers (s : State) : List Nat :=
  s.numbersOf .entity ++ s.numbersOf .condition ++ s.numbersOf .waitSet

/-- A live entity of a kind that belongs to a participant. -/
def Member (s : State) (p h : Handle) (kind : EntityKind) : Prop :=
  ∃ r, s.get h kind = .ok r ∧ r.participant = p

/-- What a client can rely on, whatever happened before: the kind that is kept of an entity is that
of its body, and the entity is found as what its body is;
what it refers to is live and of the right kind and belongs to the same participant; a topic has a
registered type, and one type for one name; and no number names two things. -/
structure Coherent (s : State) : Prop where
  kind : ∀ {h r}, s.entities.get? h = some r →
    r.kind = r.body.kind ∧ ∀ kind, s.get h kind = .ok r ↔ r.body.kind = kind
  owner : ∀ {h r}, s.entities.get? h = some r →
    s.Member r.participant r.participant .participant
  parent : ∀ {h r}, s.entities.get? h = some r → r.body.kind ∈ [.topic, .publisher, .subscriber] →
    r.parent = some r.participant
  writer : ∀ {h r w}, s.entities.get? h = some r → r.body = .writer w →
    (∃ g, r.parent = some g ∧ s.Member r.participant g .publisher) ∧
      s.Member r.participant w.topic .topic
  reader : ∀ {h r x}, s.entities.get? h = some r → r.body = .reader x →
    (∃ g, r.parent = some g ∧ s.Member r.participant g .subscriber) ∧
      s.Member r.participant x.topic .topic
  registered : ∀ {h r name typeName}, s.entities.get? h = some r →
    r.body = .topic name typeName → typeName ∈ s.typesOf r.participant
  oneType : ∀ {h k r r' name typeName typeName'}, s.entities.get? h = some r →
    s.entities.get? k = some r' → r.participant = r'.participant →
    r.body = .topic name typeName → r'.body = .topic name typeName' → typeName = typeName'
  distinct : s.numbers.Nodup
  issued : ∀ n ∈ s.numbers, n ≠ 0 ∧ n ≤ s.lastId

theorem mem_numbersOf {b : Bearer} {n : Nat} : n ∈ s.numbersOf b ↔ s.Bears b n := by
  cases b with
  | entity => exact Table.mem_map_keys_iff Handle.mk (fun _ => rfl) fun _ => rfl
  | condition => exact Table.mem_map_keys_iff ConditionId.mk (fun _ => rfl) fun _ => rfl
  | waitSet => exact Table.mem_map_keys_iff WaitSetId.mk (fun _ => rfl) fun _ => rfl

theorem nodup_numbersOf (b : Bearer) : (s.numbersOf b).Nodup := by
  cases b with
  | entity => exact Table.nodup_map_keys Handle.mk fun _ => rfl
  | condition => exact Table.nodup_map_keys ConditionId.mk fun _ => rfl
  | waitSet => exact Table.nodup_map_keys WaitSetId.mk fun _ => rfl

theorem exists_bears {n : Nat} (hmem : n ∈ s.numbers) : ∃ b, s.Bears b n := by
  rcases List.mem_append.mp hmem with hmem | hmem
  · rcases List.mem_append.mp hmem with hmem | hmem
    · exact ⟨_, mem_numbersOf.mp hmem⟩
    · exact ⟨_, mem_numbersOf.mp hmem⟩
  · exact ⟨_, mem_numbersOf.mp hmem⟩

/-- Each table keeps its own keys apart, so only two tables could share a number. -/
theorem Numbered.nodup (hn : s.Numbered) : s.numbers.Nodup := by
  have hapart : ∀ {b c : Bearer}, b ≠ c → ∀ n ∈ s.numbersOf b, ∀ m ∈ s.numbersOf c, n ≠ m := by
    rintro b c hne n hb _ hc rfl
    exact hne (hn.unique (mem_numbersOf.mp hb) (mem_numbersOf.mp hc))
  unfold numbers
  rw [List.nodup_append, List.nodup_append]
  refine ⟨⟨nodup_numbersOf _, nodup_numbersOf _, hapart (by simp)⟩, nodup_numbersOf _, ?_⟩
  intro n hn m hm
  rcases List.mem_append.mp hn with hn | hn
  · exact hapart (by simp) n hn m hm
  · exact hapart (by simp) n hn m hm

theorem WellFormed.member (hwf : s.WellFormed) {h p : Handle} {g : Option Handle} {role : Role}
    (hh : s.profile h = some ⟨p, g, role⟩) : s.Member p h role.kind := by
  obtain ⟨r, hr, hpr⟩ := profile_eq_some_iff.mp hh
  obtain ⟨rfl, -, rfl⟩ := Profile.mk.inj hpr
  exact ⟨r, get_eq_ok.mpr ⟨hr, (hwf.sorted hr).trans (Body.role_kind _).symm⟩, rfl⟩

/-- An endpoint hangs below a group of its participant and refers to a topic of it. -/
theorem WellFormed.endpoint_members (hwf : s.WellFormed) (side : Side) {h t : Handle} {r : Record}
    {qos : EndpointQos} (hr : s.entities.get? h = some r)
    (hrole : r.body.role = side.endpoint t qos) :
    (∃ g, r.parent = some g ∧ s.Member r.participant g side.groupKind) ∧
      s.Member r.participant t .topic := by
  have hprofile : s.profile h = some ⟨r.participant, r.parent, side.endpoint t qos⟩ :=
    profile_eq_some_iff.mpr ⟨r, hr, congrArg (Profile.mk _ _) hrole⟩
  obtain ⟨site, ⟨p, g, t', hself, -, hgroup, htopic⟩, -⟩ := hwf.endpointAt hprofile
  obtain ⟨hparticipant, hparent, hend⟩ :=
    Profile.mk.inj (Option.some.inj (hprofile.symm.trans hself))
  obtain ⟨-, rfl, -⟩ := Side.endpoint_inj hend
  subst hparticipant
  refine ⟨⟨g, hparent, ?_⟩, hwf.member htopic⟩
  cases side with
  | writer => exact hwf.member hgroup
  | reader => exact hwf.member hgroup

/-- Every entity belongs to a live participant, and what is neither participant nor endpoint hangs
directly below it. -/
theorem WellFormed.owned (hwf : s.WellFormed) {h : Handle} {r : Record}
    (hr : s.entities.get? h = some r) :
    s.Member r.participant r.participant .participant ∧
      (r.body.kind ∈ [.topic, .publisher, .subscriber] → r.parent = some r.participant) := by
  have hprofile : s.profile h = some r.profile := profile_of_get? hr
  have hplaced := hwf.placed hprofile
  rw [← Body.role_kind]
  generalize hpr : r.profile = pr at hplaced
  cases hplaced with
  | participant _ domain =>
      obtain ⟨hown, -, hrole⟩ := Profile.mk.inj hpr
      rw [hown, hrole]
      rw [hpr] at hprofile
      exact ⟨hwf.member hprofile, fun hmem => absurd hmem (by simp [Role.kind])⟩
  | topic _ name typeName hp | group _ side partition hp =>
      obtain ⟨rfl, hparent, -⟩ := Profile.mk.inj hpr
      exact ⟨hwf.member hp, fun _ => hparent⟩
  | endpoint _ side qos hp hg ht hqos =>
      obtain ⟨rfl, -, hrole⟩ := Profile.mk.inj hpr
      rw [hrole]
      refine ⟨hwf.member hp, fun hmem => absurd hmem ?_⟩
      cases side <;> simp [Side.kind]

/-- In every reachable state of a provider nothing dangles, types agree and numbers are unique. -/
theorem coherent_of_reachable {isFile : String → Bool} (hreach : Reachable isFile s) :
    s.Coherent := by
  have hwf := wellFormed_of_reachable hreach
  have henrolled := enrolled_of_reachable hreach
  have hnumbered := numbered_of_reachable hreach
  -- the type of a topic is part of its profile, where the invariants speak of it
  have htopic : ∀ {h r name typeName}, s.entities.get? h = some r → r.body = .topic name typeName →
      s.profile h = some ⟨r.participant, r.parent, .topic name typeName⟩ := by
    intro h r name typeName hr hbody
    exact profile_eq_some_iff.mpr ⟨r, hr, by simp [Record.profile, hbody, Body.role]⟩
  refine
    { kind := fun {h r} hr =>
        ⟨hwf.sorted hr, fun kind => by rw [get_eq_ok, and_iff_right hr, hwf.sorted hr]⟩
      owner := fun hr => (hwf.owned hr).1
      parent := fun hr => (hwf.owned hr).2
      writer := fun {h r w} hr hbody => hwf.endpoint_members .writer hr (by rw [hbody]; rfl)
      reader := fun {h r x} hr hbody => hwf.endpoint_members .reader hr (by rw [hbody]; rfl)
      registered := fun hr hbody => henrolled.registered (htopic hr hbody)
      oneType := fun hr hr' hsame hbody hbody' => ?_
      distinct := hnumbered.nodup
      issued := fun n hmem => ?_ }
  · have hh := htopic hr hbody
    rw [hsame] at hh
    exact henrolled.oneType hh (htopic hr' hbody')
  · obtain ⟨b, hbears⟩ := exists_bears hmem
    exact ⟨Nat.ne_of_gt (hnumbered.pos hbears), hnumbered.issued hbears⟩

theorem coherent_of_reachable_chat :
    Reachable (fun _ => false) (new.run (fun _ => false) chatRun) ∧
      (new.run (fun _ => false) chatRun).numbers = [1, 2, 3, 4, 5, 6] ∧
      (new.run (fun _ => false) chatRun).Coherent := by
  have hreach : Reachable (fun _ => false) (new.run (fun _ => false) chatRun) :=
    reachable_run (.new _) chatRun
  exact ⟨hreach, by decide, coherent_of_reachable hreach⟩

end State

end DdsBridge.Provider
