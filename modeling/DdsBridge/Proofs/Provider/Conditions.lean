import DdsBridge.Proofs.Provider.Evolution

/-!
# Conditions and wait sets beside the entities

Most operations know nothing of conditions and wait sets. The only thing they do to them is that a
condition goes with its entity, out of every wait set it was attached to. Hence an entity and its
condition always know each other, and a wait set is touched by nobody who does not name it.

* **`State.KeepsWaits`** — updates beside conditions and wait sets.
* **`State.Spares`** — what an operation does to conditions and wait sets on behalf of the entities
  that it deletes, **`perform_spares`**.
* **`State.Conditioned`** — entities and conditions know each other,
  **`conditioned_of_reachable`**.
-/

namespace DdsBridge.Provider

/-- Operations on status conditions and wait sets. -/
def Operation.isWaiting : Operation → Bool
  | .statusCondition _ | .setEnabled .. | .createWaitSet | .deleteWaitSet _ | .attach ..
  | .detach .. | .enterWait _ | .leaveWait _ => true
  | _ => false

theorem Side.isWaiting_create (side : Side) (g t : Handle) (qos : EndpointQos) :
    (side.create g t qos).isWaiting = false := by
  cases side <;> rfl

theorem State.Creates.isWaiting_eq {s : State} {operation : Operation} {p : Option Handle}
    {body : Body} (h : s.Creates operation p body) : operation.isWaiting = false := by
  cases h <;> rfl

/-- A wait set to which some conditions are no longer attached. -/
def WaitSet.without (w : WaitSet) (dropped : List ConditionId) : WaitSet :=
  { w with conditions := w.conditions.filter (· ∉ dropped) }

@[simp] theorem WaitSet.without_nil (w : WaitSet) : w.without [] = w := by
  have hall : w.conditions.filter (· ∉ ([] : List ConditionId)) = w.conditions :=
    List.filter_eq_self.mpr fun c _ => by simp
  unfold without
  rw [hall]

namespace State

/-! ## Updates beside conditions and wait sets -/

/-- The conditions and the wait sets are as they were, and no number was issued. -/
structure KeepsWaits (s s' : State) : Prop where
  lastId : s'.lastId = s.lastId
  conditions : s'.conditions = s.conditions
  waitSets : s'.waitSets = s.waitSets

namespace KeepsWaits

theorem refl (s : State) : s.KeepsWaits s := ⟨rfl, rfl, rfl⟩

theorem trans {s₁ s₂ s₃ : State} (h : s₁.KeepsWaits s₂) (h' : s₂.KeepsWaits s₃) :
    s₁.KeepsWaits s₃ :=
  ⟨h'.lastId.trans h.lastId, h'.conditions.trans h.conditions, h'.waitSets.trans h.waitSets⟩

theorem foldl {α : Type} {f : State → α → State} (hf : ∀ s a, KeepsWaits s (f s a))
    (s : State) (as : List α) : s.KeepsWaits (as.foldl f s) := by
  induction as generalizing s with
  | nil => exact refl s
  | cons a rest ih => exact (hf s a).trans (ih (f s a))

theorem modifyEntity (s : State) (h : Handle) (f : Record → Record) :
    s.KeepsWaits (s.modifyEntity h f) := ⟨rfl, rfl, rfl⟩

theorem modifyWriter (s : State) (h : Handle) (f : Writer → Writer) :
    s.KeepsWaits (s.modifyWriter h f) := modifyEntity s h _

theorem modifyReader (s : State) (h : Handle) (f : Reader → Reader) :
    s.KeepsWaits (s.modifyReader h f) := modifyEntity s h _

theorem raise (s : State) (h : Handle) (kind : StatusKind) : s.KeepsWaits (s.raise h kind) := by
  unfold State.raise
  split
  · exact refl s
  · exact ⟨rfl, rfl, rfl⟩

theorem announce (s : State) (h : Handle) : s.KeepsWaits (s.announce h) := by
  unfold State.announce
  dsimp only
  split
  · exact (raise s h _).trans (raise _ _ _)
  · exact raise s h _

theorem offer (s : State) (h : Handle) (x : Sample) : s.KeepsWaits (s.offer h x) := by
  unfold State.offer
  split
  · exact refl s
  · split
    · exact raise s h _
    · exact (modifyReader s h _).trans (announce _ h)

theorem settleSubscriber (s : State) (g : Handle) : s.KeepsWaits (s.settleSubscriber g) := by
  unfold State.settleSubscriber
  split
  · exact refl s
  · exact modifyEntity s g _

theorem settleReader (s : State) (h : Handle) : s.KeepsWaits (s.settleReader h) := by
  unfold State.settleReader
  dsimp only
  split
  · exact (modifyEntity s h _).trans (settleSubscriber _ _)
  · exact modifyEntity s h _

theorem take (s : State) (h : Handle) : s.KeepsWaits (s.take h).2 := by
  rcases s.take_snd h with hs | hs | ⟨rest, hs | hs⟩ <;> rw [hs]
  · exact refl s
  · exact settleReader s h
  · exact modifyReader s h _
  · exact (modifyReader s h _).trans (settleReader _ h)

theorem write {s s' : State} {w : Handle} {payload : List UInt8}
    (hok : s.write w payload = (.ok (), s')) : s.KeepsWaits s' := by
  obtain ⟨x, -, rfl⟩ := write_eq_ok hok
  exact (modifyWriter s w _).trans (foldl (fun s r => offer s r _) _ _)

theorem connect (s : State) (w r : Handle) : s.KeepsWaits (s.connect w r) := by
  unfold State.connect
  split
  · exact refl s
  · split
    · split
      · exact (raise s w _).trans (raise _ r _)
      · dsimp only
        refine .trans ?_ (foldl (fun s x => offer s r x) _ _)
        refine .trans ?_ (raise _ r _)
        refine .trans ?_ (raise _ w _)
        exact (modifyWriter s w _).trans (modifyReader _ r _)
    · exact refl s

theorem discover (s : State) (e : Handle) : s.KeepsWaits (s.discover e) := by
  refine foldl (fun s peer => ?_) s _
  unfold meet
  split
  · exact connect s e peer
  · exact connect s peer e

theorem unmatch (s : State) (gone peer : Handle) : s.KeepsWaits (s.unmatch gone peer) := by
  unfold State.unmatch
  split
  · exact (modifyWriter s peer _).trans (raise _ peer _)
  · dsimp only
    split
    · exact ((modifyReader s peer _).trans (raise _ peer _)).trans (offer _ peer _)
    · exact (modifyReader s peer _).trans (raise _ peer _)
  · exact refl s

theorem unmatchAll (s : State) (doomed gone : List Handle) :
    s.KeepsWaits (gone.foldl (fun s g => s.unmatchPeers doomed g) s) :=
  foldl (fun s g => foldl (fun s peer => unmatch s g peer) s _) s gone

end KeepsWaits

/-! ## Conditions that go with their entities -/

/-- What an operation does to the conditions and the wait sets on behalf of the entities that it
deletes: their conditions go, out of every wait set. Entities that stay keep their conditions, and
new ones have none. -/
structure Spares (s s' : State) (dropped : List ConditionId) : Prop where
  lastId_le : s.lastId ≤ s'.lastId
  kept : ∀ {h}, h.id ≤ s.lastId → ∀ {r'}, s'.entities.get? h = some r' →
    ∃ r, s.entities.get? h = some r ∧ r'.condition = r.condition
  new : ∀ {h}, s.lastId < h.id → s'.conditionOf h = none
  conditions : ∀ c, s'.conditions.get? c = if c ∈ dropped then none else s.conditions.get? c
  waitSets : ∀ waitSet,
    s'.waitSets.get? waitSet = (s.waitSets.get? waitSet).map fun w => w.without dropped
  dropped_iff : ∀ c, c ∈ dropped ↔
    ∃ h, s.conditionOf h = some c ∧ s'.entities.get? h = none

theorem Agree.conditionOf {s s' : State} (ha : Agree Record.condition s s') (h : Handle) :
    s'.conditionOf h = s.conditionOf h := by
  have hlook := congrArg (fun o => o.bind id) (ha.look h)
  simp only [Option.bind_map, Function.id_comp] at hlook
  exact hlook

theorem Agree.get?_eq_none {β : Type} {view : Record → β} {s s' : State} (ha : Agree view s s')
    (h : Handle) : s'.entities.get? h = none ↔ s.entities.get? h = none := by
  have hlook := ha.look h
  constructor
  · intro hnone
    rw [hnone, Option.map_none] at hlook
    exact Option.map_eq_none_iff.mp hlook.symm
  · intro hnone
    rw [hnone, Option.map_none] at hlook
    exact Option.map_eq_none_iff.mp hlook

/-- An entity beyond the last number does not exist. -/
theorem WellFormed.conditionOf_new {s : State} (hwf : s.WellFormed) {h : Handle}
    (hnew : s.lastId < h.id) : s.conditionOf h = none := by
  cases hc : s.conditionOf h with
  | none => rfl
  | some c =>
      obtain ⟨r, hr, -⟩ := conditionOf_eq_some_iff.mp hc
      exact absurd (hwf.issued (profile_of_get? hr)) (by omega)

namespace Spares

variable {s s₁ s' : State} {dropped : List ConditionId}

/-- Updates of entities that keep the conditions. -/
theorem of_agree (hwf : s.WellFormed) (hkeeps : s.KeepsWaits s')
    (ha : Agree Record.condition s s') : s.Spares s' [] := by
  refine ⟨ha.lastId_le, fun {h} _ {r'} hr' => ?_, fun {h} hnew => ?_, fun c => ?_, fun ws => ?_,
    fun c => ?_⟩
  · have hlook := ha.look h
    rw [hr', Option.map_some] at hlook
    obtain ⟨r, hr, hc⟩ := Option.map_eq_some_iff.mp hlook.symm
    exact ⟨r, hr, hc.symm⟩
  · rw [ha.conditionOf]
    exact hwf.conditionOf_new hnew
  · rw [hkeeps.conditions]
    rfl
  · simp [hkeeps.waitSets]
  · refine iff_of_false List.not_mem_nil ?_
    rintro ⟨h, hc, hnone⟩
    obtain ⟨r, hr, -⟩ := conditionOf_eq_some_iff.mp hc
    rw [(ha.get?_eq_none h).mp hnone] at hr
    cases hr

/-- What follows once entities that keep their conditions are all that changes. -/
theorem then_agree (h : s.Spares s₁ dropped) (hkeeps : s₁.KeepsWaits s')
    (ha : Agree Record.condition s₁ s') : s.Spares s' dropped := by
  refine ⟨Nat.le_trans h.lastId_le ha.lastId_le, fun {k} hk {r'} hr' => ?_, fun {k} hnew => ?_,
    fun c => ?_, fun ws => ?_, fun c => ?_⟩
  · have hlook := ha.look k
    rw [hr', Option.map_some] at hlook
    obtain ⟨r₁, hr₁, hc₁⟩ := Option.map_eq_some_iff.mp hlook.symm
    obtain ⟨r, hr, hc⟩ := h.kept hk hr₁
    exact ⟨r, hr, hc₁.symm.trans hc⟩
  · rw [ha.conditionOf]
    exact h.new hnew
  · rw [hkeeps.conditions, h.conditions]
  · rw [hkeeps.waitSets, h.waitSets]
  · rw [h.dropped_iff]
    simp only [ha.get?_eq_none]

/-- What came before, while entities that kept their conditions were all that changed. -/
theorem after_agree (hkeeps : s.KeepsWaits s₁) (ha : Agree Record.condition s s₁)
    (h : s₁.Spares s' dropped) : s.Spares s' dropped := by
  have hid := hkeeps.lastId
  refine ⟨hid ▸ h.lastId_le, fun {k} hk {r'} hr' => ?_, fun {k} hnew => h.new (hid ▸ hnew),
    fun c => ?_, fun ws => ?_, fun c => ?_⟩
  · obtain ⟨r₁, hr₁, hc₁⟩ := h.kept (hid ▸ hk) hr'
    have hlook := ha.look k
    rw [hr₁, Option.map_some] at hlook
    obtain ⟨r, hr, hc⟩ := Option.map_eq_some_iff.mp hlook.symm
    exact ⟨r, hr, hc₁.trans hc.symm⟩
  · rw [h.conditions, hkeeps.conditions]
  · rw [h.waitSets, hkeeps.waitSets]
  · rw [h.dropped_iff]
    simp only [ha.conditionOf]

theorem insert (hwf : s.WellFormed) (kind : EntityKind) (participant parent : Option Handle)
    (body : Body) : s.Spares (s.insert kind participant parent body).2 [] := by
  refine ⟨Nat.le_succ _, fun {h} hold {r'} hr' => ?_, fun {h} hnew => ?_, fun c => rfl,
    fun ws => ?_, fun c => ?_⟩
  · have hne : h ≠ s.next := by
      rintro rfl
      exact absurd hold (Nat.not_succ_le_self _)
    rw [insert_get?, if_neg hne] at hr'
    exact ⟨r', hr', rfl⟩
  · unfold conditionOf
    rw [insert_get?]
    split
    · rfl
    · exact hwf.conditionOf_new hnew
  · show s.waitSets.get? ws = _
    simp
  · refine iff_of_false List.not_mem_nil ?_
    rintro ⟨h, hc, hnone⟩
    obtain ⟨r, hr, -⟩ := conditionOf_eq_some_iff.mp hc
    rw [insert_get?] at hnone
    split at hnone
    · cases hnone
    · rw [hnone] at hr
      cases hr

end Spares

/-! ## Removing entities -/

theorem remove_conditions (s : State) (h : Handle) (c : ConditionId) :
    (s.remove h).conditions.get? c =
      if s.conditionOf h = some c then none else s.conditions.get? c := by
  unfold remove conditionOf
  split
  · rename_i hnone
    rw [hnone]
    rfl
  · rename_i r hr
    rw [hr, Option.bind_some]
    split
    · rename_i gone hgone
      refine (s.conditions.get?_erase gone c).trans ?_
      simp only [hgone, Option.some.injEq, eq_comm]
    · rename_i hnone
      rw [hnone]
      rfl

theorem remove_waitSets (s : State) (h : Handle) (waitSet : WaitSetId) :
    (s.remove h).waitSets.get? waitSet =
      (s.waitSets.get? waitSet).map fun w => w.without (s.conditionOf h).toList := by
  unfold remove conditionOf
  split
  · rename_i hnone
    simp [hnone]
  · rename_i r hr
    rw [hr, Option.bind_some]
    split
    · rename_i gone hgone
      refine (Table.get?_map _ _ _).trans ?_
      simp [hgone, WaitSet.without]
    · rename_i hnone
      simp [hnone]

theorem remove_conditionOf (s : State) (h k : Handle) :
    (s.remove h).conditionOf k = if k = h then none else s.conditionOf k := by
  unfold conditionOf
  rw [remove_get?]
  split <;> rfl

/-- The conditions of some entities. -/
def conditionsOf (s : State) (doomed : List Handle) : List ConditionId :=
  doomed.filterMap s.conditionOf

theorem mem_conditionsOf {s : State} {doomed : List Handle} {c : ConditionId} :
    c ∈ s.conditionsOf doomed ↔ ∃ h ∈ doomed, s.conditionOf h = some c :=
  List.mem_filterMap

/-- Removing one entity first leaves the conditions of the others. -/
theorem mem_conditionsOf_cons {s : State} {gone : Handle} {rest : List Handle} {c : ConditionId} :
    c ∈ s.conditionsOf (gone :: rest) ↔
      s.conditionOf gone = some c ∨ c ∈ (s.remove gone).conditionsOf rest := by
  simp only [mem_conditionsOf, List.mem_cons, exists_eq_or_imp, remove_conditionOf]
  constructor
  · rintro (hc | ⟨h, hmem, hc⟩)
    · exact .inl hc
    · by_cases hh : h = gone
      · exact .inl (hh ▸ hc)
      · exact .inr ⟨h, hmem, by rw [if_neg hh, hc]⟩
  · rintro (hc | ⟨h, hmem, hc⟩)
    · exact .inl hc
    · split at hc
      · cases hc
      · exact .inr ⟨h, hmem, hc⟩

theorem foldl_remove_conditions (s : State) (doomed : List Handle) (c : ConditionId) :
    (doomed.foldl remove s).conditions.get? c =
      if c ∈ s.conditionsOf doomed then none else s.conditions.get? c := by
  induction doomed generalizing s with
  | nil => rfl
  | cons gone rest ih =>
      rw [List.foldl_cons, ih, remove_conditions]
      by_cases hgone : s.conditionOf gone = some c
      · simp [mem_conditionsOf_cons, hgone]
      · simp [mem_conditionsOf_cons, hgone]

theorem foldl_remove_waitSets (s : State) (doomed : List Handle) (waitSet : WaitSetId) :
    (doomed.foldl remove s).waitSets.get? waitSet =
      (s.waitSets.get? waitSet).map fun w => w.without (s.conditionsOf doomed) := by
  induction doomed generalizing s with
  | nil => simp [conditionsOf]
  | cons gone rest ih =>
      rw [List.foldl_cons, ih, remove_waitSets, Option.map_map]
      refine congrArg (fun f => (s.waitSets.get? waitSet).map f) (funext fun w => ?_)
      simp only [Function.comp_apply, WaitSet.without, List.filter_filter]
      refine congrArg (fun cs => ({ w with conditions := cs } : WaitSet)) ?_
      refine List.filter_congr fun c _ => ?_
      by_cases hgone : s.conditionOf gone = some c <;>
        by_cases hrest : c ∈ (s.remove gone).conditionsOf rest <;>
          simp [mem_conditionsOf_cons, hgone, hrest]

/-- Entities that go take their conditions with them. -/
theorem Spares.foldl_remove {s : State} (hwf : s.WellFormed) (doomed : List Handle) :
    s.Spares (doomed.foldl remove s) (s.conditionsOf doomed) := by
  refine ⟨Nat.le_of_eq (foldl_remove_lastId s doomed).symm, fun {h} _ {r'} hr' => ?_,
    fun {h} hnew => ?_, foldl_remove_conditions s doomed, foldl_remove_waitSets s doomed,
    fun c => ?_⟩
  · rw [foldl_remove_get?] at hr'
    split at hr'
    · cases hr'
    · exact ⟨r', hr', rfl⟩
  · unfold conditionOf
    rw [foldl_remove_get?]
    split
    · rfl
    · exact hwf.conditionOf_new hnew
  · rw [mem_conditionsOf]
    constructor
    · rintro ⟨h, hmem, hc⟩
      exact ⟨h, hc, by rw [foldl_remove_get?, if_pos hmem]⟩
    · rintro ⟨h, hc, hnone⟩
      refine ⟨h, Decidable.byContradiction fun hstays => ?_, hc⟩
      rw [foldl_remove_get?, if_neg hstays] at hnone
      obtain ⟨r, hr, -⟩ := conditionOf_eq_some_iff.mp hc
      rw [hnone] at hr
      cases hr

/-! ## Operations that know nothing of waits -/

theorem condition_ignoresTraffic : IgnoresTraffic Record.condition :=
  ⟨fun _ _ => ⟨rfl, rfl⟩, fun _ _ _ _ => rfl, fun _ _ _ _ => rfl, fun _ _ _ _ => rfl⟩

/-- An operation spares the conditions and wait sets but those of the entities it deletes. -/
def SparesSome (s s' : State) : Prop := ∃ dropped, s.Spares s' dropped

namespace SparesSome

variable {s s' : State}

theorem of_agree (hwf : s.WellFormed) (hkeeps : s.KeepsWaits s')
    (ha : Agree Record.condition s s') : s.SparesSome s' := ⟨[], .of_agree hwf hkeeps ha⟩

theorem refl (hwf : s.WellFormed) : s.SparesSome s := of_agree hwf (.refl s) (.refl _ s)

theorem insert (hwf : s.WellFormed) (kind : EntityKind) (participant parent : Option Handle)
    (body : Body) : s.SparesSome (s.insert kind participant parent body).2 :=
  ⟨[], .insert hwf kind participant parent body⟩

theorem joined (hwf : s.WellFormed) (side : Side) (p g t : Handle) (qos : EndpointQos) :
    s.SparesSome ((s.withEndpoint side p g t qos).discover s.next) :=
  ⟨[], (Spares.insert hwf side.kind (some p) (some g) (side.newBody t qos)).then_agree (.discover _ _)
    (agree_discover condition_ignoresTraffic _ _)⟩

theorem deleteAll (hwf : s.WellFormed) (doomed : List Handle) :
    s.SparesSome (s.deleteAll doomed) := by
  have htold := agree_unmatchAll condition_ignoresTraffic s doomed doomed
  have hwf' := hwf.of_agree (agree_unmatchAll stem_ignoresTraffic s doomed doomed)
  exact ⟨_, .after_agree (.unmatchAll s doomed doomed) htold (.foldl_remove hwf' doomed)⟩

theorem release (hwf : s.WellFormed) (h : Handle) : s.SparesSome (s.release h) := by
  unfold State.release
  split
  · exact refl hwf
  · have hgiven : Agree Record.condition s
        (s.modifyEntity h fun r => { r with refs := r.refs - 1 }) :=
      agree_modifyEntity s h fun _ => rfl
    have hstem : Agree Record.stem s (s.modifyEntity h fun r => { r with refs := r.refs - 1 }) :=
      agree_modifyEntity s h fun _ => rfl
    have hkeeps := KeepsWaits.modifyEntity s h fun r => { r with refs := r.refs - 1 }
    dsimp only
    split
    · exact ⟨_, .after_agree hkeeps hgiven (.foldl_remove (hwf.of_agree hstem) [h])⟩
    · exact .of_agree hwf hkeeps hgiven

end SparesSome

/-- An operation that is not about conditions and wait sets spares them, but for the conditions of
entities that it deletes. -/
theorem perform_spares {s : State} (hwf : s.WellFormed) (isFile : String → Bool)
    {operation : Operation} (hwaiting : operation.isWaiting = false) :
    s.SparesSome (s.perform isFile operation).2 := by
  have hcase := perform_cases isFile s operation
  generalize s.perform isFile operation = result at hcase ⊢
  cases hcase with
  | refused => exact .refl hwf
  | initialized | installed =>
      exact .of_agree hwf ⟨rfl, rfl, rfl⟩ (.of_entities rfl (Nat.le_refl _) rfl)
  | created => exact .insert hwf _ _ _ _
  | joined => exact .joined hwf ..
  | cleared => exact .deleteAll hwf _
  | @registered p _ typeName =>
      refine .of_agree hwf (.modifyEntity s p _) (agree_modifyEntity s p fun r => ?_)
      unfold Record.register
      split <;> rfl
  | wrote hok =>
      refine .of_agree hwf (.write hok) ?_
      exact agree_write_of condition_ignoresTraffic.raised condition_ignoresTraffic.queue
        (fun _ _ _ _ => rfl) hok
  | took r =>
      exact .of_agree hwf (.take s r)
        (agree_take condition_ignoresTraffic.raised condition_ignoresTraffic.queue s r)
  | @listened h =>
      exact .of_agree hwf (.modifyReader s h _) (agree_modifyReader s h fun _ _ _ => rfl)
  | released h => exact .release hwf h
  | relisted order => exact .of_agree hwf ⟨rfl, rfl, rfl⟩ (agree_relist _ s order)
  | _ => cases hwaiting

/-! ## Entities and their conditions -/

/-- Every condition was issued and belongs to a live entity, and every live entity that has a
condition knows it as its own. -/
structure Conditioned (s : State) : Prop where
  issued : ∀ {c x}, s.conditions.get? c = some x → c.id ≤ s.lastId
  owned : ∀ {c x}, s.conditions.get? c = some x → s.conditionOf x.entity = some c
  known : ∀ {h c}, s.conditionOf h = some c → ∃ mask, s.conditions.get? c = some ⟨h, mask⟩

variable {s s' : State}

theorem Conditioned.spares {dropped : List ConditionId} (hc : s.Conditioned) (hwf : s.WellFormed)
    (hstep : s.Spares s' dropped) : s'.Conditioned := by
  have hold : ∀ {c x}, s'.conditions.get? c = some x →
      c ∉ dropped ∧ s.conditions.get? c = some x := by
    intro c x hx
    rw [hstep.conditions] at hx
    split at hx
    · cases hx
    · exact ⟨‹_›, hx⟩
  constructor
  · intro c x hx
    exact Nat.le_trans (hc.issued (hold hx).2) hstep.lastId_le
  · intro c x hx
    obtain ⟨hstays, hx⟩ := hold hx
    have howned := hc.owned hx
    -- if the entity were gone, its condition would be too
    cases hgone : s'.entities.get? x.entity with
    | none => exact absurd ((hstep.dropped_iff c).mpr ⟨x.entity, howned, hgone⟩) hstays
    | some r' =>
        obtain ⟨r, hr, hcond⟩ := conditionOf_eq_some_iff.mp howned
        have hid := hwf.issued (profile_of_get? hr)
        obtain ⟨r₀, hr₀, hsame⟩ := hstep.kept hid hgone
        rw [hr] at hr₀
        obtain rfl := Option.some.inj hr₀
        exact conditionOf_eq_some_iff.mpr ⟨r', hgone, hsame.trans hcond⟩
  · intro h c hh
    obtain ⟨r', hr', hcond⟩ := conditionOf_eq_some_iff.mp hh
    have hid : h.id ≤ s.lastId := by
      refine Nat.le_of_not_lt fun hnew => ?_
      rw [hstep.new hnew] at hh
      cases hh
    obtain ⟨r, hr, hsame⟩ := hstep.kept hid hr'
    obtain ⟨mask, hmask⟩ := hc.known (conditionOf_eq_some_iff.mpr ⟨r, hr, hsame.symm.trans hcond⟩)
    refine ⟨mask, ?_⟩
    rw [hstep.conditions, if_neg, hmask]
    intro hdropped
    obtain ⟨k, hk, hgone⟩ := (hstep.dropped_iff c).mp hdropped
    obtain ⟨mask', hmask'⟩ := hc.known hk
    rw [hmask] at hmask'
    cases hmask'
    rw [hr'] at hgone
    cases hgone

/-- Wait sets are no part of this. -/
theorem Conditioned.of_same (hc : s.Conditioned) (hconditions : s'.conditions = s.conditions)
    (hentities : s'.entities = s.entities) (hid : s.lastId ≤ s'.lastId) : s'.Conditioned := by
  have hof : ∀ h, s'.conditionOf h = s.conditionOf h := fun h => by
    unfold conditionOf
    rw [hentities]
  constructor
  · intro c x hx
    exact Nat.le_trans (hc.issued (hconditions ▸ hx)) hid
  · intro c x hx
    rw [hof]
    exact hc.owned (hconditions ▸ hx)
  · intro h c hh
    rw [hconditions]
    exact hc.known (hof h ▸ hh)

/-- A live entity always has a condition to give. -/
theorem statusCondition_live {e : Handle} {r : Record} (hr : s.entities.get? e = some r) :
    ∃ c s', s.statusCondition e = (.ok c, s') := by
  unfold statusCondition
  rw [hr]
  dsimp only
  cases r.condition with
  | none => exact ⟨_, _, rfl⟩
  | some c => exact ⟨c, s, rfl⟩

/-- The condition that is given is the entity's own from then on. -/
theorem statusCondition_conditionOf {e : Handle} {c : ConditionId}
    (hok : s.statusCondition e = (.ok c, s')) : s'.conditionOf e = some c := by
  rcases statusCondition_eq_ok hok with ⟨hown, rfl⟩ | ⟨-, ⟨r, hr⟩, -, rfl⟩
  · exact hown
  · refine conditionOf_eq_some_iff.mpr ⟨{ r with condition := some c }, ?_, rfl⟩
    show (s.entities.modify e fun r => { r with condition := some c }).get? e = _
    rw [Table.get?_modify_self, hr]
    rfl

theorem Conditioned.statusCondition (hc : s.Conditioned) {e : Handle} {c : ConditionId}
    (hok : s.statusCondition e = (.ok c, s')) : s'.Conditioned := by
  rcases statusCondition_eq_ok hok with ⟨-, rfl⟩ | ⟨hnone, ⟨r, hr⟩, hnew, rfl⟩
  · exact hc
  · -- the entity has the new condition, and the others have theirs
    have hof : ∀ h, conditionOf { s with
        lastId := s.lastId + 1
        conditions := s.conditions.insert c ⟨e, .all⟩
        entities := s.entities.modify e fun r => { r with condition := some c } } h =
          if h = e then some c else s.conditionOf h := by
      intro h
      unfold conditionOf
      rw [Table.get?_modify]
      split
      · rename_i hh
        simp [hh, hr]
      · rfl
    -- its number is new, so that no condition is overwritten
    have hfresh : s.conditions.get? c = none := by
      cases hx : s.conditions.get? c with
      | none => rfl
      | some x =>
          have hissued := hc.issued hx
          rw [hnew] at hissued
          exact absurd hissued (Nat.not_succ_le_self _)
    constructor
    · intro k x hx
      rw [Table.get?_insert] at hx
      split at hx
      · rename_i hk
        exact Nat.le_of_eq (by rw [hk, hnew])
      · exact Nat.le_succ_of_le (hc.issued hx)
    · intro k x hx
      rw [hof]
      rw [Table.get?_insert] at hx
      split at hx
      · rename_i hk
        obtain rfl := Option.some.inj hx
        rw [if_pos rfl, hk]
      · have howned := hc.owned hx
        rw [if_neg, howned]
        rintro rfl
        rw [hnone] at howned
        cases howned
    · intro h k hh
      rw [hof] at hh
      rw [Table.get?_insert]
      split at hh
      · rename_i hhe
        obtain rfl := Option.some.inj hh
        exact ⟨.all, by rw [if_pos rfl, hhe]⟩
      · obtain ⟨mask, hmask⟩ := hc.known hh
        refine ⟨mask, ?_⟩
        rw [if_neg, hmask]
        rintro rfl
        rw [hfresh] at hmask
        cases hmask

theorem setEnabled_eq_error {c : ConditionId} {mask : StatusMask} {code : ReturnCode}
    (herror : s.setEnabled c mask = (.error code, s')) :
    s.conditions.get? c = none ∧ code = .badParameter := by
  unfold setEnabled at herror
  split at herror
  · cases herror
  · rename_i hunknown
    cases herror
    exact ⟨by simpa [Table.contains] using hunknown, rfl⟩

/-- A condition that there is can be enabled for other statuses. -/
theorem setEnabled_known {c : ConditionId} {e : Handle} {before : StatusMask}
    (hx : s.conditions.get? c = some ⟨e, before⟩) (mask : StatusMask) :
    ∃ s', s.setEnabled c mask = (.ok (), s') ∧ s'.conditions.get? c = some ⟨e, mask⟩ ∧
      s.SameEntities s' := by
  have hknown : s.conditions.contains c = true := Option.isSome_iff_exists.mpr ⟨_, hx⟩
  refine ⟨_, if_pos hknown, ?_, rfl, Nat.le_refl _, rfl⟩
  rw [Table.get?_modify_self, hx]
  rfl

theorem Conditioned.setEnabled (hc : s.Conditioned) {c : ConditionId} {mask : StatusMask}
    (hok : s.setEnabled c mask = (.ok (), s')) : s'.Conditioned := by
  obtain ⟨-, rfl⟩ := setEnabled_eq_ok hok
  have hlook : ∀ {k x}, (s.conditions.modify c fun x => { x with enabled := mask }).get? k =
      some x → ∃ x₀, s.conditions.get? k = some x₀ ∧ x₀.entity = x.entity := by
    intro k x hx
    rw [Table.get?_modify] at hx
    split at hx
    · obtain ⟨x₀, hx₀, rfl⟩ := Option.map_eq_some_iff.mp hx
      exact ⟨x₀, hx₀, rfl⟩
    · exact ⟨x, hx, rfl⟩
  constructor
  · intro k x hx
    obtain ⟨x₀, hx₀, -⟩ := hlook hx
    exact hc.issued hx₀
  · intro k x hx
    obtain ⟨x₀, hx₀, hsame⟩ := hlook hx
    exact hsame ▸ hc.owned hx₀
  · intro h k hh
    obtain ⟨old, hold⟩ := hc.known hh
    show ∃ mask', (s.conditions.modify c fun x => { x with enabled := mask }).get? k =
      some ⟨h, mask'⟩
    rw [Table.get?_modify, hold]
    split
    · exact ⟨mask, rfl⟩
    · exact ⟨old, rfl⟩

/-- Attaching a condition attaches nothing else. -/
theorem mem_insertCondition {c k : ConditionId} {conditions : List ConditionId}
    (hmem : k ∈ insertCondition c conditions) : k = c ∨ k ∈ conditions := by
  induction conditions with
  | nil => exact .inl (List.mem_singleton.mp hmem)
  | cons x rest ih =>
      unfold insertCondition at hmem
      split at hmem
      · exact List.mem_cons.mp hmem
      · split at hmem
        · exact .inr hmem
        · rcases List.mem_cons.mp hmem with rfl | hmem
          · exact .inr List.mem_cons_self
          · exact (ih hmem).imp id (List.mem_cons_of_mem x)

theorem attach_eq_error {waitSet : WaitSetId} {c : ConditionId} {code : ReturnCode}
    (herror : s.attach waitSet c = (.error code, s')) : code = .badParameter := by
  unfold attach at herror
  split at herror
  · cases herror
  · cases herror
    rfl

/-- A condition and a wait set that there are can be brought together. -/
theorem attach_known {waitSet : WaitSetId} {c : ConditionId} {x : Condition}
    (hx : s.conditions.get? c = some x) (hw : s.waitSets.get? waitSet = some ⟨[], false⟩) :
    ∃ s', s.attach waitSet c = (.ok (), s') ∧ s'.waitSets.get? waitSet = some ⟨[c], false⟩ ∧
      s'.conditions = s.conditions ∧ s.SameEntities s' := by
  have hknown : (s.conditions.contains c && s.waitSets.contains waitSet) = true := by
    rw [Bool.and_eq_true]
    exact ⟨Option.isSome_iff_exists.mpr ⟨x, hx⟩, Option.isSome_iff_exists.mpr ⟨_, hw⟩⟩
  refine ⟨_, if_pos hknown, ?_, rfl, rfl, Nat.le_refl _, rfl⟩
  rw [Table.get?_modify_self, hw]
  rfl

/-- A new wait set is empty, and nobody waits on it. -/
theorem createWaitSet_new (s : State) :
    ∃ waitSet s', s.createWaitSet = (waitSet, s') ∧
      s'.waitSets.get? waitSet = some ⟨[], false⟩ ∧ s'.conditions = s.conditions ∧
      s.SameEntities s' := by
  refine ⟨⟨s.lastId + 1⟩, _, rfl, ?_, rfl, rfl, Nat.le_succ _, rfl⟩
  rw [Table.get?_insert, if_pos rfl]

theorem conditioned_perform (hc : s.Conditioned) (hwf : s.WellFormed) (isFile : String → Bool)
    (operation : Operation) : (s.perform isFile operation).2.Conditioned := by
  by_cases hwaiting : operation.isWaiting = false
  · obtain ⟨dropped, hspares⟩ := perform_spares hwf isFile hwaiting
    exact hc.spares hwf hspares
  · have hcase := perform_cases isFile s operation
    generalize s.perform isFile operation = result at hcase ⊢
    cases hcase with
    | refused | apart => exact hc
    | asked hok => exact hc.statusCondition hok
    | enabled hok => exact hc.setEnabled hok
    | madeWaitSet => exact hc.of_same rfl rfl (Nat.le_succ _)
    | droppedWaitSet hok =>
        obtain ⟨-, rfl⟩ := deleteWaitSet_eq_ok hok
        exact hc.of_same rfl rfl (Nat.le_refl _)
    | attached | detached | entered | left => exact hc.of_same rfl rfl (Nat.le_refl _)
    | created hready hcreates => exact absurd hcreates.isWaiting_eq hwaiting
    | @joined side => exact absurd (side.isWaiting_create _ _ _) hwaiting
    | _ => exact absurd rfl hwaiting

/-- In every reachable state entities and conditions know each other. -/
theorem conditioned_of_reachable {isFile : String → Bool} {s : State}
    (hreach : Reachable isFile s) : s.Conditioned := by
  induction hreach with
  | new maxSamples =>
      constructor <;> intro h c <;> intros <;> simp_all [conditionOf, State.new]
  | step before operation ih =>
      exact conditioned_perform ih (wellFormed_of_reachable before) isFile operation

end State

end DdsBridge.Provider
