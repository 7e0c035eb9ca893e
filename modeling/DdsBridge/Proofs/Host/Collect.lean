import DdsBridge.Host.Collect

/-!
# What a collection does

A collection lets objects go one after the other. Whatever goes is not referred to at that moment,
and letting it go adds no reference; when the collection is over, nothing is left that could go.

* **`World.advance_eq`** — what the provider's next state changes in the world.
* **`World.mem_garbage_iff`** — the objects that can go.
* **`World.collect_within`** — a collection as steps that each let go one object that nothing
  refers to.
* **`World.garbage_collect`** — after a collection there is no garbage.
-/

namespace DdsBridge

open Provider (State)

/-- Ends waits one after the other. -/
def Provider.State.leaveAll (s : State) (ended : List WaitSetId) : State :=
  ended.foldl State.leaveWait s

/-- The end of waits touches nothing but the wait sets. -/
theorem Provider.State.leaveAll_eq (s : State) (ended : List WaitSetId) :
    ∃ waitSets, s.leaveAll ended = { s with waitSets } := by
  unfold leaveAll
  induction ended generalizing s with
  | nil => exact ⟨s.waitSets, rfl⟩
  | cons waitSet rest ih => exact ih (s.leaveWait waitSet)

theorem Provider.State.leaveAll_entities (s : State) (ended : List WaitSetId) :
    (s.leaveAll ended).entities = s.entities := by
  obtain ⟨_, h⟩ := s.leaveAll_eq ended
  rw [h]

theorem Provider.State.leaveAll_lastId (s : State) (ended : List WaitSetId) :
    (s.leaveAll ended).lastId = s.lastId := by
  obtain ⟨_, h⟩ := s.leaveAll_eq ended
  rw [h]

/-- An object that is gone need not be removed. -/
theorem Heap.erase_of_gone {B : Type} {heap : Heap B} {r : Ref} (h : heap.get? r = none) :
    heap.erase r = heap := by
  refine congrArg Heap.mk (Array.ext (by simp) fun i h₁ h₂ => ?_)
  by_cases hi : r.id = i
  · rw [Array.getElem_setIfInBounds h₂, if_pos hi]
    unfold Heap.get? at h
    rw [hi, Array.getElem?_eq_getElem h₂] at h
    exact h.symm
  · rw [Array.getElem_setIfInBounds h₂, if_neg hi]

namespace World

variable {B : Type}

/-! ## The provider's next state -/

theorem foldl_deliver_eq (w : World B) (calls : List Provider.Call) :
    ∃ pending events, calls.foldl deliver w =
      { w with bridge := { w.bridge with pending }, events } := by
  induction calls generalizing w with
  | nil => exact ⟨w.bridge.pending, w.events, rfl⟩
  | cons call rest ih =>
      obtain ⟨pending, events, hrest⟩ := ih (w.deliver call)
      rw [List.foldl_cons, hrest]
      unfold deliver
      split
      · exact ⟨pending, events, rfl⟩
      · exact ⟨pending, events, rfl⟩

theorem foldl_wake_eq (w : World B) (names : List String) :
    ∃ ended waits, names.foldl wake w =
      { w with provider := w.provider.leaveAll ended, waits } := by
  induction names generalizing w with
  | nil => exact ⟨[], w.waits, rfl⟩
  | cons name rest ih =>
      obtain ⟨ended, waits, hrest⟩ := ih (w.wake name)
      rw [List.foldl_cons, hrest]
      unfold wake
      split
      · rename_i waitSet _
        split
        · exact ⟨waitSet :: ended, waits, rfl⟩
        · exact ⟨ended, waits, rfl⟩
      · exact ⟨ended, waits, rfl⟩

/-- The world takes over the provider's next state without the calls that are made and with the
waits that end; else only the notifications, the trace and the waits change. -/
theorem advance_eq (w : World B) (s : State) :
    ∃ pending events ended waits, w.advance s =
      { w with
        provider := { s with calls := [] }.leaveAll ended
        bridge := { w.bridge with pending }
        events
        waits } := by
  obtain ⟨pending, events, hdeliver⟩ :=
    foldl_deliver_eq { w with provider := { s with calls := [] } } s.calls
  obtain ⟨ended, waits, hwake⟩ :=
    foldl_wake_eq { w with
      provider := { s with calls := [] }
      bridge := { w.bridge with pending }
      events } w.waits.keys
  refine ⟨pending, events, ended, waits, ?_⟩
  unfold advance
  dsimp only
  rw [hdeliver]
  exact hwake

/-! ## References -/

variable [ObjectBody B]

/-- What a slot of the heap refers to. -/
def slotReferences (slot : Option (Node B)) : List Ref :=
  match slot with
  | some node => node.references
  | none => []

theorem mem_references_iff {w : World B} {r : Ref} :
    r ∈ w.references ↔
      r ∈ w.roots ∨ ∃ holder node, w.heap.get? holder = some node ∧ r ∈ node.references := by
  have hslots : w.references = w.roots ++ w.heap.slots.toList.flatMap slotReferences := rfl
  rw [hslots, List.mem_append, List.mem_flatMap]
  refine or_congr_right ?_
  constructor
  · rintro ⟨slot, hslot, hr⟩
    cases slot with
    | none => exact absurd hr List.not_mem_nil
    | some node =>
        obtain ⟨i, hi, hnode⟩ := Array.mem_iff_getElem.mp (Array.mem_def.mpr hslot)
        refine ⟨⟨i⟩, node, ?_, hr⟩
        rw [Heap.get?, Array.getElem?_eq_getElem hi, hnode]
        rfl
  · rintro ⟨holder, node, hnode, hr⟩
    refine ⟨some node, ?_, hr⟩
    unfold Heap.get? at hnode
    cases hslot : w.heap.slots[holder.id]? with
    | none => rw [hslot] at hnode; exact absurd hnode (by simp)
    | some slot =>
        rw [hslot] at hnode
        exact Array.mem_def.mp (hnode ▸ Array.mem_of_getElem? hslot)

/-- The marks are on the numbers that are referred to. -/
theorem foldl_marks (refs : List Ref) (marks : Array Bool) (i : Nat) :
    (refs.foldl (fun marks r => marks.setIfInBounds r.id true) marks)[i]? = some false ↔
      marks[i]? = some false ∧ (⟨i⟩ : Ref) ∉ refs := by
  induction refs generalizing marks with
  | nil => simp
  | cons r rest ih =>
      rw [List.foldl_cons, ih, List.mem_cons, not_or]
      by_cases hr : r.id = i
      · have hri : (⟨i⟩ : Ref) = r := by rw [← hr]
        rw [hr, Array.getElem?_setIfInBounds_self]
        constructor
        · rintro ⟨h, -⟩
          split at h
          · exact absurd h (by simp)
          · exact absurd h (by simp)
        · rintro ⟨-, hne, -⟩
          exact absurd hri hne
      · have hri : (⟨i⟩ : Ref) ≠ r := fun he => hr (by rw [← he])
        rw [Array.getElem?_setIfInBounds_ne hr]
        exact ⟨fun h => ⟨h.1, hri, h.2⟩, fun h => ⟨h.1, h.2.2⟩⟩

/-- An object can go if it is there, older than the running operation and not permanent, and
nothing refers to it. -/
theorem mem_garbage_iff {w : World B} {r : Ref} :
    r ∈ w.garbage ↔
      r.id < w.mark ∧ w.permanent ≤ r.id ∧ r ∉ w.references ∧ (w.heap.get? r).isSome := by
  unfold garbage
  rw [List.mem_filterMap]
  constructor
  · rintro ⟨i, hi, hr⟩
    split at hr
    · rename_i hcond
      cases hr
      simp only [Bool.and_eq_true, decide_eq_true_eq, beq_iff_eq] at hcond
      have hlt := List.mem_range.mp hi
      refine ⟨by simp only; omega, hcond.1.1, ?_, hcond.2⟩
      exact ((foldl_marks _ _ i).mp hcond.1.2).2
    · exact absurd hr (by simp)
  · rintro ⟨hmark, hpermanent, hfree, hsome⟩
    obtain ⟨node, hnode⟩ := Option.isSome_iff_exists.mp hsome
    have hsize := Heap.lt_size_of_get? hnode
    have hmarks : w.referenceMarks[r.id]? = some false := by
      refine (foldl_marks _ _ r.id).mpr ⟨?_, hfree⟩
      rw [Array.getElem?_replicate, if_pos hsize]
    refine ⟨r.id, List.mem_range.mpr (by omega), if_pos ?_⟩
    simp only [Bool.and_eq_true, decide_eq_true_eq, beq_iff_eq]
    exact ⟨⟨hpermanent, hmarks⟩, hsome⟩

/-! ## Letting one object go -/

theorem values_filter_subset {κ α : Type} [DecidableEq κ] (t : Table κ α) (p : κ → α → Bool) :
    (t.filter p).values ⊆ t.values :=
  List.map_subset _ List.filter_sublist.subset

/-- What is noted when a capsule goes. -/
def noteOf (capsule : Capsule) : List Release :=
  match capsule.owner with
  | .loose => [.loose capsule.kind capsule.handle]
  | .bridge _ observed =>
    if observed then [.toProvider capsule.kind capsule.handle] else []

/-- Whether a capsule holds an entity of a bridge. -/
def HeldBy (generation : Nat) (capsule : Capsule) : Prop :=
  ∃ observed, capsule.owner = .bridge generation observed

omit [ObjectBody B] in
/-- Giving back what a capsule stands for is noted, a callback may be forgotten, and the provider
takes the hold back if it is the one behind the present bridge. -/
theorem releaseCapsule_eq (w : World B) (capsule : Capsule) :
    ∃ provider callbacks pending events waits, w.releaseCapsule capsule =
      { w with
        releases := w.releases ++ noteOf capsule
        provider
        bridge := { w.bridge with callbacks, pending }
        events
        waits } ∧
      callbacks.values ⊆ w.bridge.callbacks.values ∧
      ((HeldBy w.bridge.generation capsule ∧
          ∃ ended, provider = { w.provider.release capsule.handle with calls := [] }.leaveAll ended) ∨
        (¬HeldBy w.bridge.generation capsule ∧ provider = w.provider)) := by
  obtain ⟨kind, handle, owner⟩ := capsule
  cases owner with
  | loose =>
      refine ⟨w.provider, w.bridge.callbacks, w.bridge.pending, w.events, w.waits, rfl,
        List.Subset.refl _, .inr ⟨?_, rfl⟩⟩
      rintro ⟨observed, h⟩
      exact absurd h (by simp)
  | «bridge» generation observed =>
      have hnoted : (if observed = true then
          { w with releases := w.releases ++ [.toProvider kind handle] } else w) =
          { w with releases := w.releases ++ noteOf ⟨kind, handle, .bridge generation observed⟩ } := by
        cases observed
        · exact congrArg (fun releases => { w with releases }) (List.append_nil _).symm
        · rfl
      unfold releaseCapsule
      dsimp only
      rw [hnoted]
      split
      · rename_i hcurrent
        have hforgotten : ∃ callbacks, callbacks.values ⊆ w.bridge.callbacks.values ∧
            ∀ noted : World B, noted.bridge = w.bridge →
              (if kind = .reader then noted.forgetCallback handle else noted) =
                { noted with bridge := { w.bridge with callbacks } } := by
          by_cases hkind : kind = .reader
          · refine ⟨w.bridge.callbacks.erase handle, values_filter_subset _ _, fun noted h => ?_⟩
            rw [if_pos hkind, forgetCallback, h]
          · refine ⟨w.bridge.callbacks, List.Subset.refl _, fun noted h => ?_⟩
            rw [if_neg hkind, ← h]
        obtain ⟨callbacks, hless, hforgotten⟩ := hforgotten
        rw [hforgotten
          { w with
            releases := w.releases ++ noteOf ⟨kind, handle, .bridge generation observed⟩ } rfl]
        obtain ⟨pending, events, ended, waits, hadvance⟩ :=
          advance_eq
            { w with
              releases := w.releases ++ noteOf ⟨kind, handle, .bridge generation observed⟩
              bridge := { w.bridge with callbacks } }
            (w.provider.release handle)
        exact ⟨_, callbacks, pending, events, waits, hadvance, hless,
          .inl ⟨⟨observed, by rw [hcurrent]⟩, ended, rfl⟩⟩
      · rename_i hpast
        refine ⟨w.provider, w.bridge.callbacks, w.bridge.pending, w.events, w.waits, rfl,
          List.Subset.refl _, .inr ⟨?_, rfl⟩⟩
        rintro ⟨other, h⟩
        cases h
        exact hpast rfl

/-- An object that goes is taken off the heap; a capsule also gives back what it stands for. -/
theorem discard_of_get? {w : World B} {r : Ref} {node : Node B} (h : w.heap.get? r = some node) :
    w.discard r =
      match ObjectBody.capsule? node.body with
      | some capsule => { w with heap := w.heap.erase r }.releaseCapsule capsule
      | none => { w with heap := w.heap.erase r } := by
  cases hcapsule : ObjectBody.capsule? node.body with
  | none => simp only [discard, h, hcapsule]
  | some capsule => simp only [discard, h, hcapsule]

theorem discard_of_gone {w : World B} {r : Ref} (h : w.heap.get? r = none) : w.discard r = w := by
  unfold discard
  rw [h]

/-- The loss of an object leaves what the running operations hold. -/
theorem discard_eq (w : World B) (r : Ref) :
    ∃ releases provider callbacks pending events waits, w.discard r =
      { w with
        heap := w.heap.erase r
        releases
        provider
        bridge := { w.bridge with callbacks, pending }
        events
        waits } ∧
      callbacks.values ⊆ w.bridge.callbacks.values := by
  cases h : w.heap.get? r with
  | none =>
      rw [discard_of_gone h, Heap.erase_of_gone h]
      exact ⟨w.releases, w.provider, w.bridge.callbacks, w.bridge.pending, w.events, w.waits, rfl,
        List.Subset.refl _⟩
  | some node =>
      rw [discard_of_get? h]
      split
      · rename_i capsule _
        obtain ⟨provider, callbacks, pending, events, waits, heq, hless, -⟩ :=
          releaseCapsule_eq { w with heap := w.heap.erase r } capsule
        exact ⟨_, provider, callbacks, pending, events, waits, heq, hless⟩
      · exact ⟨w.releases, w.provider, w.bridge.callbacks, w.bridge.pending, w.events, w.waits, rfl,
          List.Subset.refl _⟩

theorem discard_heap (w : World B) (r : Ref) : (w.discard r).heap = w.heap.erase r := by
  obtain ⟨_, _, _, _, _, _, h, -⟩ := discard_eq w r
  rw [h]

theorem discard_permanent (w : World B) (r : Ref) : (w.discard r).permanent = w.permanent := by
  obtain ⟨_, _, _, _, _, _, h, -⟩ := discard_eq w r
  rw [h]

theorem discard_mark (w : World B) (r : Ref) : (w.discard r).mark = w.mark := by
  obtain ⟨_, _, _, _, _, _, h, -⟩ := discard_eq w r
  rw [h]

theorem discard_roots (w : World B) (r : Ref) : (w.discard r).roots ⊆ w.roots := by
  obtain ⟨_, _, callbacks, _, _, _, h, hless⟩ := discard_eq w r
  rw [h]
  intro x hx
  rcases List.mem_append.mp hx with hhost | hbridge
  · exact List.mem_append_left _ hhost
  · refine List.mem_append_right _ ?_
    rcases List.mem_append.mp hbridge with hother | hcallback
    · exact List.mem_append_left _ hother
    · exact List.mem_append_right _ (List.map_subset _ hless hcallback)

theorem discard_get? (w : World B) (r r' : Ref) :
    (w.discard r).heap.get? r' = if r' = r then none else w.heap.get? r' := by
  rw [discard_heap, Heap.get?_erase]

/-- What is referred to afterwards was referred to before. -/
theorem discard_references (w : World B) (r : Ref) : (w.discard r).references ⊆ w.references := by
  intro x hx
  rcases mem_references_iff.mp hx with hroot | ⟨holder, node, hnode, hx⟩
  · exact mem_references_iff.mpr (.inl (discard_roots w r hroot))
  · rw [discard_get?] at hnode
    split at hnode
    · exact absurd hnode (by simp)
    · exact mem_references_iff.mpr (.inr ⟨holder, node, hnode, hx⟩)

/-! ## A whole collection -/

section Steps

variable {R : World B → World B → Prop}

/-- Letting go objects one after the other, none of which anything refers to. -/
theorem foldl_discard_within (hrefl : ∀ w, R w w)
    (htrans : ∀ {w w₁ w₂}, R w w₁ → R w₁ w₂ → R w w₂)
    (hdiscard : ∀ w r, w.permanent ≤ r.id → r ∉ w.references → R w (w.discard r)) (w : World B)
    {refs : List Ref} (hrefs : ∀ r ∈ refs, w.permanent ≤ r.id ∧ r ∉ w.references) :
    R w (refs.foldl discard w) := by
  induction refs generalizing w with
  | nil => exact hrefl w
  | cons r rest ih =>
      obtain ⟨hr, hrest⟩ := List.forall_mem_cons.mp hrefs
      refine htrans (hdiscard w r hr.1 hr.2) (ih (w.discard r) fun r' hr' => ?_)
      obtain ⟨hpermanent, hfree⟩ := hrest r' hr'
      exact ⟨discard_permanent w r ▸ hpermanent, fun h => hfree (discard_references w r h)⟩

/-- A collection lets go objects one after the other, none of which anything refers to. -/
theorem collect_within (hrefl : ∀ w, R w w)
    (htrans : ∀ {w w₁ w₂}, R w w₁ → R w₁ w₂ → R w w₂)
    (hdiscard : ∀ w r, w.permanent ≤ r.id → r ∉ w.references → R w (w.discard r)) (w : World B) :
    R w w.collect := by
  have hrounds : ∀ rounds w, R w (collectRounds rounds w) := by
    intro rounds
    induction rounds with
    | zero => exact hrefl
    | succ rounds ih =>
        intro w
        rw [collectRounds]
        split
        · exact hrefl w
        · refine htrans (foldl_discard_within hrefl htrans hdiscard w fun r hr => ?_) (ih _)
          obtain ⟨-, hpermanent, hfree, -⟩ := mem_garbage_iff.mp hr
          exact ⟨hpermanent, hfree⟩
  exact hrounds w.heap.size w

end Steps

/-- How many objects there are. -/
def live (w : World B) : Nat := w.heap.slots.countP Option.isSome

omit [ObjectBody B] in
theorem live_le_size (w : World B) : w.live ≤ w.heap.size := Array.countP_le_size

/-- Letting go an object that is there leaves one object fewer. -/
theorem live_discard (w : World B) {r : Ref} (h : (w.heap.get? r).isSome) :
    (w.discard r).live + 1 = w.live := by
  obtain ⟨node, hnode⟩ := Option.isSome_iff_exists.mp h
  have hlt : r.id < w.heap.slots.size := Heap.lt_size_of_get? hnode
  have hslot : w.heap.slots[r.id] = some node := by
    unfold Heap.get? at hnode
    rw [Array.getElem?_eq_getElem hlt] at hnode
    exact hnode
  have hpos : 0 < w.live := Array.countP_pos_iff.mpr
    ⟨some node, hslot ▸ Array.getElem_mem hlt, rfl⟩
  have herase : (w.discard r).live = w.live - 1 := by
    unfold live
    rw [discard_heap, Heap.erase, Array.setIfInBounds, dif_pos hlt, Array.countP_set, hslot]
    simp
  omega

theorem live_discard_le (w : World B) (r : Ref) : (w.discard r).live ≤ w.live := by
  cases h : w.heap.get? r with
  | none =>
      have hsame : w.discard r = w := by
        unfold discard
        rw [h]
      exact Nat.le_of_eq (congrArg live hsame)
  | some node =>
      have hless := w.live_discard (r := r) (by rw [h]; rfl)
      omega

theorem live_foldl_discard_le (w : World B) (refs : List Ref) :
    (refs.foldl discard w).live ≤ w.live := by
  induction refs generalizing w with
  | nil => exact Nat.le_refl _
  | cons r rest ih => exact Nat.le_trans (ih _) (live_discard_le w r)

/-- Each round removes an object, so enough rounds leave nothing that could go. -/
theorem garbage_collectRounds (rounds : Nat) (w : World B) (h : w.live ≤ rounds) :
    (collectRounds rounds w).garbage = [] := by
  induction rounds generalizing w with
  | zero =>
      refine List.eq_nil_iff_forall_not_mem.mpr fun r hr => ?_
      have hlive := w.live_discard (mem_garbage_iff.mp hr).2.2.2
      omega
  | succ rounds ih =>
      rw [collectRounds]
      split
      · assumption
      · rename_i refs hne
        refine ih _ ?_
        cases hrefs : w.garbage with
        | nil => exact absurd hrefs hne
        | cons r rest =>
            have hr : r ∈ w.garbage := hrefs ▸ List.mem_cons_self
            have hfirst := w.live_discard (mem_garbage_iff.mp hr).2.2.2
            have hrest := live_foldl_discard_le (w.discard r) rest
            rw [List.foldl_cons]
            omega

/-- After a collection there is nothing left that could go. -/
theorem garbage_collect (w : World B) : w.collect.garbage = [] :=
  garbage_collectRounds _ w (live_le_size w)

/-- A collection neither moves the mark nor issues numbers. -/
theorem collect_mark (w : World B) :
    w.collect.mark = w.mark ∧ w.collect.heap.size = w.heap.size := by
  refine collect_within (R := fun w w' => w'.mark = w.mark ∧ w'.heap.size = w.heap.size)
    (fun _ => ⟨rfl, rfl⟩) (fun h h' => ⟨h'.1.trans h.1, h'.2.trans h.2⟩) (fun w r _ _ => ?_) w
  refine ⟨discard_mark w r, ?_⟩
  rw [discard_heap, Heap.size, Heap.erase, Array.size_setIfInBounds]
  rfl

/-- After a full collection something refers to every object that is not permanent. -/
theorem mem_references_collectAll {w : World B} {r : Ref}
    (hsome : (w.collectAll.heap.get? r).isSome) (hpermanent : w.collectAll.permanent ≤ r.id) :
    r ∈ w.collectAll.references := by
  obtain ⟨swept, hswept⟩ : ∃ swept, swept = collect { w with mark := w.heap.size } := ⟨_, rfl⟩
  have hall : w.collectAll = { swept with mark := w.mark } := by rw [hswept]; rfl
  obtain ⟨hmark, hsize⟩ := collect_mark { w with mark := w.heap.size }
  rw [← hswept] at hmark hsize
  rw [hall] at hsome hpermanent ⊢
  show r ∈ swept.references
  refine Decidable.byContradiction fun hfree => ?_
  obtain ⟨node, hnode⟩ := Option.isSome_iff_exists.mp hsome
  have hlt : r.id < swept.heap.size := Heap.lt_size_of_get? hnode
  have hgarbage : r ∈ swept.garbage := by
    refine mem_garbage_iff.mpr ⟨?_, hpermanent, hfree, hsome⟩
    rw [hmark]
    exact hsize ▸ hlt
  rw [hswept, garbage_collect] at hgarbage
  exact absurd hgarbage List.not_mem_nil

end World

end DdsBridge
