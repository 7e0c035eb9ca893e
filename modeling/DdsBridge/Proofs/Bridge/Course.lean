import DdsBridge.Proofs.Bridge.Within
import DdsBridge.Proofs.Provider.Delivery
import DdsBridge.Proofs.Provider.TypeNames

/-!
# The course of an operation

An operation that only looks at objects runs host code for their texts, and host code can do
anything, bridge operations included. Its course tells the runs of host code from the stretches in
between, in which the provider idles: it takes back holds on entities, and nothing else.

* **`Provider.State.Idles`** — the provider only takes back holds on entities.
* **`Idles.inbox`**, **`Idles.history`**, **`Idles.goes`** — no queue and no history changes
  meanwhile, and no entity becomes another.
* **`World.Course`** — a course, with its runs of host code.
* **`World.Course.idles`** — if the runs leave the provider idle, so does the whole course.
-/

namespace DdsBridge

open Provider

/-! ## An idle provider -/

/-- The provider takes back holds on entities, clears the calls that it made and ends waits. -/
inductive Provider.State.Idles : State → State → Prop where
  | refl (s : State) : Idles s s
  | release {s t : State} (h : Handle) : Idles s t → Idles s (t.release h)
  | settle {s t : State} (ended : List WaitSetId) :
    Idles s t → Idles s ({ t with calls := [] }.leaveAll ended)

namespace Provider.State

/-- A part of the entities that neither a hold on them nor the loss of a participant touches. -/
theorem release_look {β : Type} {view : Record → Option β} {s : State}
    (hview : ∀ r refs, view { r with refs } = view r) (h k : Handle)
    (hparticipant : ∀ r, s.entities.get? h = some r → r.kind = .participant → view r = none) :
    ((s.release h).entities.get? k).bind view = (s.entities.get? k).bind view := by
  unfold release
  cases hr : s.entities.get? h with
  | none => rfl
  | some r =>
      have hkept : Agree view s (s.modifyEntity h fun r => { r with refs := r.refs - 1 }) :=
        agree_modifyEntity s h fun r => hview r _
      dsimp only
      split
      · rename_i hgone
        rw [remove_get?]
        split
        · rename_i hk
          rw [hk, hr]
          exact (hparticipant r hr hgone.2.1).symm
        · exact hkept.bind k
      · exact hkept.bind k

namespace Idles

variable {s s' s'' : State}

theorem trans (h : s.Idles s') (h' : s'.Idles s'') : s.Idles s'' := by
  induction h' with
  | refl => exact h
  | release handle _ ih => exact .release handle ih
  | settle ended _ ih => exact .settle ended ih

theorem of_eq (h : s' = s) : s.Idles s' := h ▸ .refl s

/-- What is there while the provider idles was there as it is. -/
theorem goes (h : s.Idles s') : s.Goes s' := by
  induction h with
  | refl => exact .refl _
  | @release t handle _ ih => exact ih.trans (State.perform_goes (fun _ => true) (.release handle) t)
  | @settle t ended _ ih =>
      have hlast := State.leaveAll_lastId { t with calls := [] } ended
      exact ih.trans (.of_entities (State.leaveAll_entities _ ended) (Nat.le_of_eq hlast.symm))

/-- Such a part does not change while the provider idles. That a participant is known by its body as
well as by its kind can be used where nothing dangled at first. -/
theorem look {β : Type} {view : Record → Option β} (hview : ∀ r refs, view { r with refs } = view r)
    (hparticipant : ∀ r : Record, r.kind = .participant →
      (s.WellFormed → r.kind = r.body.kind) → view r = none)
    (h : s.Idles s') (k : Handle) :
    (s'.entities.get? k).bind view = (s.entities.get? k).bind view := by
  induction h with
  | refl => rfl
  | release handle before ih =>
      refine (release_look hview handle k fun r hr hkind => ?_).trans ih
      exact hparticipant r hkind fun hwf => (before.goes hwf).1.sorted hr
  | settle ended _ ih =>
      rw [← ih]
      exact congrArg (fun t => (t.get? k).bind view) (leaveAll_entities _ ended)

/-- No reader's queue changes while the provider idles. -/
theorem inbox (h : s.Idles s') (hwf : s.WellFormed) (k : Handle) : s'.inbox k = s.inbox k := by
  refine h.look (fun _ _ => rfl) (fun r hr hsorted => ?_) k
  obtain ⟨_, _, _, _, _, _, body⟩ := r
  have hkind := (hsorted hwf).symm.trans hr
  cases body <;> first | rfl | exact absurd hkind (by simp [Provider.Body.kind])

/-- No writer's history changes while the provider idles. -/
theorem history (h : s.Idles s') (hwf : s.WellFormed) (k : Handle) :
    s'.history k = s.history k := by
  refine h.look (fun _ _ => rfl) (fun r hr hsorted => ?_) k
  obtain ⟨_, _, _, _, _, _, body⟩ := r
  have hkind := (hsorted hwf).symm.trans hr
  cases body <;> first | rfl | exact absurd hkind (by simp [Provider.Body.kind])

/-- An entity that is no participant stays while the provider idles. -/
theorem stays (h : s.Idles s') {e : Handle} {record : Record}
    (hrecord : s.entities.get? e = some record) (hkind : record.kind ≠ .participant) :
    ∃ record', s'.entities.get? e = some record' ∧ record'.kind = record.kind := by
  let view (r : Record) : Option EntityKind := if r.kind = .participant then none else some r.kind
  have hlook : (s'.entities.get? e).bind view = (s.entities.get? e).bind view :=
    h.look (fun _ _ => rfl) (fun _ hr _ => if_pos hr) e
  rw [hrecord, Option.bind_some, show view record = some record.kind from if_neg hkind] at hlook
  obtain ⟨record', hrecord', hview⟩ := Option.bind_eq_some_iff.mp hlook
  refine ⟨record', hrecord', ?_⟩
  dsimp only [view] at hview
  split at hview
  · exact absurd hview (by simp)
  · exact Option.some.inj hview

end Idles

end Provider.State

/-! ## Courses -/

namespace World

/-- A run of host code: a call, or the text of an object. -/
inductive HostRun {B : Type} (inner : Host B) : World B → World B → Prop where
  | call (w : World B) (callable : Ref) (args : List Ref) :
    HostRun inner w ((inner.call callable args).apply w).2
  | text (w : World B) (obj : Ref) : HostRun inner w ((inner.strOf obj).apply w).2

/-- The course of an operation: runs of host code, each with the world before it and the world after
it, and stretches in between in which the provider idles. -/
inductive Course {B : Type} (inner : Host B) : List (World B × World B) → World B → World B → Prop
    where
  | done {w w' : World B} : w.provider.Idles w'.provider → Course inner [] w w'
  | run {w w₁ w₂ w' : World B} {runs : List (World B × World B)} :
    w.provider.Idles w₁.provider → HostRun inner w₁ w₂ → Course inner runs w₂ w' →
      Course inner ((w₁, w₂) :: runs) w w'

namespace Course

variable {B : Type} {inner : Host B} {w w₁ w₂ : World B} {runs more : List (World B × World B)}

theorem before (hidle : w.provider.Idles w₁.provider) (h : Course inner runs w₁ w₂) :
    Course inner runs w w₂ := by
  cases h with
  | done h => exact .done (hidle.trans h)
  | run h hrun hrest => exact .run (hidle.trans h) hrun hrest

theorem append (h : Course inner runs w w₁) (h' : Course inner more w₁ w₂) :
    Course inner (runs ++ more) w w₂ := by
  induction h with
  | done hidle => exact h'.before hidle
  | run hidle hrun _ ih => exact .run hidle hrun (ih h')

/-- If no run of host code does more to the provider than let it idle, nothing else does. -/
theorem idles (h : Course inner runs w w₁)
    (hruns : ∀ run ∈ runs, run.1.provider.Idles run.2.provider) :
    w.provider.Idles w₁.provider := by
  induction h with
  | done hidle => exact hidle
  | run hidle _ _ ih =>
      obtain ⟨hrun, hrest⟩ := List.forall_mem_cons.mp hruns
      exact (hidle.trans hrun).trans (ih hrest)

end Course

variable {B : Type} [ObjectBody B] {Plain : B → Prop} {Free : String → Prop}

/-- With a capsule the provider takes back a hold, and nothing else happens to it. -/
theorem discard_idles (w : World B) (r : Ref) : w.provider.Idles (w.discard r).provider := by
  cases h : w.heap.get? r with
  | none => rw [discard_of_gone h]; exact .refl _
  | some node =>
      rw [discard_of_get? h]
      split
      · rename_i capsule _
        obtain ⟨provider, callbacks, pending, events, waits, heq, -, hprovider⟩ :=
          releaseCapsule_eq { w with heap := w.heap.erase r } capsule
        rw [heq]
        rcases hprovider with ⟨-, ended, hended⟩ | ⟨-, hsame⟩
        · show w.provider.Idles provider
          rw [hended]
          exact .settle ended (.release capsule.handle (.refl _))
        · exact .of_eq hsame
      · exact .refl _

/-- To have a course is a relation that whatever happens beside the provider belongs to. -/
theorem steady_course (inner : Host B) :
    World.Steady Plain Free fun w w' : World B => ∃ runs, Course inner runs w w' where
  trans := fun ⟨_, h⟩ ⟨_, h'⟩ => ⟨_, h.append h'⟩
  quiet := fun h => ⟨[], .done (.of_eq h.provider)⟩
  discard := fun {w r} _ _ => ⟨[], .done (discard_idles w r)⟩

omit [ObjectBody B] in
theorem HostRun.course {inner : Host B} {w w' : World B} (h : HostRun inner w w') :
    ∃ runs, Course inner runs w w' :=
  ⟨[(w, w')], .run (.refl _) h (.done (.refl _))⟩

end World

end DdsBridge
