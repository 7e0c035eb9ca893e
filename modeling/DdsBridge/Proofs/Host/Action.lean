import DdsBridge.Host.Action

/-!
# What actions do to a world

The outcome of an action on a world, through the operations that build actions.

* **`Action.apply_bind`** — one action after another, with **`Action.apply_bind_of_ok`** to go
  forward and **`Action.apply_bind_eq_ok_iff`** to go back.
* **`Action.apply_attempt`**, **`Action.apply_mapError`** — what becomes of an error.
* **`Action.apply_pinning`**, **`Action.lift_eq`** — the rest.
* **`Action.Succeeds`**, **`Action.TestsAt`** — actions that succeed, and actions that go on with
  the world as it is.
-/

namespace DdsBridge.Action

variable {B ε δ α β : Type}

/-- Two actions that do the same to every world are the same. -/
theorem ext {x y : Action B ε α} (h : ∀ w, x.apply w = y.apply w) : x = y := funext h

@[simp] theorem apply_pure (a : α) (w : World B) :
    (pure a : Action B ε α).apply w = (.ok a, w) := rfl

theorem apply_bind (x : Action B ε α) (f : α → Action B ε β) (w : World B) :
    (x >>= f).apply w =
      match x.apply w with
      | (.ok a, w₁) => (f a).apply w₁
      | (.error stop, w₁) => (.error stop, w₁) := by
  show (ExceptT.bindCont f (x.apply w).1).run (x.apply w).2 = _
  rcases x.apply w with ⟨_ | a, w₁⟩
  · rfl
  · rfl

theorem apply_bind_of_ok {x : Action B ε α} {f : α → Action B ε β} {w w₁ : World B} {a : α}
    (h : x.apply w = (.ok a, w₁)) : (x >>= f).apply w = (f a).apply w₁ := by
  rw [apply_bind, h]

theorem apply_bind_of_error {x : Action B ε α} {f : α → Action B ε β} {w w₁ : World B}
    {stop : Stop ε} (h : x.apply w = (.error stop, w₁)) :
    (x >>= f).apply w = (.error stop, w₁) := by
  rw [apply_bind, h]

theorem apply_bind_eq_ok_iff {x : Action B ε α} {f : α → Action B ε β} {w w' : World B} {b : β} :
    (x >>= f).apply w = (.ok b, w') ↔
      ∃ a w₁, x.apply w = (.ok a, w₁) ∧ (f a).apply w₁ = (.ok b, w') := by
  rw [apply_bind]
  constructor
  · intro h
    split at h
    · rename_i a w₁ hx
      exact ⟨a, w₁, hx, h⟩
    · exact absurd (congrArg Prod.fst h) (by simp)
  · rintro ⟨a, w₁, hx, hf⟩
    rw [hx]
    exact hf

@[simp] theorem apply_world (w : World B) :
    (world : Action B ε (World B)).apply w = (.ok w, w) := rfl

@[simp] theorem apply_change (f : World B → World B) (w : World B) :
    (change f : Action B ε Unit).apply w = (.ok (), f w) := rfl

@[simp] theorem apply_raise (error : ε) (w : World B) :
    (raise error : Action B ε α).apply w = (.error (.raised error), w) := rfl

@[simp] theorem apply_never (w : World B) :
    (never : Action B ε α).apply w = (.error .endless, w) := rfl

theorem apply_alloc (body : B) (w : World B) :
    (alloc body : Action B ε Ref).apply w =
      (.ok (w.heap.alloc ⟨.empty, body⟩).1, { w with heap := (w.heap.alloc ⟨.empty, body⟩).2 }) :=
  rfl

theorem apply_attempt (x : Action B ε α) (w : World B) :
    (x.attempt : Action B δ (Except ε α)).apply w =
      match x.apply w with
      | (.ok a, w₁) => (.ok (.ok a), w₁)
      | (.error (.raised error), w₁) => (.ok (.error error), w₁)
      | (.error .endless, w₁) => (.error .endless, w₁) := rfl

theorem apply_attempt_of_ok {x : Action B ε α} {w w₁ : World B} {a : α}
    (h : x.apply w = (.ok a, w₁)) :
    (x.attempt : Action B δ (Except ε α)).apply w = (.ok (.ok a), w₁) := by
  rw [apply_attempt, h]

theorem apply_attempt_of_error {x : Action B ε α} {w w₁ : World B} {error : ε}
    (h : x.apply w = (.error (.raised error), w₁)) :
    (x.attempt : Action B δ (Except ε α)).apply w = (.ok (.error error), w₁) := by
  rw [apply_attempt, h]

/-- What is attempted to the end has an end. -/
theorem ne_endless_of_attempt {x : Action B ε α} {w : World B}
    (h : ((x.attempt : Action B δ (Except ε α)).apply w).1.isOk = true) :
    (x.apply w).1 ≠ .error .endless := by
  intro hends
  rw [apply_attempt] at h
  rcases hrun : x.apply w with ⟨result, w'⟩
  rw [hrun] at hends h
  cases hends
  cases h

theorem apply_attempt_eq_error {x : Action B ε α} {w w₁ : World B} {error : ε}
    (h : (x.attempt : Action B δ (Except ε α)).apply w = (.ok (.error error), w₁)) :
    x.apply w = (.error (.raised error), w₁) := by
  rw [apply_attempt] at h
  rcases hx : x.apply w with ⟨(error' | _) | a, w'⟩ <;> rw [hx] at h <;> cases h
  rfl

theorem apply_mapError (f : ε → δ) (x : Action B ε α) (w : World B) :
    (x.mapError f).apply w =
      match x.apply w with
      | (.ok a, w₁) => (.ok a, w₁)
      | (.error (.raised error), w₁) => (.error (.raised (f error)), w₁)
      | (.error .endless, w₁) => (.error .endless, w₁) := rfl

/-- A host operation inside a bridge operation. -/
theorem lift_eq (x : HostAction B α) :
    (liftM x : BridgeAction B α) = x.mapError Error.host := by
  rfl

theorem apply_lift_of_ok {x : HostAction B α} {w w₁ : World B} {a : α}
    (h : x.apply w = (.ok a, w₁)) : (liftM x : BridgeAction B α).apply w = (.ok a, w₁) := by
  rw [lift_eq, apply_mapError, h]

theorem apply_lift_of_error {x : HostAction B α} {w w₁ : World B} {error : HostError}
    (h : x.apply w = (.error (.raised error), w₁)) :
    (liftM x : BridgeAction B α).apply w = (.error (.raised (.host error)), w₁) := by
  rw [lift_eq, apply_mapError, h]

theorem apply_lift_eq_ok {x : HostAction B α} {w w₁ : World B} {a : α}
    (h : (liftM x : BridgeAction B α).apply w = (.ok a, w₁)) : x.apply w = (.ok a, w₁) := by
  rw [lift_eq, apply_mapError] at h
  rcases hx : x.apply w with ⟨(_ | _) | a', w'⟩ <;> rw [hx] at h
  · exact absurd (congrArg Prod.fst h) (by simp)
  · exact absurd (congrArg Prod.fst h) (by simp)
  · cases h
    rfl

theorem apply_andThen (x : Action B ε α) (f : World B → World B) (w : World B) :
    (x.andThen f).apply w = ((x.apply w).1, f (x.apply w).2) := rfl

/-- What is kept alive while an action runs is let go after it. -/
theorem apply_pinning (refs : List Ref) (x : Action B ε α) (w : World B) :
    (pinning refs x).apply w =
      ((x.apply { w with pinned := refs ++ w.pinned }).1,
        { (x.apply { w with pinned := refs ++ w.pinned }).2 with pinned := w.pinned }) := rfl

theorem apply_pinning_eq_ok {refs : List Ref} {x : Action B ε α} {w w' : World B} {a : α}
    (h : (pinning refs x).apply w = (.ok a, w')) :
    ∃ w₁, x.apply { w with pinned := refs ++ w.pinned } = (.ok a, w₁) ∧
      w' = { w₁ with pinned := w.pinned } := by
  rw [apply_pinning] at h
  exact ⟨(x.apply { w with pinned := refs ++ w.pinned }).2, Prod.ext (congrArg Prod.fst h :) rfl,
    (congrArg Prod.snd h).symm⟩

/-- What a frame leaves behind is collected. -/
theorem apply_framed [ObjectBody B] (x : Action B ε α) (w : World B) :
    x.framed.apply w =
      ((x.apply { w with mark := w.heap.size }).1,
        { World.collectAll
            { (x.apply { w with mark := w.heap.size }).2 with pinned := w.pinned, kept := w.kept } with
          mark := w.mark }) := rfl

/-- An action that changes nothing while it keeps something alive changes nothing at all. -/
theorem apply_pinning_of_unchanged {refs : List Ref} {x : Action B ε α} {w : World B} {a : α}
    (h : x.apply { w with pinned := refs ++ w.pinned } =
      (.ok a, { w with pinned := refs ++ w.pinned })) :
    (pinning refs x).apply w = (.ok a, w) := by
  rw [apply_pinning, h]

@[simp] theorem apply_ofExcept_ok (a : α) (w : World B) :
    (ofExcept (.ok a) : Action B ε α).apply w = (.ok a, w) := rfl

theorem apply_ofExcept_eq_ok {r : Except ε α} {w w₁ : World B} {a : α}
    (h : (ofExcept r : Action B ε α).apply w = (.ok a, w₁)) : r = .ok a ∧ w₁ = w := by
  cases r with
  | ok b =>
      cases h
      exact ⟨rfl, rfl⟩
  | error error => exact absurd (congrArg Prod.fst h) (by simp [ofExcept])

/-! ## Actions that succeed -/

theorem exists_ok_of_isOk {r : Except ε α × World B} (h : r.1.isOk = true) :
    ∃ a w, r = (.ok a, w) := by
  obtain ⟨_ | a, w⟩ := r
  · cases h
  · exact ⟨a, w, rfl⟩

/-- An action that ends with a value in every world. -/
def Succeeds (x : Action B ε α) : Prop := ∀ w, ∃ a w', x.apply w = (.ok a, w')

namespace Succeeds

theorem pure (a : α) : Succeeds (Pure.pure a : Action B ε α) := fun w => ⟨a, w, rfl⟩

theorem change (f : World B → World B) : Succeeds (Action.change f : Action B ε Unit) :=
  fun w => ⟨(), f w, rfl⟩

theorem alloc (body : B) : Succeeds (Action.alloc body : Action B ε Ref) :=
  fun w => ⟨_, _, apply_alloc body w⟩

theorem bind {x : Action B ε α} {f : α → Action B ε β} (hx : Succeeds x)
    (hf : ∀ a, Succeeds (f a)) : Succeeds (x >>= f) := by
  intro w
  obtain ⟨a, w₁, hrun⟩ := hx w
  rw [apply_bind_of_ok hrun]
  exact hf a w₁

theorem world {f : World B → Action B ε β} (hf : ∀ w, Succeeds (f w)) :
    Succeeds (Action.world >>= f) :=
  fun w => hf w w

/-- A loop over a list. -/
theorem forIn {f : α → β → Action B ε (ForInStep β)} (hf : ∀ a b, Succeeds (f a b)) (as : List α)
    (b : β) : Succeeds (ForIn.forIn as b f) := by
  induction as generalizing b with
  | nil => exact pure b
  | cons a rest ih =>
      rw [List.forIn_cons]
      refine bind (hf a b) fun step => ?_
      cases step with
      | done b => exact pure b
      | yield b => exact ih b

end Succeeds

/-! ## Actions that only test -/

/-- An action that goes on with the world as it is, or fails; what it did then belongs to a
relation. -/
def TestsAt (R : World B → World B → Prop) (x : Action B ε α) (w : World B) : Prop :=
  (∃ a, x.apply w = (.ok a, w)) ∨
    ∃ error w₁, x.apply w = (.error (.raised error), w₁) ∧ R w w₁

namespace TestsAt

variable {R S : World B → World B → Prop} {w : World B}

theorem mono {x : Action B ε α} (h : x.TestsAt R w) (hRS : ∀ {w'}, R w w' → S w w') :
    x.TestsAt S w :=
  h.imp_right fun ⟨error, w₁, hx, hR⟩ => ⟨error, w₁, hx, hRS hR⟩

theorem of_ok {x : Action B ε α} {a : α} (h : x.apply w = (.ok a, w)) : x.TestsAt R w :=
  .inl ⟨a, h⟩

/-- An action that fails and changes nothing. -/
theorem of_error {x : Action B ε α} {error : ε} (h : x.apply w = (.error (.raised error), w)) :
    x.TestsAt Eq w :=
  .inr ⟨error, w, h, rfl⟩

/-- What holds of an action that follows a test, and of the test where it fails. -/
theorem followed {x : Action B ε α} {f : α → Action B ε β}
    {K : Except (Stop ε) β × World B → Prop} (hx : x.TestsAt R w)
    (hf : ∀ a, x.apply w = (.ok a, w) → K ((f a).apply w))
    (hfails : ∀ error w₁, R w w₁ → K (.error (.raised error), w₁)) : K ((x >>= f).apply w) := by
  rcases hx with ⟨a, ha⟩ | ⟨error, w₁, herror, hR⟩
  · rw [apply_bind_of_ok ha]
    exact hf a ha
  · rw [apply_bind_of_error herror]
    exact hfails error w₁ hR

/-- What follows a test may depend on what the test found. -/
theorem bind {x : Action B ε α} {f : α → Action B ε β} (hx : x.TestsAt R w)
    (hf : ∀ a, x.apply w = (.ok a, w) → (f a).TestsAt R w) : (x >>= f).TestsAt R w :=
  hx.followed (K := fun result => (∃ b, result = (.ok b, w)) ∨
      ∃ error w₁, result = (.error (.raised error), w₁) ∧ R w w₁)
    hf fun error w₁ hR => .inr ⟨error, w₁, rfl, hR⟩

/-- The outcome of a test that changes nothing. -/
theorem attempt {x : Action B ε α} (hx : x.TestsAt Eq w) :
    (x.attempt : Action B δ (Except ε α)).TestsAt R w := by
  rcases hx with ⟨a, ha⟩ | ⟨error, _, herror, rfl⟩
  · exact of_ok (apply_attempt_of_ok ha)
  · refine of_ok (a := .error error) ?_
    rw [apply_attempt, herror]

theorem mapError {x : Action B ε α} (hx : x.TestsAt R w) (f : ε → δ) :
    (x.mapError f).TestsAt R w := by
  rcases hx with ⟨a, ha⟩ | ⟨error, w₁, herror, hR⟩
  · refine of_ok (a := a) ?_
    rw [apply_mapError, ha]
  · refine .inr ⟨f error, w₁, ?_, hR⟩
    rw [apply_mapError, herror]

/-- A host operation inside a bridge operation. -/
theorem lift {x : HostAction B α} (hx : x.TestsAt R w) :
    (liftM x : BridgeAction B α).TestsAt R w :=
  hx.mapError Error.host

theorem ofExcept (r : Except ε α) : (Action.ofExcept r : Action B ε α).TestsAt Eq w := by
  cases r with
  | ok a => exact of_ok rfl
  | error error => exact of_error rfl

end TestsAt

end DdsBridge.Action
