import DdsBridge.Bridge.Policies
import DdsBridge.Proofs.Bridge.Carries
import DdsBridge.Proofs.Host.Memory.Footing
import DdsBridge.Proofs.Bridge.Ready

/-!
# Reading a quality of service

Reading a quality of service only looks at objects, with one exception. The failure of a number that
lies beyond the host's native numbers shows the number as the host writes it, and a class of numbers
can have a method for that, which is host code. Where there is no such number the world stays as it
is.

* **`Memory.Scripted`** — objects whose text is host code's.
* **`Policies.Legible`** — no number of a quality of service needs host code.
* **`Policies.endpointQos_tests`** — reading such a quality of service leaves the world as it is.
-/

namespace DdsBridge

open Memory

variable {C : Type} {inner : Host (Body C)} {w : World (Body C)}

namespace Memory

/-- The class of an object has a method for its text. -/
def Scripted (w : World (Body C)) (obj : Ref) : Prop :=
  ∃ cls value, body? w obj = some (.instance cls value) ∧ (lookupInClass w cls "__str__").isSome

/-- The text of a number without a method for it. -/
theorem strOf_tests {obj : Ref} (hnumber : (intValue? w obj).isSome) (hplain : ¬Scripted w obj) :
    (strOf inner obj : MemoryAction C String).TestsAt Eq w := by
  unfold strOf
  refine .bind (.of_ok (Action.apply_world w)) fun _ h => ?_
  cases h
  have hkind : (strByKind inner obj : MemoryAction C String).TestsAt Eq w := by
    unfold strByKind
    refine .bind (.of_ok (Action.apply_world w)) fun _ h => ?_
    cases h
    rw [intValue?] at hnumber
    cases hbody : body? w obj with
    | none =>
        rw [hbody] at hnumber
        cases hnumber
    | some body =>
        rw [hbody] at hnumber
        cases body with
        | bool b => exact .of_ok rfl
        | int n => exact .of_ok rfl
        | «instance» cls value =>
            cases value with
            | some n => exact .of_ok rfl
            | none => cases hnumber
        | _ => cases hnumber
  cases hbody : body? w obj with
  | none => exact hkind
  | some body =>
      cases body with
      | «instance» cls value =>
          dsimp only
          cases hmethod : lookupInClass w cls "__str__" with
          | none => exact hkind
          | some method => exact absurd ⟨cls, value, hbody, by rw [hmethod]; rfl⟩ hplain
      | _ => exact hkind

end Memory

namespace Marshal

/-- The host's native numbers among which those of a kind are looked for first. -/
def nativeKind (kind : IntKind) : IntKind := if kind.isSigned then .i64 else .u64

/-- A number is read or missing. -/
theorem asBounded_tests (least greatest : Int) (low high : String) (obj : Ref) :
    (asBounded least greatest low high obj : MemoryAction C Int).TestsAt Eq w := by
  unfold asBounded
  refine .bind (.of_ok (Action.apply_world w)) fun _ h => ?_
  cases h
  cases intValue? w obj with
  | none => exact .of_error rfl
  | some n =>
      dsimp only
      split
      · exact .of_error rfl
      · split
        · exact .of_error rfl
        · exact .of_ok rfl

/-- What is said to be too small or too large is a number that is. -/
theorem asBounded_overflow {least greatest : Int} {low high : String} {obj : Ref} {error : HostError}
    {w' : World (Body C)}
    (h : (asBounded least greatest low high obj : MemoryAction C Int).apply w =
      (.error (.raised error), w'))
    (hoverflow : error.kind = .overflow) :
    ∃ n, intValue? w obj = some n ∧ ¬(least ≤ n ∧ n ≤ greatest) := by
  rw [asBounded, Action.apply_bind_of_ok (Action.apply_world w)] at h
  cases hvalue : intValue? w obj with
  | none =>
      rw [hvalue] at h
      cases h
      exact absurd hoverflow (by simp [notAnInteger, HostError.type])
  | some n =>
      rw [hvalue] at h
      dsimp only at h
      refine ⟨n, rfl, fun hbounds => ?_⟩
      rw [if_neg (by omega), if_neg (by omega)] at h
      cases h

/-- No object is too large for a floating-point number. -/
theorem asFloat_cases (obj : Ref) :
    (∃ x, (asFloat obj : MemoryAction C Number.Binary64).apply w = (.ok x, w)) ∨
      ∃ error, (asFloat obj : MemoryAction C Number.Binary64).apply w =
        (.error (.raised error), w) ∧ error.kind ≠ .overflow := by
  rw [asFloat, Action.apply_bind_of_ok (Action.apply_world w)]
  split
  · exact .inl ⟨_, rfl⟩
  · split
    · exact .inl ⟨_, rfl⟩
    · exact .inr ⟨_, rfl, by simp [HostError.type]⟩

variable [HostCode C] {invoke : C → List Ref → MemoryAction C Ref}

/-- The number of an object, as the host reads numbers of a kind. -/
def asNative (inner : Host (Body C)) (invoke : C → List Ref → MemoryAction C Ref) (kind : IntKind)
    (obj : Ref) : MemoryAction C Int :=
  if kind.isSigned then (host inner invoke).asSigned obj else (host inner invoke).asUnsigned obj

theorem asNative_tests (kind : IntKind) (obj : Ref) :
    (asNative inner invoke kind obj).TestsAt Eq w := by
  unfold asNative
  split
  · exact asBounded_tests ..
  · exact asBounded_tests ..

/-- What is said to be too small or too large is beyond the native numbers. -/
theorem asNative_overflow {kind : IntKind} {obj : Ref} {error : HostError} {w' : World (Body C)}
    (h : (asNative inner invoke kind obj).apply w = (.error (.raised error), w'))
    (hoverflow : error.kind = .overflow) :
    ∃ n, intValue? w obj = some n ∧ ¬(nativeKind kind).holds n = true := by
  -- the host reads numbers of 64 bits, whatever the kind
  have hsigned : IntKind.i64.least = Int64.minValue.toInt ∧
      IntKind.i64.greatest = Int64.maxValue.toInt := by decide
  have hunsigned : IntKind.u64.least = 0 ∧ IntKind.u64.greatest = UInt64.size - 1 := by decide
  unfold asNative at h
  split at h
  · rename_i hkind
    obtain ⟨n, hn, hbeyond⟩ := asBounded_overflow h hoverflow
    exact ⟨n, hn, by rwa [nativeKind, if_pos hkind, IntKind.holds_iff, hsigned.1, hsigned.2]⟩
  · rename_i hkind
    obtain ⟨n, hn, hbeyond⟩ := asBounded_overflow h hoverflow
    exact ⟨n, hn, by rwa [nativeKind, if_neg hkind, IntKind.holds_iff, hunsigned.1, hunsigned.2]⟩

/-- The text in a failure is found without a change. -/
theorem numberText_tests {obj : Ref} (hnumber : (intValue? w obj).isSome)
    (hplain : ¬Scripted w obj) :
    (numberText (host inner invoke) obj).TestsAt Eq w := by
  refine .bind (.attempt (strOf_tests hnumber hplain)) fun text _ => ?_
  cases text with
  | ok text => exact .of_ok rfl
  | error error => exact .of_ok rfl

/-- A failure is told without a change, unless it shows a number with a text that is host code's. -/
theorem numberFailure_tests {α : Type} (target : String) {obj : Ref} {error : HostError}
    (hplain : error.kind = .overflow → (intValue? w obj).isSome ∧ ¬Scripted w obj) :
    (numberFailure (host inner invoke) target obj error :
      BridgeAction (Body C) α).TestsAt Eq w := by
  unfold numberFailure
  split
  · rename_i hoverflow
    obtain ⟨hnumber, hplain⟩ := hplain hoverflow
    exact .bind (numberText_tests hnumber hplain) fun _ _ => .of_error rfl
  · exact .of_error rfl
  · exact .of_error rfl

/-- A whole number is read without a change, unless it is beyond the native numbers and its text is
host code's. -/
theorem intFromHost_tests (kind : IntKind) {obj : Ref}
    (hlegible : ∀ n, intValue? w obj = some n → Scripted w obj → (nativeKind kind).holds n = true) :
    (intFromHost (host inner invoke) kind obj).TestsAt Eq w := by
  refine .bind (.attempt (asNative_tests kind obj)) fun result hresult => ?_
  cases result with
  | error error =>
      refine numberFailure_tests kind.name fun hoverflow => ?_
      obtain ⟨n, hn, hbeyond⟩ :=
        asNative_overflow (Action.apply_attempt_eq_error hresult) hoverflow
      exact ⟨by rw [hn]; rfl, fun hscripted => hbeyond (hlegible n hn hscripted)⟩
  | ok n =>
      dsimp only
      split
      · exact .of_ok rfl
      · exact .of_error rfl

/-- A floating-point number is read without a change. -/
theorem floatFromHost_tests (obj : Ref) :
    (floatFromHost (host inner invoke) obj).TestsAt Eq w := by
  have hreads : (asFloat obj : MemoryAction C Number.Binary64).TestsAt Eq w :=
    (asFloat_cases obj).imp_right fun h => h.imp fun _ herror => ⟨w, herror.1, rfl⟩
  refine .bind (.attempt hreads) fun result hresult => ?_
  cases result with
  | error error =>
      refine numberFailure_tests "f64" fun hoverflow => ?_
      have hfails := Action.apply_attempt_eq_error hresult
      rcases asFloat_cases (w := w) obj with ⟨x, hx⟩ | ⟨_, herror, hkind⟩
      · cases hx.symm.trans hfails
      · cases herror.symm.trans hfails
        exact absurd hoverflow hkind
  | ok x => exact .of_ok rfl

end Marshal

namespace Policies

/-- The numbers of a quality of service: the policy, the attribute of the policy, and the kind of
number. -/
def numbers : List (String × String × IntKind) :=
  [("durability", "kind", .u32), ("reliability", "kind", .u32), ("history", "kind", .u32),
    ("history", "depth", .i32)]

/-- No number of a quality of service that is beyond the host's native numbers has a text that is
host code's. -/
def Legible (w : World (Body C)) (qos : Ref) : Prop :=
  ∀ policy attr kind, (policy, attr, kind) ∈ numbers → ∀ obj number n,
    lookup w qos policy = some obj → lookup w obj attr = some number →
      intValue? w number = some n → Scripted w number → (Marshal.nativeKind kind).holds n = true

variable [HostCode C] {invoke : C → List Ref → MemoryAction C Ref} {qos obj : Ref} {policy : String}

theorem readKind_tests {K : Type} (hlegible : Legible w qos)
    (hpolicy : (policy, "kind", IntKind.u32) ∈ numbers) (hobj : lookup w qos policy = some obj)
    (target : String) (ofRank? : Nat → Option K) :
    (readKind (host inner invoke) obj target ofRank?).TestsAt Eq w := by
  refine .bind (.lift (getAttr_tests obj "kind")) fun number hnumber => ?_
  obtain ⟨-, hnumber⟩ := getAttr_eq_ok (Action.apply_lift_eq_ok hnumber)
  refine .bind (Marshal.intFromHost_tests .u32 fun n =>
    hlegible policy "kind" .u32 hpolicy obj number n hobj hnumber) fun rank _ => ?_
  split
  · exact .of_ok rfl
  · exact .of_error rfl

/-- Reading a quality of service, in which no number needs host code, leaves the world as it is. -/
theorem endpointQos_tests (default : EndpointQos) (qos : Option Ref)
    (hlegible : ∀ obj ∈ qos, Legible w obj) :
    (endpointQos (host inner invoke) default qos).TestsAt Eq w := by
  cases qos with
  | none => exact .of_ok rfl
  | some qos =>
      have hlegible := hlegible qos rfl
      show Action.TestsAt Eq (if qos = (host inner invoke).none then pure default else _) w
      split
      · exact .of_ok rfl
      -- each policy is an attribute of the object, and is read on its own
      refine .bind ?durability fun durability _ => .bind ?reliability fun reliability _ =>
        .bind ?history fun history _ => .of_ok rfl
      case durability =>
        refine .bind (.lift (getAttr_tests qos "durability")) fun policy hpolicy => ?_
        obtain ⟨-, hpolicy⟩ := getAttr_eq_ok (Action.apply_lift_eq_ok hpolicy)
        exact readKind_tests hlegible (by decide) hpolicy _ _
      case reliability =>
        refine .bind (.lift (getAttr_tests qos "reliability")) fun policy hpolicy => ?_
        obtain ⟨-, hpolicy⟩ := getAttr_eq_ok (Action.apply_lift_eq_ok hpolicy)
        refine .bind (.lift (getAttr_tests policy "max_blocking_time")) fun time _ => ?_
        refine .bind (Marshal.floatFromHost_tests time) fun seconds _ => ?_
        refine .bind (readKind_tests hlegible (by decide) hpolicy _ _) fun kind _ => ?_
        exact .bind (.ofExcept _) fun _ _ => .of_ok rfl
      case history =>
        refine .bind (.lift (getAttr_tests qos "history")) fun policy hpolicy => ?_
        obtain ⟨-, hpolicy⟩ := getAttr_eq_ok (Action.apply_lift_eq_ok hpolicy)
        refine .bind (readKind_tests hlegible (by decide) hpolicy _ _) fun kind _ => ?_
        refine .bind (.lift (getAttr_tests policy "depth")) fun number hnumber => ?_
        obtain ⟨-, hnumber⟩ := getAttr_eq_ok (Action.apply_lift_eq_ok hnumber)
        refine .bind (Marshal.intFromHost_tests .i32 fun n =>
          hlegible "history" "depth" .i32 (by decide) policy number n hpolicy hnumber)
          fun depth _ => ?_
        dsimp only
        split
        · exact .of_ok rfl
        · exact .of_error rfl

end Policies

end DdsBridge
