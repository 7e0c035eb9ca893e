import DdsBridge.Idl.Catalog
import DdsBridge.Proofs.Bridge.Marshal
import DdsBridge.Proofs.Bridge.Policies
import DdsBridge.Session.Run

/-!
# Whole numbers from the host

The host narrows a whole number to 64 bits, and the bounds of the kind are tested on what is left.
Together this is one test of the number against the bounds of the kind. The failure of a number that
is too large shows the number as the host writes it; a class of numbers may have a method for that,
and where the method fails the failure is still that of the range. Only a method that does not end
leaves the conversion without an answer.

* **`Memory.HasNumber`** — the whole number that an object stands for.
* **`Marshal.intFromHost_of_outside`**, **`Marshal.intFromHost_of_no_number`** — numbers that are
  refused.
* **`Marshal.NumberVerdict`** — how reading a number ends, by the number and the kind.
* **`Marshal.fromHost_tells_of_number`** — whole numbers and enumerators.
-/

namespace DdsBridge

open Memory

variable {C : Type} {inner : Host (Body C)} {w w' : World (Body C)} {obj : Ref} {kind : IntKind}
variable {n : Int}

namespace Memory

/-- The whole number that an object stands for: a number, a truth value, or an instance of a class of
whole numbers. -/
inductive HasNumber (w : World (Body C)) (obj : Ref) : Int → Prop
  | number {n : Int} (h : body? w obj = some (.int n)) : HasNumber w obj n
  | yes (h : body? w obj = some (.bool true)) : HasNumber w obj 1
  | no (h : body? w obj = some (.bool false)) : HasNumber w obj 0
  | member {cls : Ref} {n : Int} (h : body? w obj = some (.instance cls (some n))) : HasNumber w obj n

theorem intValue?_eq_some_iff : intValue? w obj = some n ↔ HasNumber w obj n := by
  constructor
  · intro h
    unfold intValue? at h
    split at h
    · rename_i m hbody
      cases h
      exact .number hbody
    · rename_i b hbody
      cases h
      cases b with
      | true => exact .yes hbody
      | false => exact .no hbody
    · rename_i cls value hbody
      cases h
      exact .member hbody
    · cases h
  · intro h
    unfold intValue?
    cases h with
    | number h => rw [h]
    | yes h => rw [h]; rfl
    | no h => rw [h]; rfl
    | member h => rw [h]

theorem intValue?_eq_none_iff : intValue? w obj = none ↔ ∀ n, ¬HasNumber w obj n := by
  constructor
  · intro h n hn
    cases h.symm.trans (intValue?_eq_some_iff.mpr hn)
  · intro h
    cases hvalue : intValue? w obj with
    | none => rfl
    | some n => exact absurd (intValue?_eq_some_iff.mp hvalue) (h n)

/-- An object stands for one number. -/
theorem HasNumber.unique {m : Int} (hn : HasNumber w obj n) (hm : HasNumber w obj m) : m = n :=
  Option.some.inj
    ((intValue?_eq_some_iff.mpr hm).symm.trans (intValue?_eq_some_iff.mpr hn))

end Memory

namespace Marshal

/-! ## The host's native numbers -/

theorem asBounded_of_beyond {least greatest : Int} {low high : String}
    (hvalue : intValue? w obj = some n) (hbeyond : ¬(least ≤ n ∧ n ≤ greatest)) :
    ∃ error, (asBounded least greatest low high obj : MemoryAction C Int).apply w =
      (.error (.raised error), w) ∧ error.kind = .overflow := by
  rw [asBounded, Action.apply_bind_of_ok (Action.apply_world w), hvalue]
  dsimp only
  split
  · exact ⟨_, rfl, rfl⟩
  · rw [if_pos (by omega)]
    exact ⟨_, rfl, rfl⟩

theorem asBounded_of_no_number {least greatest : Int} {low high : String}
    (hvalue : intValue? w obj = none) :
    (asBounded least greatest low high obj : MemoryAction C Int).apply w =
      (.error (.raised (notAnInteger w obj)), w) := by
  rw [asBounded, Action.apply_bind_of_ok (Action.apply_world w), hvalue]
  rfl

/-! ## How a conversion ends -/

/-- How reading a whole number of a kind ends: with the number if it lies within the kind's bounds, with
a range error that names the kind if it lies outside, with a type error if the object stands for no
number, and never with a failure of the host. It has no end only if a method that the object's class
has for its text has none. -/
structure NumberVerdict (inner : Host (Body C)) (w : World (Body C)) (obj : Ref) (kind : IntKind)
    (result : Except (Stop Error) Value) : Prop where
  accepts : ∀ v, result = .ok v ↔
    ∃ n, HasNumber w obj n ∧ (kind.least ≤ n ∧ n ≤ kind.greatest) ∧ v = .int n
  outside : ∀ target, (∃ text, result = .error (.raised (.range ⟨target, text⟩))) ↔
    (∃ n, HasNumber w obj n ∧ ¬(kind.least ≤ n ∧ n ≤ kind.greatest)) ∧ target = kind.name ∧
      result ≠ .error .endless
  noNumber : (∃ message, result = .error (.raised (.type message))) ↔ ∀ n, ¬HasNumber w obj n
  notHost : ∀ error, result ≠ .error (.raised (.host error))
  ends : result = .error .endless → Scripted w obj ∧ ((strOf inner obj).apply w).1 = .error .endless

namespace NumberVerdict

theorem of_holds (hn : HasNumber w obj n) (hholds : kind.holds n = true) :
    NumberVerdict inner w obj kind (.ok (.int n)) where
  accepts v := by
    constructor
    · rintro ⟨⟩
      exact ⟨n, hn, IntKind.holds_iff.mp hholds, rfl⟩
    · rintro ⟨m, hm, -, rfl⟩
      rw [hn.unique hm]
  outside target := by
    constructor
    · rintro ⟨text, ⟨⟩⟩
    · rintro ⟨⟨m, hm, houtside⟩, -⟩
      exact absurd (IntKind.holds_iff.mp hholds) (hn.unique hm ▸ houtside)
  noNumber := by
    constructor
    · rintro ⟨message, ⟨⟩⟩
    · intro hnone
      exact absurd hn (hnone n)
  notHost _ := by rintro ⟨⟩
  ends := by rintro ⟨⟩

theorem of_outside (hn : HasNumber w obj n) (houtside : ¬kind.holds n = true) (text : String) :
    NumberVerdict inner w obj kind (.error (.raised (.range ⟨kind.name, text⟩))) where
  accepts v := by
    constructor
    · rintro ⟨⟩
    · rintro ⟨m, hm, hholds, -⟩
      exact absurd (IntKind.holds_iff.mpr (hn.unique hm ▸ hholds)) houtside
  outside target := by
    constructor
    · rintro ⟨_, ⟨⟩⟩
      exact ⟨⟨n, hn, fun hholds => houtside (IntKind.holds_iff.mpr hholds)⟩, rfl, by rintro ⟨⟩⟩
    · rintro ⟨-, rfl, -⟩
      exact ⟨text, rfl⟩
  noNumber := by
    constructor
    · rintro ⟨message, ⟨⟩⟩
    · intro hnone
      exact absurd hn (hnone n)
  notHost _ := by rintro ⟨⟩
  ends := by rintro ⟨⟩

theorem of_endless (hn : HasNumber w obj n) (houtside : ¬kind.holds n = true)
    (hscripted : Scripted w obj) (htext : ((strOf inner obj).apply w).1 = .error .endless) :
    NumberVerdict inner w obj kind (.error .endless) where
  accepts v := by
    constructor
    · rintro ⟨⟩
    · rintro ⟨m, hm, hholds, -⟩
      exact absurd (IntKind.holds_iff.mpr (hn.unique hm ▸ hholds)) houtside
  outside target := by
    constructor
    · rintro ⟨_, ⟨⟩⟩
    · rintro ⟨-, -, hends⟩
      exact absurd rfl hends
  noNumber := by
    constructor
    · rintro ⟨message, ⟨⟩⟩
    · intro hnone
      exact absurd hn (hnone n)
  notHost _ := by rintro ⟨⟩
  ends _ := ⟨hscripted, htext⟩

theorem of_no_number (hnone : ∀ n, ¬HasNumber w obj n) (message : String) :
    NumberVerdict inner w obj kind (.error (.raised (.type message))) where
  accepts v := by
    constructor
    · rintro ⟨⟩
    · rintro ⟨m, hm, -⟩
      exact absurd hm (hnone m)
  outside target := by
    constructor
    · rintro ⟨_, ⟨⟩⟩
    · rintro ⟨⟨m, hm, -⟩, -⟩
      exact absurd hm (hnone m)
  noNumber := ⟨fun _ => hnone, fun _ => ⟨message, rfl⟩⟩
  notHost _ := by rintro ⟨⟩
  ends := by rintro ⟨⟩

end NumberVerdict

/-! ## Narrowing by the host -/

variable [HostCode C] {invoke : C → List Ref → MemoryAction C Ref} {store : ClassStore}

theorem asNative_of_holds (hvalue : intValue? w obj = some n)
    (hholds : (nativeKind kind).holds n = true) :
    (asNative inner invoke kind obj).apply w = (.ok n, w) := by
  unfold nativeKind at hholds
  unfold asNative
  cases hsigned : kind.isSigned with
  | true =>
      rw [hsigned, if_pos rfl] at hholds
      obtain ⟨hleast, hgreatest⟩ := IntKind.holds_iff.mp hholds
      rw [if_pos rfl]
      exact asBounded_apply hvalue hleast hgreatest
  | false =>
      rw [hsigned, if_neg (by simp)] at hholds
      obtain ⟨hleast, hgreatest⟩ := IntKind.holds_iff.mp hholds
      rw [if_neg (by simp)]
      exact asBounded_apply hvalue hleast hgreatest

/-- What the host cannot narrow is too large for it, whatever the kind. -/
theorem asNative_of_not_holds (hvalue : intValue? w obj = some n)
    (hbeyond : ¬(nativeKind kind).holds n = true) :
    ∃ error, (asNative inner invoke kind obj).apply w = (.error (.raised error), w) ∧
      error.kind = .overflow := by
  unfold nativeKind at hbeyond
  unfold asNative
  cases hsigned : kind.isSigned with
  | true =>
      rw [hsigned, if_pos rfl, IntKind.holds_iff] at hbeyond
      rw [if_pos rfl]
      exact asBounded_of_beyond hvalue hbeyond
  | false =>
      rw [hsigned, if_neg (by simp), IntKind.holds_iff] at hbeyond
      rw [if_neg (by simp)]
      exact asBounded_of_beyond hvalue hbeyond

theorem asNative_of_no_number (hvalue : intValue? w obj = none) :
    (asNative inner invoke kind obj).apply w = (.error (.raised (notAnInteger w obj)), w) := by
  unfold asNative
  split
  · exact asBounded_of_no_number hvalue
  · exact asBounded_of_no_number hvalue

/-! ## The text of a number -/

/-- The text in a failure is found, unless a method of the object's class does not end. -/
theorem numberText_ends (inner : Host (Body C)) (invoke : C → List Ref → MemoryAction C Ref)
    (hvalue : intValue? w obj = some n) :
    (∃ text w', (numberText (host inner invoke) obj).apply w = (.ok text, w')) ∨
      (((numberText (host inner invoke) obj).apply w).1 = .error .endless ∧ Scripted w obj ∧
        ((strOf inner obj).apply w).1 = .error .endless) := by
  rw [numberText, Action.apply_bind, Action.apply_attempt]
  cases htext : (strOf inner obj).apply w with
  | mk result w₁ =>
      rw [show ((host inner invoke).strOf obj).apply w = (result, w₁) from htext]
      match result with
      | .ok text => exact .inl ⟨text, w₁, rfl⟩
      | .error (.raised error) => exact .inl ⟨"<int>", w₁, rfl⟩
      | .error .endless =>
          refine .inr ⟨rfl, ?_, rfl⟩
          by_contra hplain
          rcases strOf_tests (by rw [hvalue]; rfl) hplain with ⟨text, hok⟩ | ⟨error, w₂, hraised, -⟩
          · cases htext.symm.trans hok
          · cases htext.symm.trans hraised

/-! ## The conversion -/

theorem intFromHost_of_native
    (hread : (asNative inner invoke kind obj).apply w = (.ok n, w)) :
    (intFromHost (host inner invoke) kind obj).apply w =
      (if kind.holds n then .ok n else .error (.raised (.range ⟨kind.name, toString n⟩)), w) := by
  have hattempt : (asNative inner invoke kind obj).attempt.apply w = _ :=
    Action.apply_attempt_of_ok (δ := Error) hread
  refine (Action.apply_bind_of_ok hattempt).trans ?_
  dsimp only
  split
  · rfl
  · rfl

theorem intFromHost_of_failure {error : HostError}
    (hread : (asNative inner invoke kind obj).apply w = (.error (.raised error), w)) :
    (intFromHost (host inner invoke) kind obj).apply w =
      (numberFailure (host inner invoke) kind.name obj error).apply w := by
  have hattempt : (asNative inner invoke kind obj).attempt.apply w = _ :=
    Action.apply_attempt_of_error (δ := Error) hread
  exact Action.apply_bind_of_ok hattempt

/-- An object that stands for no number is of the wrong class. -/
theorem intFromHost_of_no_number (hvalue : intValue? w obj = none) :
    (intFromHost (host inner invoke) kind obj).apply w =
      (.error (.raised (.type (notAnInteger w obj).message)), w) :=
  intFromHost_of_failure (asNative_of_no_number hvalue)

/-- A number outside the bounds of the kind is out of its range, whether the host or the test of the
bounds finds that. -/
theorem intFromHost_of_outside (inner : Host (Body C)) (invoke : C → List Ref → MemoryAction C Ref)
    (hvalue : intValue? w obj = some n) (houtside : ¬kind.holds n = true) :
    (∃ text w', (intFromHost (host inner invoke) kind obj).apply w =
        (.error (.raised (.range ⟨kind.name, text⟩)), w')) ∨
      (((intFromHost (host inner invoke) kind obj).apply w).1 = .error .endless ∧ Scripted w obj ∧
        ((strOf inner obj).apply w).1 = .error .endless) := by
  by_cases hnative : (nativeKind kind).holds n = true
  · refine .inl ⟨toString n, w, ?_⟩
    rw [intFromHost_of_native (asNative_of_holds hvalue hnative), if_neg houtside]
  · obtain ⟨error, hread, hoverflow⟩ := asNative_of_not_holds hvalue hnative
    rw [intFromHost_of_failure hread, numberFailure, hoverflow]
    dsimp only
    rcases numberText_ends inner invoke hvalue with
      ⟨text, w', htext⟩ | ⟨hendless, hscripted⟩
    · exact .inl ⟨text, w', Action.apply_bind_of_ok htext⟩
    · refine .inr ⟨?_, hscripted⟩
      rw [Action.apply_bind_of_error (Prod.ext hendless rfl)]

theorem fromHost_int_verdict (kind : IntKind) : NumberVerdict inner w obj kind
    ((fromHost (host inner invoke) store (.int kind) obj).apply w).1 := by
  rw [fromHost]
  cases hvalue : intValue? w obj with
  | none =>
      rw [Action.apply_bind_of_error (intFromHost_of_no_number hvalue)]
      exact .of_no_number (intValue?_eq_none_iff.mp hvalue) _
  | some n =>
      have hn := intValue?_eq_some_iff.mp hvalue
      by_cases hholds : kind.holds n = true
      · rw [Action.apply_bind_of_ok (intFromHost_apply hholds hvalue)]
        exact .of_holds hn hholds
      · rcases intFromHost_of_outside inner invoke hvalue hholds with
          ⟨text, w', hrange⟩ | ⟨hendless, hscripted, htext⟩
        · rw [Action.apply_bind_of_error hrange]
          exact .of_outside hn hholds text
        · rw [Action.apply_bind_of_error (Prod.ext hendless rfl)]
          exact .of_endless hn hholds hscripted htext

/-! ## Enumerators -/

/-- A number that was read is the object's own. -/
theorem intFromHost_eq_ok (hok : (intFromHost (host inner invoke) kind obj).apply w = (.ok n, w')) :
    HasNumber w obj n := by
  have hholds := intFromHost_holds hok
  cases hvalue : intValue? w obj with
  | none =>
      rw [intFromHost_of_no_number hvalue] at hok
      cases hok
  | some m =>
      by_cases hm : kind.holds m = true
      · rw [intFromHost_apply hm hvalue] at hok
        cases hok
        exact intValue?_eq_some_iff.mp hvalue
      · rcases intFromHost_of_outside inner invoke hvalue hm with
          ⟨text, w₁, hrange⟩ | ⟨hendless, -⟩
        · cases hrange.symm.trans hok
        · rw [hok] at hendless
          cases hendless

/-- What is read as an enumerator is one that has the object's number. -/
theorem fromHost_enumeration_eq_ok {e : EnumDef} {v : Value}
    (hok : ((fromHost (host inner invoke) store (.enumeration e) obj).apply w).1 = .ok v) :
    ∃ index name value, v = .variant index ∧ e.variants[index]? = some (name, value) ∧
      HasNumber w obj (value : Nat) := by
  rw [fromHost] at hok
  obtain ⟨index, w₁, hread, hv⟩ := Action.apply_bind_eq_ok_iff.mp (Prod.ext hok rfl)
  cases hv
  obtain ⟨n, w₂, hn, hfound⟩ := Action.apply_bind_eq_ok_iff.mp hread
  cases hindex : variantIndex? e n with
  | none =>
      rw [hindex] at hfound
      exact absurd (congrArg Prod.fst hfound) (by simp)
  | some found =>
      rw [hindex] at hfound
      cases hfound
      obtain ⟨hlt, hvalue, -⟩ := List.findIdx?_eq_some_iff_getElem.mp hindex
      have hnumber : (e.variants[index].2 : Int) = n := of_decide_eq_true hvalue
      exact ⟨index, e.variants[index].1, e.variants[index].2, rfl, List.getElem?_eq_getElem hlt,
        hnumber ▸ intFromHost_eq_ok hn⟩

/-- An object that stands for the number of an enumerator is read as one. -/
theorem fromHost_enumeration_of_number {e : EnumDef} (he : ∀ variant ∈ e.variants, variant.2 < UInt32.size)
    {variant : String × Nat} (hmem : variant ∈ e.variants) (hn : HasNumber w obj (variant.2 : Nat)) :
    ∃ v, ((fromHost (host inner invoke) store (.enumeration e) obj).apply w).1 = .ok v := by
  have hholds : IntKind.u32.holds variant.2 = true := by
    have hbound := he variant hmem
    have hleast : IntKind.u32.least = 0 := by decide
    have hgreatest : IntKind.u32.greatest = 4294967295 := by decide
    have hsize : UInt32.size = 4294967296 := rfl
    rw [IntKind.holds_iff, hleast, hgreatest]
    omega
  have hsome : (variantIndex? e variant.2).isSome := by
    rw [variantIndex?, List.findIdx?_isSome, List.any_eq_true]
    exact ⟨variant, hmem, decide_eq_true rfl⟩
  obtain ⟨index, hindex⟩ := Option.isSome_iff_exists.mp hsome
  have hread : (variantFromHost (host inner invoke) e obj).apply w = (.ok index, w) := by
    rw [variantFromHost,
      Action.apply_bind_of_ok (intFromHost_apply hholds (intValue?_eq_some_iff.mpr hn)), hindex]
    rfl
  refine ⟨.variant index, ?_⟩
  rw [fromHost, Action.apply_bind_of_ok hread]
  rfl

/-- A whole number of any kind is read by one test of the object's number against the bounds of the
kind. Of an enumeration whose numbers have 32 bits, an enumerator is read from just the objects that
stand for the number of one, and it is one with that number. -/
theorem fromHost_tells_of_number (inner : Host (Body C)) (invoke : C → List Ref → MemoryAction C Ref)
    (store : ClassStore) (w : World (Body C)) (obj : Ref) (e : EnumDef)
    (he : ∀ variant ∈ e.variants, variant.2 < UInt32.size) :
    (∀ kind, NumberVerdict inner w obj kind
        ((fromHost (host inner invoke) store (.int kind) obj).apply w).1) ∧
      ((∃ v, ((fromHost (host inner invoke) store (.enumeration e) obj).apply w).1 = .ok v) ↔
        ∃ variant ∈ e.variants, HasNumber w obj (variant.2 : Nat)) ∧
      ∀ v, ((fromHost (host inner invoke) store (.enumeration e) obj).apply w).1 = .ok v →
        ∃ index name value, v = .variant index ∧ e.variants[index]? = some (name, value) ∧
          HasNumber w obj (value : Nat) := by
  refine ⟨fun kind => fromHost_int_verdict kind, ⟨?_, ?_⟩, fun v hok => fromHost_enumeration_eq_ok hok⟩
  · rintro ⟨v, hok⟩
    obtain ⟨index, name, value, -, hvariant, hn⟩ := fromHost_enumeration_eq_ok hok
    exact ⟨(name, value), List.mem_of_getElem? hvariant, hn⟩
  · rintro ⟨variant, hmem, hn⟩
    exact fromHost_enumeration_of_number he hmem hn

/-! Two numbers: one beyond 64 bits, of a class whose method for the text fails, and the greatest one
of 32 bits, which is an enumerator. -/

/-- The built-in objects, the class, its method and the two numbers. -/
def numberObjects : List (Node Session.SessionBody) :=
  Builtin.all.map (fun b => ⟨.empty, b.body⟩) ++
    [⟨Table.empty.insert "__str__" ⟨17⟩, .cls ⟨"app.Big", [Builtin.int.ref],
        [Builtin.int.ref, Builtin.object.ref], none⟩⟩,
      ⟨.empty, .function (.fail { kind := .value, message := "no text" })⟩,
      ⟨.empty, .instance ⟨16⟩ (some 18446744073709551616)⟩,
      ⟨.empty, .int 4294967295⟩]

/-- The world with these objects. -/
def numberWorld : Session.SessionWorld :=
  { (World.empty : Session.SessionWorld) with heap := ⟨(numberObjects.map some).toArray⟩ }

/-- A number that is too large is out of range though its text cannot be had, and the greatest number
is an enumerator. -/
theorem fromHost_tells_of_number_silent :
    (∀ variant ∈ Catalog.level.variants, variant.2 < UInt32.size) ∧
      (∃ text, ((fromHost (Session.hostAt (fun _ => false) 2) .session (.int .i8) ⟨18⟩).apply
        numberWorld).1 = .error (.raised (.range ⟨"i8", text⟩))) ∧
      ∃ v, ((fromHost (Session.hostAt (fun _ => false) 2) .session (.enumeration Catalog.level)
        ⟨19⟩).apply numberWorld).1 = .ok v := by
  have hlevel : ∀ variant ∈ Catalog.level.variants, variant.2 < UInt32.size := by decide
  have hends : ((strOf (Session.hostAt (fun _ => false) 1) ⟨18⟩).apply numberWorld).1 =
      .error (.raised { kind := .value, message := "no text" }) := rfl
  have hbig := (fromHost_tells_of_number (Session.hostAt (fun _ => false) 1)
    (Session.invoke (fun _ => false) (Session.hostAt (fun _ => false) 1)) .session numberWorld ⟨18⟩
    Catalog.level hlevel).1 .i8
  have hgreatest := (fromHost_tells_of_number (Session.hostAt (fun _ => false) 1)
    (Session.invoke (fun _ => false) (Session.hostAt (fun _ => false) 1)) .session numberWorld ⟨19⟩
    Catalog.level hlevel).2.1
  refine ⟨hlevel,
    (hbig.outside "i8").mpr
      ⟨⟨18446744073709551616, .member rfl, by decide⟩, rfl, fun hendless => ?_⟩,
    hgreatest.mpr ⟨("High", 4294967295), by decide, .number rfl⟩⟩
  cases hends.symm.trans (hbig.ends hendless).2

end Marshal

end DdsBridge
