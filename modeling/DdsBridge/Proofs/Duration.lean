import DdsBridge.Dds.Duration

/-!
# Durations and spans of time

Seconds and nanoseconds make a duration if they are in their ranges or are the pair for infinity. A
duration that was made so is a span of time unless it is that pair. The way back does not look at the
pair: it takes every span that reaches the greatest second for infinite, so it finds every finite
duration again but those of the greatest second.

* **`Duration.IsParts`**, **`Duration.partsFault`** — which parts make a duration, and what is wrong
  with the others.
* **`Duration.ofParts_eq_ok_iff`**, **`Duration.ofParts_of_not_isParts`** — durations from parts.
* **`Duration.toSpan?_eq_none_iff`**, **`Duration.toSpan?_of_isParts`** — durations as spans.
* **`Duration.ofParts_toSpan_ofSpan`** — the way there and back.
-/

namespace DdsBridge.Duration

variable {sec : Int} {nanosec : Nat} {d : Duration} {span : Span}

/-- The parts that make a duration: a count of seconds of 31 bits with less than a second of
nanoseconds, or the pair that stands for infinity. -/
def IsParts (sec : Int) (nanosec : Nat) : Prop :=
  (0 ≤ sec ∧ sec ≤ 2147483647 ∧ nanosec < 1000000000) ∨ (sec = 0x7fffffff ∧ nanosec = 0x7fffffff)

/-- What is wrong with other parts: the seconds, or else the nanoseconds. -/
def partsFault (sec : Int) (nanosec : Nat) : RangeFault :=
  if 0 ≤ sec ∧ sec ≤ 2147483647 then ⟨"Duration_t.nanosec", toString nanosec⟩
  else ⟨"Duration_t.sec", toString sec⟩

theorem maxSec_eq : maxSec = 2147483647 := rfl

theorem mk_eq_infinite_iff :
    (⟨sec, nanosec⟩ : Duration) = infinite ↔ sec = 0x7fffffff ∧ nanosec = 0x7fffffff := by
  rw [infinite, Duration.mk.injEq]

/-! ## From parts -/

theorem ofParts_of_isParts (h : IsParts sec nanosec) :
    ofParts sec nanosec = .ok ⟨sec, nanosec⟩ := by
  have hsec : 0 ≤ sec ∧ sec ≤ maxSec := by
    rw [maxSec_eq]
    unfold IsParts at h
    omega
  have hsize : ¬UInt32.size ≤ nanosec := by
    have : UInt32.size = 4294967296 := rfl
    unfold IsParts at h
    omega
  have hfine : ¬(nanosPerSec ≤ nanosec ∧ (⟨sec, nanosec⟩ : Duration) ≠ infinite) := by
    rw [ne_eq, mk_eq_infinite_iff]
    unfold IsParts at h
    unfold nanosPerSec
    omega
  rw [ofParts, if_neg (not_not_intro hsec), if_neg hsize, if_neg hfine]

theorem ofParts_of_not_isParts (h : ¬IsParts sec nanosec) :
    ofParts sec nanosec = .error (partsFault sec nanosec) := by
  rw [ofParts, partsFault, maxSec_eq]
  by_cases hsec : 0 ≤ sec ∧ sec ≤ 2147483647
  · rw [if_neg (not_not_intro hsec), if_pos hsec]
    by_cases hsize : UInt32.size ≤ nanosec
    · rw [if_pos hsize]
    · have hover : nanosPerSec ≤ nanosec ∧ (⟨sec, nanosec⟩ : Duration) ≠ infinite := by
        rw [ne_eq, mk_eq_infinite_iff]
        unfold IsParts at h
        unfold nanosPerSec
        omega
      rw [if_neg hsize, if_pos hover]
  · rw [if_pos hsec, if_neg hsec]

theorem ofParts_eq_ok_iff :
    ofParts sec nanosec = .ok d ↔ IsParts sec nanosec ∧ d = ⟨sec, nanosec⟩ := by
  by_cases h : IsParts sec nanosec
  · rw [ofParts_of_isParts h, Except.ok.injEq]
    exact ⟨fun hd => ⟨h, hd.symm⟩, fun hd => hd.2.symm⟩
  · rw [ofParts_of_not_isParts h]
    constructor
    · rintro ⟨⟩
    · rintro ⟨hparts, -⟩
      exact absurd hparts h

/-! ## Spans of time -/

theorem toSpan?_eq_none_iff : d.toSpan? = none ↔ d = infinite := by
  unfold toSpan? isInfinite
  by_cases h : d = infinite
  · simp [h]
  · simp [h]

/-- Less than a second of nanoseconds is not carried. -/
theorem toSpan?_of_isParts (h : IsParts sec nanosec) (hfinite : (⟨sec, nanosec⟩ : Duration) ≠ infinite) :
    (⟨sec, nanosec⟩ : Duration).toSpan? = some ⟨sec.toNat, nanosec⟩ := by
  have hnanos : nanosec < nanosPerSec := by
    rw [ne_eq, mk_eq_infinite_iff] at hfinite
    unfold IsParts at h
    unfold nanosPerSec
    omega
  rw [toSpan?, if_neg (by simpa [isInfinite] using hfinite)]
  dsimp only
  rw [Nat.div_eq_of_lt hnanos, Nat.mod_eq_of_lt hnanos, Nat.add_zero]

theorem ofSpan_of_lt (h : (span.secs : Int) < 2147483647) :
    ofSpan span = ⟨span.secs, span.nanos⟩ := if_pos h

theorem ofSpan_of_le (h : 2147483647 ≤ (span.secs : Int)) : ofSpan span = infinite :=
  if_neg (Int.not_lt.mpr h)

/-- Parts make a duration exactly if they are in their ranges or stand for infinity, and are otherwise
out of range. A duration that was made so is no span exactly if it is infinite, and is else the span of
its seconds and nanoseconds; from that span comes the duration again if it has less than the greatest
count of seconds, and the infinite one if it has just that. -/
theorem ofParts_toSpan_ofSpan (sec : Int) (nanosec : Nat) :
    ((∃ d, ofParts sec nanosec = .ok d) ↔ IsParts sec nanosec) ∧
      (¬IsParts sec nanosec → ofParts sec nanosec = .error (partsFault sec nanosec)) ∧
      ∀ d, ofParts sec nanosec = .ok d →
        d = ⟨sec, nanosec⟩ ∧
          (d.toSpan? = none ↔ d = infinite) ∧
          ∀ span, d.toSpan? = some span →
            (span.secs : Int) = sec ∧ span.nanos = nanosec ∧
              (sec < 2147483647 → ofSpan span = d) ∧
              (sec = 2147483647 → ofSpan span = infinite) := by
  refine ⟨⟨fun ⟨d, hd⟩ => (ofParts_eq_ok_iff.mp hd).1, fun h => ⟨_, ofParts_of_isParts h⟩⟩,
    ofParts_of_not_isParts, fun d hd => ?_⟩
  obtain ⟨hparts, rfl⟩ := ofParts_eq_ok_iff.mp hd
  refine ⟨rfl, toSpan?_eq_none_iff, fun span hspan => ?_⟩
  have hfinite : (⟨sec, nanosec⟩ : Duration) ≠ infinite := by
    intro hinfinite
    rw [toSpan?_eq_none_iff.mpr hinfinite] at hspan
    cases hspan
  rw [toSpan?_of_isParts hparts hfinite] at hspan
  cases hspan
  have hsecs : ((sec.toNat : Nat) : Int) = sec := by unfold IsParts at hparts; omega
  refine ⟨hsecs, rfl, fun hlt => ?_, fun hlast => ?_⟩
  · rw [ofSpan_of_lt (hsecs.symm ▸ hlt)]
    exact congrArg (fun s => (⟨s, nanosec⟩ : Duration)) hsecs
  · exact ofSpan_of_le (hsecs.symm ▸ Int.le_of_eq hlast.symm)

/-- The last nanosecond before the greatest count of seconds comes back. -/
theorem ofParts_toSpan_ofSpan_last :
    ofParts 2147483646 999999999 = .ok ⟨2147483646, 999999999⟩ ∧
      (⟨2147483646, 999999999⟩ : Duration).toSpan? = some ⟨2147483646, 999999999⟩ ∧
      ofSpan ⟨2147483646, 999999999⟩ = ⟨2147483646, 999999999⟩ := by
  have hmade : ofParts 2147483646 999999999 = .ok ⟨2147483646, 999999999⟩ := rfl
  have hspan : (⟨2147483646, 999999999⟩ : Duration).toSpan? = some ⟨2147483646, 999999999⟩ := by
    decide
  obtain ⟨-, -, hback⟩ := ofParts_toSpan_ofSpan (2147483646) (999999999)
  obtain ⟨-, -, hspans⟩ := hback _ hmade
  obtain ⟨-, -, hfound, -⟩ := hspans _ hspan
  exact ⟨hmade, hspan, hfound (by decide)⟩

/-- A duration of the greatest count of seconds is a finite span, and comes back as the infinite one. -/
theorem last_second_comes_back_infinite :
    ∃ d span, ofParts 2147483647 5 = .ok d ∧ d ≠ infinite ∧ d.toSpan? = some span ∧
      ofSpan span ≠ d ∧ ofSpan span = infinite :=
  ⟨⟨0x7fffffff, 5⟩, ⟨0x7fffffff, 5⟩, rfl, by decide, by decide, by decide, by decide⟩

end DdsBridge.Duration
