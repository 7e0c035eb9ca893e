import DdsBridge.Number.Shortest

/-!
# Durations

A duration is a count of seconds and of nanoseconds. One pair, the greatest second with an
impossible count of nanoseconds, stands for an infinite duration.

* **`Duration.ofParts`** — from seconds and nanoseconds of any size.
* **`Duration.ofSeconds`** — from a floating-point number of seconds.
* **`Duration.toSpan?`**, **`Duration.ofSpan`** — to a finite span of time and back.
* **`RangeFault`** — a value outside the range of what it is wanted for.
-/

namespace DdsBridge

/-- A value, as text, that lies outside the range of `target`. -/
structure RangeFault where
  target : String
  value : String
  deriving DecidableEq, Repr

/-- A duration. The fields have the widths in which it is exchanged. -/
structure Duration where
  sec : Int
  nanosec : Nat
  deriving DecidableEq, Repr, Inhabited

/-- A finite span of time. -/
structure Span where
  secs : Nat
  nanos : Nat
  deriving DecidableEq, Repr

namespace Duration

/-- The greatest count of seconds. -/
def maxSec : Int := 0x7fffffff

/-- The duration without an end. -/
def infinite : Duration := ⟨0x7fffffff, 0x7fffffff⟩

/-- The empty duration. -/
def zero : Duration := ⟨0, 0⟩

/-- How many nanoseconds make a second. -/
def nanosPerSec : Nat := 1000000000

/-- The duration of `sec` seconds and `nanosec` nanoseconds. The seconds must not be negative, the
nanoseconds must be less than a second, and the pair that stands for infinity is accepted. -/
def ofParts (sec : Int) (nanosec : Nat) : Except RangeFault Duration :=
  if ¬(0 ≤ sec ∧ sec ≤ maxSec) then .error ⟨"Duration_t.sec", toString sec⟩
  else if UInt32.size ≤ nanosec then .error ⟨"Duration_t.nanosec", toString nanosec⟩
  else if nanosPerSec ≤ nanosec ∧ (⟨sec, nanosec⟩ : Duration) ≠ infinite then
    .error ⟨"Duration_t.nanosec", toString nanosec⟩
  else .ok ⟨sec, nanosec⟩

/-- The duration of a floating-point number of seconds; the fraction is multiplied out in floating
point and cut to whole nanoseconds. Positive infinity is the infinite duration. -/
def ofSeconds (secs : Number.Binary64) : Except RangeFault Duration :=
  let refused : Except RangeFault Duration := .error ⟨"Duration_t", secs.text⟩
  match secs.shape with
  | .infinite false => .ok infinite
  | .infinite true => refused
  | .nan => refused
  | .finite negative significand _ =>
    if negative ∧ significand ≠ 0 then refused
    else if maxSec ≤ secs.wholePart then refused
    else
      let fraction := secs.units % Number.Binary64.unitsPerOne
      let nanos := Number.Binary64.ofQuotient false (fraction * nanosPerSec)
        Number.Binary64.unitsPerOne
      .ok ⟨secs.wholePart, nanos.wholePart⟩

/-- Whether the duration is the one without an end. -/
def isInfinite (d : Duration) : Bool := d = infinite

/-- A finite duration as a span of time: a surplus of nanoseconds is carried into the seconds. -/
def toSpan? (d : Duration) : Option Span :=
  if d.isInfinite then none
  else some ⟨d.sec.toNat + d.nanosec / nanosPerSec, d.nanosec % nanosPerSec⟩

/-- The duration of a span of time, infinite if the seconds reach the greatest count. -/
def ofSpan (s : Span) : Duration :=
  if (s.secs : Int) < maxSec then ⟨s.secs, s.nanos⟩ else infinite

/-- A duration as error texts show it. -/
def text (d : Duration) : String :=
  if d.isInfinite then "infinite"
  else if d.nanosec = 0 then s!"{d.sec}s"
  else s!"{d.sec}s {d.nanosec}ns"

end Duration

end DdsBridge
