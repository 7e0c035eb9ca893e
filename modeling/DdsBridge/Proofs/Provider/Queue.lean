import DdsBridge.Provider.Delivery

/-!
# What may happen to a queue

The law of a reader's queue, apart from any provider: samples are offered to it and taken from it,
and the history policy says what becomes of an offered sample. A run of such events leads from one
queue to another, each event at the queue of its moment, and what is queued and taken in the end is
what is left of the first queue and of the offered samples.

* **`QueueStep`**, **`QueueRun`** — the law.
* **`QueueRun.suffix`**, **`QueueRun.length_le`** — a queue that keeps the last samples is the end
  of what was offered, no longer than its depth; **`QueueRun.length_eq`** — if nothing is taken,
  also no shorter than that.
* **`QueueRun.sublist`** — nothing is taken twice, invented or taken out of order.
* **`QueueStep.exists_offer`** — `enqueue` obeys the law.
-/

namespace DdsBridge.Provider

/-- What happens to a queue: a sample is offered and accepted, offered and accepted in the place of
the oldest one, offered and refused, or the oldest one is taken. -/
inductive QueueEvent where
  | accepted (sample : Sample)
  | displaced (oldest sample : Sample)
  | refused (sample : Sample)
  | taken (sample : Sample)
  deriving DecidableEq

/-- The sample that an event offers. -/
def QueueEvent.offered? : QueueEvent → Option Sample
  | .accepted x | .displaced _ x | .refused x => some x
  | .taken _ => none

/-- The sample that an event takes. -/
def QueueEvent.taken? : QueueEvent → Option Sample
  | .taken x => some x
  | _ => none

/-- One event. Only a queue that keeps the last samples gives one up for another, only a queue that
keeps all refuses one, and either does so exactly when it is full. -/
inductive QueueStep (history : History) (bound : Nat) :
    List Sample → QueueEvent → List Sample → Prop where
  | accepted {queue : List Sample} {x : Sample}
      (hroom : queue.length < history.capacity bound) :
      QueueStep history bound queue (.accepted x) (queue ++ [x])
  | displaced {queue : List Sample} {oldest x : Sample} (hkind : history.kind = .keepLast)
      (hfull : (oldest :: queue).length = history.capacity bound) :
      QueueStep history bound (oldest :: queue) (.displaced oldest x) (queue ++ [x])
  | refused {queue : List Sample} {x : Sample} (hkind : history.kind = .keepAll)
      (hfull : queue.length = history.capacity bound) :
      QueueStep history bound queue (.refused x) queue
  | taken {queue : List Sample} {x : Sample} :
      QueueStep history bound (x :: queue) (.taken x) queue

/-- The queue that the given events make of another one. -/
inductive QueueRun (history : History) (bound : Nat) (start : List Sample) :
    List QueueEvent → List Sample → Prop where
  | nil : QueueRun history bound start [] start
  | snoc {events : List QueueEvent} {queue queue' : List Sample} {event : QueueEvent}
      (before : QueueRun history bound start events queue)
      (hstep : QueueStep history bound queue event queue') :
      QueueRun history bound start (events ++ [event]) queue'

/-- The samples offered by events, in order. -/
def offeredBy (events : List QueueEvent) : List Sample := events.filterMap QueueEvent.offered?

/-- The samples taken by events, in order. -/
def takenBy (events : List QueueEvent) : List Sample := events.filterMap QueueEvent.taken?

@[simp] theorem offeredBy_append (a b : List QueueEvent) :
    offeredBy (a ++ b) = offeredBy a ++ offeredBy b := List.filterMap_append

@[simp] theorem takenBy_append (a b : List QueueEvent) :
    takenBy (a ++ b) = takenBy a ++ takenBy b := List.filterMap_append

@[simp] theorem offeredBy_singleton (event : QueueEvent) :
    offeredBy [event] = event.offered?.toList := by
  cases event <;> rfl

@[simp] theorem takenBy_singleton (event : QueueEvent) :
    takenBy [event] = event.taken?.toList := by
  cases event <;> rfl

theorem capacity_pos (history : History) {bound : Nat} (hbound : 0 < bound) :
    0 < history.capacity bound := by
  unfold History.capacity
  split
  · omega
  · exact hbound

/-- With a consistent policy that keeps the last samples, the depth is the capacity. -/
theorem capacity_keepLast {history : History} (bound : Nat)
    (hconsistent : history.isConsistent = true) (hkind : history.kind = .keepLast) :
    (history.capacity bound : Int) = history.depth := by
  have hdepth : 1 ≤ history.depth := by simpa [History.isConsistent, hkind] using hconsistent
  simp only [History.capacity, hkind]
  omega

theorem capacity_keepAll {history : History} (bound : Nat) (hkind : history.kind = .keepAll) :
    history.capacity bound = bound := by
  unfold History.capacity
  rw [hkind]

/-- Offering a sample is one event, which tells whether the sample is refused. -/
theorem QueueStep.exists_offer {history : History} {bound : Nat} {queue : List Sample}
    (hlength : queue.length ≤ history.capacity bound) (hbound : 0 < bound) (x : Sample) :
    ∃ event, event.offered? = some x ∧ event.taken? = none ∧
      match State.enqueue history bound queue x with
      | some queue' => QueueStep history bound queue event queue' ∧ ∀ y, event ≠ .refused y
      | none => QueueStep history bound queue event queue ∧ event = .refused x := by
  unfold State.enqueue
  cases hkind : history.kind with
  | keepLast =>
      have hpos := capacity_pos history hbound
      -- a full queue gives up its oldest sample, another one has room
      by_cases hfull : queue.length = history.capacity bound
      · cases queue with
        | nil =>
            rw [List.length_nil] at hfull
            omega
        | cons oldest rest =>
            refine ⟨.displaced oldest x, rfl, rfl, ?_, by simp⟩
            have hone : (oldest :: rest).length + 1 - history.capacity bound = 1 := by omega
            rw [hone]
            exact .displaced hkind hfull
      · refine ⟨.accepted x, rfl, rfl, ?_, by simp⟩
        have hroom : queue.length < history.capacity bound := by omega
        have hzero : queue.length + 1 - history.capacity bound = 0 := by omega
        rw [hzero, List.drop_zero]
        exact .accepted hroom
  | keepAll =>
      by_cases hroom : queue.length < history.capacity bound
      · refine ⟨.accepted x, rfl, rfl, ?_⟩
        simp only [hroom, if_true]
        exact ⟨.accepted hroom, by simp⟩
      · refine ⟨.refused x, rfl, rfl, ?_⟩
        simp only [hroom, if_false]
        exact ⟨.refused hkind (by omega), trivial⟩

namespace QueueRun

variable {history : History} {bound : Nat} {events more : List QueueEvent}
  {start middle queue : List Sample}

theorem step {event : QueueEvent} (h : QueueStep history bound start event queue) :
    QueueRun history bound start [event] queue := nil.snoc h

theorem trans (h : QueueRun history bound start events middle)
    (h' : QueueRun history bound middle more queue) :
    QueueRun history bound start (events ++ more) queue := by
  induction h' with
  | nil => rwa [List.append_nil]
  | snoc _ hstep ih =>
      rw [← List.append_assoc]
      exact ih.snoc hstep

/-- No queue grows beyond its capacity. -/
theorem length_le (hrun : QueueRun history bound start events queue)
    (hstart : start.length ≤ history.capacity bound) : queue.length ≤ history.capacity bound := by
  induction hrun with
  | nil => exact hstart
  | snoc before hstep ih =>
      cases hstep with
      | accepted hroom =>
          rw [List.length_append, List.length_singleton]
          omega
      | displaced hkind hfull =>
          rw [List.length_append, List.length_singleton, ← List.length_cons]
          exact Nat.le_of_eq hfull
      | refused hkind hfull => exact ih
      | taken => exact Nat.le_of_succ_le ih

/-- As long as nothing is taken from a queue that keeps the last samples, it grows to its capacity
and no further. -/
theorem length_eq (hrun : QueueRun history bound [] events queue) (hkind : history.kind = .keepLast)
    (huntaken : takenBy events = []) :
    queue.length = min (offeredBy events).length (history.capacity bound) := by
  induction hrun with
  | nil => exact (Nat.zero_min _).symm
  | snoc before hstep ih =>
      rw [takenBy_append, List.append_eq_nil_iff] at huntaken
      have hlength := ih huntaken.1
      rw [offeredBy_append, offeredBy_singleton, List.length_append]
      cases hstep with
      | accepted hroom =>
          simp only [QueueEvent.offered?, Option.toList_some, List.length_append,
            List.length_singleton]
          omega
      | displaced _ hfull =>
          simp only [QueueEvent.offered?, Option.toList_some, List.length_append,
            List.length_singleton]
          rw [List.length_cons] at hlength hfull
          omega
      | refused hall hfull => exact absurd (hall.symm.trans hkind) (by simp)
      | taken => exact absurd huntaken.2 (by simp [QueueEvent.taken?])

/-- A queue that keeps the last samples is the end of what was queued at first and offered then. -/
theorem suffix (hrun : QueueRun history bound start events queue)
    (hkind : history.kind = .keepLast) : queue <:+ start ++ offeredBy events := by
  induction hrun with
  | nil => exact (List.append_nil start).symm ▸ List.suffix_refl _
  | snoc before hstep ih =>
      obtain ⟨front, hfront⟩ := ih
      rw [offeredBy_append, offeredBy_singleton, ← List.append_assoc, ← hfront]
      cases hstep with
      | accepted hroom => exact ⟨front, by simp [QueueEvent.offered?]⟩
      | @displaced queue oldest x _ hfull => exact ⟨front ++ [oldest], by simp [QueueEvent.offered?]⟩
      | refused hall hfull => exact absurd (hall.symm.trans hkind) (by simp)
      | @taken queue x => exact ⟨front ++ [x], by simp [QueueEvent.offered?]⟩

/-- What was taken and what is still queued are, in this order, among what was queued at first and
offered then. -/
theorem sublist (hrun : QueueRun history bound start events queue) :
    (takenBy events ++ queue).Sublist (start ++ offeredBy events) := by
  induction hrun with
  | nil => exact (List.append_nil start).symm ▸ List.Sublist.refl _
  | snoc before hstep ih =>
      rw [takenBy_append, offeredBy_append, takenBy_singleton, offeredBy_singleton,
        ← List.append_assoc start]
      cases hstep with
      | @accepted queue x hroom =>
          have happ := ih.append (List.Sublist.refl [x])
          simpa [QueueEvent.taken?, QueueEvent.offered?] using happ
      | @displaced queue oldest x _ hfull =>
          have hdrop := (List.Sublist.append (List.Sublist.refl _)
            (List.sublist_cons_self oldest queue)).trans ih
          have happ := hdrop.append (List.Sublist.refl [x])
          simpa [QueueEvent.taken?, QueueEvent.offered?] using happ
      | @refused queue x hall hfull =>
          have happ := ih.append (List.nil_sublist [x])
          simpa [QueueEvent.taken?, QueueEvent.offered?] using happ
      | taken => simpa [QueueEvent.taken?, QueueEvent.offered?] using ih

/-- Every event of a run was one step of it. -/
theorem exists_step (hrun : QueueRun history bound start events queue) {event : QueueEvent}
    (hevent : event ∈ events) : ∃ q q', QueueStep history bound q event q' := by
  induction hrun with
  | nil => exact absurd hevent (by simp)
  | snoc before hstep ih =>
      rcases List.mem_append.mp hevent with hevent | hevent
      · exact ih hevent
      · obtain rfl := List.mem_singleton.mp hevent
        exact ⟨_, _, hstep⟩

/-- Only a queue that keeps all refuses a sample. -/
theorem kind_of_refused (hrun : QueueRun history bound start events queue) {x : Sample}
    (hx : QueueEvent.refused x ∈ events) : history.kind = .keepAll := by
  obtain ⟨q, q', hstep⟩ := hrun.exists_step hx
  cases hstep with
  | refused hkind hfull => exact hkind

/-- Only a queue that keeps the last samples gives one up. -/
theorem kind_of_displaced (hrun : QueueRun history bound start events queue) {oldest x : Sample}
    (hx : QueueEvent.displaced oldest x ∈ events) : history.kind = .keepLast := by
  obtain ⟨q, q', hstep⟩ := hrun.exists_step hx
  cases hstep with
  | displaced hkind hfull => exact hkind

end QueueRun

end DdsBridge.Provider
