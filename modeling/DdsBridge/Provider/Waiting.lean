import DdsBridge.Provider.State

/-!
# Conditions and wait sets

Every entity has at most one status condition, made when it is first asked for. The condition is
triggered while one of its enabled statuses is raised on the entity. A client waits on a wait set
until one of the conditions attached to it is triggered or its time is up: it enters the wait,
looks at the conditions now and after every notification, and leaves. One client at a time waits
on a wait set, and a wait set on which somebody waits is not deleted.

* **`State.statusCondition`**, **`State.setEnabled`** — conditions.
* **`State.createWaitSet`**, **`State.deleteWaitSet`**, **`State.attach`**, **`State.detach`**.
* **`State.enterWait`**, **`State.anyTriggered`**, **`State.leaveWait`** — the steps of a wait.
* **`State.waitAlone`** — a whole wait while no other client acts.
-/

namespace DdsBridge.Provider

/-- Adds a condition to an ascending list. -/
def insertCondition (condition : ConditionId) : List ConditionId → List ConditionId
  | [] => [condition]
  | c :: rest =>
    if condition.id < c.id then condition :: c :: rest
    else if condition.id = c.id then c :: rest
    else c :: insertCondition condition rest

namespace State

/-- The status condition of an entity, made if there is none yet. A new condition is enabled for
every status. -/
def statusCondition (s : State) (entity : Handle) : Result ConditionId :=
  match s.entities.get? entity with
  | none => s.fail (s.missing entity)
  | some record =>
    match record.condition with
    | some condition => s.succeed condition
    | none =>
      let (id, s) := s.allocate
      let condition : ConditionId := ⟨id⟩
      let s := { s with
        conditions := s.conditions.insert condition ⟨entity, .all⟩
        entities := s.entities.modify entity fun r => { r with condition := some condition } }
      s.succeed condition

/-- Chooses the statuses that trigger a condition. -/
def setEnabled (s : State) (condition : ConditionId) (mask : StatusMask) : Result Unit :=
  if s.conditions.contains condition then
    let s := { s with
      conditions := s.conditions.modify condition fun c => { c with enabled := mask } }
    s.succeed ()
  else s.fail .badParameter

/-- Creates a wait set. -/
def createWaitSet (s : State) : WaitSetId × State :=
  let (id, s) := s.allocate
  (⟨id⟩, { s with waitSets := s.waitSets.insert ⟨id⟩ ⟨[], false⟩ })

/-- Deletes a wait set on which nobody waits. -/
def deleteWaitSet (s : State) (waitSet : WaitSetId) : Result Unit :=
  match s.waitSets.get? waitSet with
  | none => s.fail .badParameter
  | some w =>
    if w.waiting then s.fail .preconditionNotMet
    else succeed { s with waitSets := s.waitSets.erase waitSet } ()

/-- Attaches a condition to a wait set. -/
def attach (s : State) (waitSet : WaitSetId) (condition : ConditionId) : Result Unit :=
  if s.conditions.contains condition && s.waitSets.contains waitSet then
    let s := { s with
      waitSets := s.waitSets.modify waitSet fun w =>
        { w with conditions := insertCondition condition w.conditions } }
    s.succeed ()
  else s.fail .badParameter

/-- Detaches a condition from a wait set. One that was deleted with its entity is detached
already. -/
def detach (s : State) (waitSet : WaitSetId) (condition : ConditionId) : Result Unit :=
  match s.waitSets.get? waitSet with
  | none => s.fail .badParameter
  | some w =>
    if w.conditions.contains condition then
      let s := { s with
        waitSets := s.waitSets.modify waitSet fun w =>
          { w with conditions := w.conditions.filter (· ≠ condition) } }
      s.succeed ()
    else if s.conditions.contains condition then s.fail .preconditionNotMet
    else s.succeed ()

/-- Whether an enabled status of a condition is raised on its entity. -/
def isTriggered (s : State) (condition : ConditionId) : Bool :=
  match s.conditions.get? condition with
  | none => false
  | some c =>
    match s.entities.get? c.entity with
    | none => false
    | some record => record.raised.intersects c.enabled

/-- Whether a condition attached to a wait set is triggered. -/
def anyTriggered (s : State) (waitSet : WaitSetId) : Bool :=
  match s.waitSets.get? waitSet with
  | none => false
  | some w => w.conditions.any s.isTriggered

/-- Begins to wait. -/
def enterWait (s : State) (waitSet : WaitSetId) : Result Unit :=
  match s.waitSets.get? waitSet with
  | none => s.fail .badParameter
  | some w =>
    if w.waiting then s.fail .preconditionNotMet
    else
      let s := { s with waitSets := s.waitSets.modify waitSet fun w => { w with waiting := true } }
      s.succeed ()

/-- Ends to wait. -/
def leaveWait (s : State) (waitSet : WaitSetId) : State :=
  { s with waitSets := s.waitSets.modify waitSet fun w => { w with waiting := false } }

/-- How a wait ends, or that it does not. -/
inductive WaitEnd where
  | code (code : ReturnCode)
  /-- Nothing is triggered and the wait has no deadline. -/
  | never
  deriving DecidableEq, Repr

/-- A whole wait while no other client acts: it ends at once if a condition is triggered, and else
when its time is up. -/
def waitAlone (s : State) (waitSet : WaitSetId) (limit : Duration) : WaitEnd × State :=
  match s.enterWait waitSet with
  | (.error code, s) => (.code code, s)
  | (.ok (), s) =>
    if s.anyTriggered waitSet then (.code .ok, s.leaveWait waitSet)
    else if limit.isInfinite then (.never, s)
    else (.code .timeout, s.leaveWait waitSet)

/-- How many wait sets the condition of an entity is attached to. -/
def attachedCount (s : State) (entity : Handle) : Nat :=
  match (s.entities.get? entity).bind Record.condition with
  | none => 0
  | some condition => s.waitSets.values.countP fun w => w.conditions.contains condition

end State

end DdsBridge.Provider
