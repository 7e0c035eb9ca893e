import DdsBridge.Provider.Delivery

/-!
# Deleting entities

A clean-up deletes everything a participant contains. Endpoints of other participants that were
matched with a deleted one are told, and a reader that thereby loses its last writer is offered a
notice without data. A participant itself goes when no proxy holds it and it contains nothing.

* **`State.deleteContained`** — the clean-up.
* **`State.unmatch`** — what one end is told when the other goes.
* **`State.release`** — one proxy gives back its hold on an entity.
-/

namespace DdsBridge.Provider.State

/-- Deletes a status condition and detaches it from every wait set. -/
def dropCondition (s : State) (condition : ConditionId) : State :=
  { s with
    conditions := s.conditions.erase condition
    waitSets := s.waitSets.map fun _ waitSet =>
      { waitSet with conditions := waitSet.conditions.filter (· ≠ condition) } }

/-- Removes an entity and its status condition. -/
def remove (s : State) (handle : Handle) : State :=
  match s.entities.get? handle with
  | none => s
  | some record =>
    let s := { s with entities := s.entities.erase handle }
    match record.condition with
    | some condition => s.dropCondition condition
    | none => s

/-- The notice to a reader that its last writer is gone. -/
def orphanNotice : Sample := ⟨[], .notice .notAliveNoWriters⟩

/-- Tells `peer` that `gone`, with which it was matched, is deleted. -/
def unmatch (s : State) (gone peer : Handle) : State :=
  match s.writer? peer, s.reader? peer with
  | some _, _ =>
    (s.modifyWriter peer fun w => { w with matched := w.matched.filter (· ≠ gone) }).raise peer
      .publicationMatched
  | none, some r =>
    let left := r.matched.filter (· ≠ gone)
    let s := (s.modifyReader peer fun r => { r with matched := left }).raise peer
      .subscriptionMatched
    if left.isEmpty then s.offer peer orphanNotice else s
  | none, none => s

/-- The endpoints matched with an entity. -/
def matchedWith (s : State) (handle : Handle) : List Handle :=
  match (s.entities.get? handle).map Record.body with
  | some (.writer w) => w.matched
  | some (.reader r) => r.matched
  | _ => []

/-- The entities that a participant contains. -/
def contained (s : State) (participant : Handle) : List Handle :=
  s.entities.keys.filter fun handle =>
    handle ≠ participant &&
      match s.entities.get? handle with
      | some record => record.participant = participant
      | none => false

/-- Tells the endpoints matched with `gone` that it goes, those that go as well excepted. -/
def unmatchPeers (s : State) (doomed : List Handle) (gone : Handle) : State :=
  ((s.matchedWith gone).filter fun peer => !doomed.contains peer).foldl
    (fun s peer => s.unmatch gone peer) s

/-- Deletes the given entities: first their surviving peers are told, then they are removed. -/
def deleteAll (s : State) (doomed : List Handle) : State :=
  let s := doomed.foldl (fun s gone => s.unmatchPeers doomed gone) s
  doomed.foldl remove s

/-- Deletes everything a participant contains. -/
def deleteContained (s : State) (participant : Handle) : Result Unit :=
  s.proceed (s.get participant .participant) fun _ =>
    (s.deleteAll (s.contained participant)).succeed ()

/-- Gives back one proxy's hold on an entity. A participant that nobody holds and that contains
nothing is deleted. -/
def release (s : State) (handle : Handle) : State :=
  match s.entities.get? handle with
  | none => s
  | some record =>
    let s := s.modifyEntity handle fun r => { r with refs := r.refs - 1 }
    if record.refs ≤ 1 ∧ record.kind = .participant ∧ s.contained handle = [] then s.remove handle
    else s

end DdsBridge.Provider.State
