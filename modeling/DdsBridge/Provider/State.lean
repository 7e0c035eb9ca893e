import DdsBridge.Dds.Entity
import DdsBridge.Dds.Qos
import DdsBridge.Dds.ReturnCode
import DdsBridge.Dds.Status
import DdsBridge.Table

/-!
# The state of an in-process provider

The provider keeps every live entity in one table. A participant owns all other entities; topics,
publishers and subscribers hang below it, writers below a publisher and readers below a
subscriber. Matching is stored on both ends. Samples travel from a writer straight into the queues
of the readers it is matched with.

An operation changes the state as it goes. Where it fails, it ends with a code and with the state
as it is by then: nothing puts an earlier state back.

* **`State`** — the whole state. Listener calls that are due are a part of it, so that what an
  operation causes is a value and not an effect.
* **`Record`**, **`Body`** — an entity.
* **`Result`**, **`State.fail`**, **`State.proceed`** — how an operation ends, well or not.
* **`State.get`** — a look-up that tells a deleted handle from one that was never issued.
* **`State.allocate`**, **`State.insert`** — new numbers and new entities.
* **`State.relist`** — the table of the entities in another order.
-/

namespace DdsBridge.Provider

/-- Who is told about a status of a reader. -/
inductive Listener where
  /-- The channel of notifications that the bridge drains. -/
  | channel
  /-- A listener of its own, known by a label. -/
  | labelled (label : String)
  deriving DecidableEq, Repr

/-- A listener call that is due. -/
structure Call where
  listener : Listener
  reader : Handle
  status : StatusKind
  deriving DecidableEq, Repr

/-- A writer: its topic, what it offers, the readers matched with it in ascending order, and the
payloads it keeps for readers that join late, oldest first. -/
structure Writer where
  topic : Handle
  qos : EndpointQos
  matched : List Handle
  history : List (List UInt8)
  deriving DecidableEq, Repr

/-- A reader: its topic, what it requests, the writers matched with it in ascending order, the
samples not yet taken, oldest first, and its listener with the statuses it wants. -/
structure Reader where
  topic : Handle
  qos : EndpointQos
  matched : List Handle
  queue : List Sample
  listener : Option (Listener × StatusMask)
  deriving DecidableEq, Repr

/-- What is particular to a kind of entity. -/
inductive Body where
  | participant (domain : DomainId) (types : List String)
  | topic (name typeName : String)
  | publisher (partition : List String)
  | subscriber (partition : List String)
  | writer (writer : Writer)
  | reader (reader : Reader)
  deriving DecidableEq, Repr

/-- The kind of entity that a body belongs to. -/
def Body.kind : Body → EntityKind
  | .participant .. => .participant
  | .topic .. => .topic
  | .publisher _ => .publisher
  | .subscriber _ => .subscriber
  | .writer _ => .writer
  | .reader _ => .reader

/-- A live entity: its kind, the participant it belongs to, the entity it was created on, how many
proxies hold it, the statuses raised on it and its status condition, once somebody asked for it.
Its kind is stored beside its body, and whoever creates an entity gives both. -/
structure Record where
  kind : EntityKind
  participant : Handle
  parent : Option Handle
  refs : Nat
  raised : StatusMask
  condition : Option ConditionId
  body : Body
  deriving DecidableEq, Repr

/-- A status condition: its entity and the statuses that trigger it. -/
structure Condition where
  entity : Handle
  enabled : StatusMask
  deriving DecidableEq, Repr

/-- A wait set: the conditions attached to it and whether somebody waits on it. -/
structure WaitSet where
  conditions : List ConditionId
  waiting : Bool
  deriving DecidableEq, Repr

/-- The state of a provider. `lastId` is the last number issued, `maxSamples` the bound of a queue
that keeps all samples, and `calls` are the listener calls that are due, in order. -/
structure State where
  lastId : Nat
  maxSamples : Nat
  initialized : Bool
  rtpsInstalled : Bool
  debugLevel : Nat
  configFile : Option String
  entities : Table Handle Record
  conditions : Table ConditionId Condition
  waitSets : Table WaitSetId WaitSet
  calls : List Call
  deriving DecidableEq, Repr

/-- How an operation ends: with what it yields or with a code, and with a state in either case. -/
abbrev Result (α : Type) := Except ReturnCode α × State

/-- How many samples a queue that keeps all holds unless told otherwise. -/
def defaultMaxSamples : Nat := 5000

namespace State

/-- A new provider. A bound of no samples is taken for a bound of one. -/
def new (maxSamples : Nat := defaultMaxSamples) : State where
  lastId := 0
  maxSamples := max maxSamples 1
  initialized := false
  rtpsInstalled := false
  debugLevel := 0
  configFile := none
  entities := .empty
  conditions := .empty
  waitSets := .empty
  calls := []

instance : Inhabited State := ⟨new⟩

/-- The version of the provider. -/
def version : ProviderVersion := ⟨0, 1, 0, "loopback", true⟩

/-- An operation succeeds. -/
def succeed (s : State) {α : Type} (a : α) : Result α := (.ok a, s)

/-- An operation fails, and the state is left as it is by then. -/
def fail (s : State) {α : Type} (code : ReturnCode) : Result α := (.error code, s)

/-- Goes on with what a look-up found; where it found nothing, the operation fails. -/
def proceed (s : State) {α β : Type} (found : Except ReturnCode α) (next : α → Result β) :
    Result β :=
  match found with
  | .error code => s.fail code
  | .ok a => next a

/-- Issues the next number. -/
def allocate (s : State) : Nat × State := (s.lastId + 1, { s with lastId := s.lastId + 1 })

/-- Adds an entity, held by one proxy. A participant belongs to itself. -/
def insert (s : State) (kind : EntityKind) (participant parent : Option Handle) (body : Body) :
    Handle × State :=
  let (id, s) := s.allocate
  let handle : Handle := ⟨id⟩
  let record : Record :=
    { kind, participant := participant.getD handle, parent, refs := 1, raised := .none,
      condition := none, body }
  (handle, { s with entities := s.entities.insert handle record })

/-- Why a handle names no live entity. Numbers are never issued twice, so one that was issued
named something that is gone. -/
def missing (s : State) (handle : Handle) : ReturnCode :=
  if handle.id ≠ 0 ∧ handle.id ≤ s.lastId then .alreadyDeleted else .badParameter

/-- The live entity with a handle, which must be of the given kind. -/
def get (s : State) (handle : Handle) (kind : EntityKind) : Except ReturnCode Record :=
  match s.entities.get? handle with
  | some record => if record.kind = kind then .ok record else .error .badParameter
  | none => .error (s.missing handle)

/-- Lists the entities in another order. No request asks for it: the table is one that promises no
order, so between two requests its entries may come to stand in any. -/
def relist (s : State) (order : List Handle) : State :=
  { s with entities := s.entities.relist order }

/-- Changes an entity. -/
def modifyEntity (s : State) (handle : Handle) (f : Record → Record) : State :=
  { s with entities := s.entities.modify handle f }

/-- The live writer with a handle. -/
def writer? (s : State) (handle : Handle) : Option Writer :=
  match (s.entities.get? handle).map Record.body with
  | some (.writer writer) => some writer
  | _ => none

/-- The live reader with a handle. -/
def reader? (s : State) (handle : Handle) : Option Reader :=
  match (s.entities.get? handle).map Record.body with
  | some (.reader reader) => some reader
  | _ => none

/-- Changes a writer. -/
def modifyWriter (s : State) (handle : Handle) (f : Writer → Writer) : State :=
  s.modifyEntity handle fun record =>
    match record.body with
    | .writer writer => { record with body := .writer (f writer) }
    | _ => record

/-- Changes a reader. -/
def modifyReader (s : State) (handle : Handle) (f : Reader → Reader) : State :=
  s.modifyEntity handle fun record =>
    match record.body with
    | .reader reader => { record with body := .reader (f reader) }
    | _ => record

/-- The domain of a participant. -/
def domainOf (s : State) (participant : Handle) : Option DomainId :=
  match (s.entities.get? participant).map Record.body with
  | some (.participant domain _) => some domain
  | _ => none

/-- The participant of a live entity of the given kind. -/
def participantOf (s : State) (handle : Handle) (kind : EntityKind) : Except ReturnCode Handle :=
  (s.get handle kind).map Record.participant

/-- Whether a handle names a live entity. -/
def isAlive (s : State) (handle : Handle) : Bool := s.entities.contains handle

/-- Most operations fail until the provider is initialized. -/
def requireInit (s : State) : Except ReturnCode Unit :=
  if s.initialized then .ok () else .error .preconditionNotMet

end State

end DdsBridge.Provider
