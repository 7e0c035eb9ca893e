/-!
# Entities and samples

An entity lives inside a provider and is named from outside by its handle only. Handles, status
conditions and wait sets are numbered by one counter, so no number is issued twice.

* **`Handle`**, **`ConditionId`**, **`WaitSetId`** — the three kinds of number.
* **`EntityKind`** — the six kinds of entity.
* **`SampleInfo`** — what accompanies a sample.
* **`ProviderVersion`** — a provider's version and its text.
-/

namespace DdsBridge

/-- The number of a domain; participants of different domains never meet. -/
abbrev DomainId := Nat

/-- The name of an entity of a provider. -/
structure Handle where
  id : Nat
  deriving DecidableEq, Repr, Inhabited

/-- A handle as error texts show it. -/
def Handle.text (handle : Handle) : String := s!"#{handle.id}"

/-- The name of a status condition of a provider. -/
structure ConditionId where
  id : Nat
  deriving DecidableEq, Repr, Inhabited

/-- The name of a wait set of a provider. -/
structure WaitSetId where
  id : Nat
  deriving DecidableEq, Repr, Inhabited

/-- The kind of an entity. -/
inductive EntityKind where
  | participant
  | topic
  | publisher
  | subscriber
  | writer
  | reader
  deriving DecidableEq, Repr

namespace EntityKind

/-- Every kind. -/
def all : List EntityKind := [.participant, .topic, .publisher, .subscriber, .writer, .reader]

/-- The name of a kind. -/
def name : EntityKind → String
  | .participant => "DomainParticipant"
  | .topic => "Topic"
  | .publisher => "Publisher"
  | .subscriber => "Subscriber"
  | .writer => "DataWriter"
  | .reader => "DataReader"

/-- The kind as one capitalized word, as diagnostics show it. -/
def word : EntityKind → String
  | .participant => "Participant"
  | kind => kind.name

/-- The kind with a name. -/
def ofName? (name : String) : Option EntityKind := all.find? (·.name == name)

end EntityKind

/-- What a sample says about its instance. -/
inductive InstanceState where
  | alive
  | notAliveDisposed
  | notAliveNoWriters
  deriving DecidableEq, Repr

/-- The name of an instance state. -/
def InstanceState.name : InstanceState → String
  | .alive => "ALIVE"
  | .notAliveDisposed => "NOT_ALIVE_DISPOSED"
  | .notAliveNoWriters => "NOT_ALIVE_NO_WRITERS"

/-- What accompanies a sample: whether it carries data, the state of its instance and the writer
it came from. -/
structure SampleInfo where
  validData : Bool
  instanceState : InstanceState
  publication : Option Handle
  deriving DecidableEq, Repr

/-- The information of a sample written by `writer`. -/
def SampleInfo.valid (writer : Handle) : SampleInfo := ⟨true, .alive, some writer⟩

/-- The information of a notice that an instance changed its state, which carries no data. -/
def SampleInfo.notice (state : InstanceState) : SampleInfo := ⟨false, state, none⟩

/-- A sample as a reader queues it. -/
structure Sample where
  payload : List UInt8
  info : SampleInfo
  deriving DecidableEq, Repr

/-- The version of a provider. -/
structure ProviderVersion where
  major : Nat
  minor : Nat
  micro : Nat
  metadata : String
  isRelease : Bool
  deriving DecidableEq, Repr

/-- The three numbers with points between them, and the metadata, if any, after a hyphen. -/
def ProviderVersion.text (v : ProviderVersion) : String :=
  let numbers := s!"{v.major}.{v.minor}.{v.micro}"
  if v.metadata.isEmpty then numbers else numbers ++ "-" ++ v.metadata

end DdsBridge
