import DdsBridge.Dds.Duration

/-!
# Quality of service

What a writer offers and a reader requests. A reader is compatible with a writer if it requests
neither a higher reliability nor a higher durability than the writer offers; the partitions of
their groups decide apart from that whether they see each other at all.

* **`EndpointQos`** — durability, reliability and history of a writer or reader.
* **`incompatiblePolicy`** — the first policy in which less is offered than requested.
* **`partitionsMatch`** — whether two groups share a partition.
-/

namespace DdsBridge

/-- How long a sample stays available for readers that join late, weakest first. -/
inductive DurabilityKind where
  | volatile
  | transientLocal
  | transient
  | persistent
  deriving DecidableEq, Repr

/-- The strength of a durability. -/
def DurabilityKind.rank : DurabilityKind → Nat
  | .volatile => 0
  | .transientLocal => 1
  | .transient => 2
  | .persistent => 3

/-- The durability of a strength. -/
def DurabilityKind.ofRank? : Nat → Option DurabilityKind
  | 0 => some .volatile
  | 1 => some .transientLocal
  | 2 => some .transient
  | 3 => some .persistent
  | _ => none

/-- The name of a durability. -/
def DurabilityKind.name : DurabilityKind → String
  | .volatile => "Volatile"
  | .transientLocal => "TransientLocal"
  | .transient => "Transient"
  | .persistent => "Persistent"

/-- Whether samples are kept for readers that join late. -/
def DurabilityKind.isDurable (kind : DurabilityKind) : Bool :=
  DurabilityKind.transientLocal.rank ≤ kind.rank

/-- Whether delivery may lose samples, weakest first. -/
inductive ReliabilityKind where
  | bestEffort
  | reliable
  deriving DecidableEq, Repr

/-- The strength of a reliability. -/
def ReliabilityKind.rank : ReliabilityKind → Nat
  | .bestEffort => 0
  | .reliable => 1

/-- The reliability of a strength. -/
def ReliabilityKind.ofRank? : Nat → Option ReliabilityKind
  | 0 => some .bestEffort
  | 1 => some .reliable
  | _ => none

/-- The name of a reliability. -/
def ReliabilityKind.name : ReliabilityKind → String
  | .bestEffort => "BestEffort"
  | .reliable => "Reliable"

/-- Which samples a full queue keeps. -/
inductive HistoryKind where
  /-- The newest ones. -/
  | keepLast
  /-- Those it has; new ones are refused. -/
  | keepAll
  deriving DecidableEq, Repr

/-- The number of a history kind. -/
def HistoryKind.rank : HistoryKind → Nat
  | .keepLast => 0
  | .keepAll => 1

/-- The history kind with a number. -/
def HistoryKind.ofRank? : Nat → Option HistoryKind
  | 0 => some .keepLast
  | 1 => some .keepAll
  | _ => none

/-- The name of a history kind. -/
def HistoryKind.name : HistoryKind → String
  | .keepLast => "KeepLast"
  | .keepAll => "KeepAll"

/-- The reliability policy. -/
structure Reliability where
  kind : ReliabilityKind
  maxBlockingTime : Duration := ⟨0, 100000000⟩
  deriving DecidableEq, Repr

/-- The history policy. -/
structure History where
  kind : HistoryKind := .keepLast
  depth : Int := 1
  deriving DecidableEq, Repr

/-- The history policy as text. -/
def History.text (history : History) : String :=
  match history.kind with
  | .keepLast => s!"KeepLast({history.depth})"
  | .keepAll => "KeepAll"

/-- A depth must be positive where it counts. -/
def History.isConsistent (history : History) : Bool :=
  history.kind = .keepAll || 1 ≤ history.depth

/-- How many samples the policy keeps; `bound` limits a queue that keeps all. -/
def History.capacity (history : History) (bound : Nat) : Nat :=
  match history.kind with
  | .keepLast => (max history.depth 1).toNat
  | .keepAll => bound

/-- What a writer offers or a reader requests. -/
structure EndpointQos where
  durability : DurabilityKind := .volatile
  reliability : Reliability
  history : History := {}
  deriving DecidableEq, Repr

/-- What a writer offers unless told otherwise. -/
def EndpointQos.writerDefault : EndpointQos := { reliability := { kind := .reliable } }

/-- What a reader requests unless told otherwise. -/
def EndpointQos.readerDefault : EndpointQos := { reliability := { kind := .bestEffort } }

/-- A policy that decides about compatibility. -/
inductive QosPolicy where
  | reliability
  | durability
  deriving DecidableEq, Repr

/-- The name of a policy. -/
def QosPolicy.name : QosPolicy → String
  | .reliability => "RELIABILITY"
  | .durability => "DURABILITY"

/-- The first policy in which the writer offers less than the reader requests. -/
def incompatiblePolicy (offered requested : EndpointQos) : Option QosPolicy :=
  if offered.reliability.kind.rank < requested.reliability.kind.rank then some .reliability
  else if offered.durability.rank < requested.durability.rank then some .durability
  else none

/-- The partitions a list of names stands for: the empty list means the partition without a
name. -/
def partitionNames (names : List String) : List String := if names.isEmpty then [""] else names

/-- Whether a publisher and a subscriber share a partition. -/
def partitionsMatch (offered requested : List String) : Bool :=
  (partitionNames offered).any (partitionNames requested).contains

end DdsBridge
