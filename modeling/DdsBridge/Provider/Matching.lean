import DdsBridge.Provider.Delivery

/-!
# Matching writers with readers

A new writer or reader meets every endpoint of the opposite kind in the same domain whose topic
has the same name and the same type. If their groups share a partition, the two ends are matched
or, if the reader requests more than the writer offers, told that they are incompatible. A reader
that asks for durable samples is then offered what the writer has kept.

* **`State.topicKey`** — what two endpoints must agree on.
* **`State.connect`** — one writer with one reader.
* **`State.discover`** — a new endpoint with all its peers.
-/

namespace DdsBridge.Provider

/-- What a writer and a reader must agree on to meet. -/
structure TopicKey where
  domain : DomainId
  topicName : String
  typeName : String
  deriving DecidableEq, Repr

/-- The topic of a writer or reader. -/
def Body.topic? : Body → Option Handle
  | .writer w => some w.topic
  | .reader r => some r.topic
  | _ => none

namespace State

/-- The partitions of a publisher or subscriber. -/
def partitionOf (s : State) (group : Option Handle) : List String :=
  match (group.bind s.entities.get?).map Record.body with
  | some (.publisher partition) => partition
  | some (.subscriber partition) => partition
  | _ => []

/-- The key of a live writer or reader. -/
def topicKey (s : State) (endpoint : Handle) : Option TopicKey := do
  let record ← s.entities.get? endpoint
  let topic ← record.body.topic?
  match (← s.entities.get? topic).body with
  | .topic topicName typeName =>
    let domain ← s.domainOf record.participant
    return { domain, topicName, typeName }
  | _ => none

/-- Whether the groups of a writer and a reader share a partition. -/
def sharePartition (s : State) (writer reader : Handle) : Bool :=
  partitionsMatch
    (s.partitionOf ((s.entities.get? writer).bind Record.parent))
    (s.partitionOf ((s.entities.get? reader).bind Record.parent))

/-- What a writer has kept that a reader asks for. -/
def replay (w : Writer) (requested : EndpointQos) : List (List UInt8) :=
  if requested.durability.isDurable then w.history else []

/-- Brings a writer and a reader with the same key together. -/
def connect (s : State) (writer reader : Handle) : State :=
  if !s.sharePartition writer reader then s
  else
    match s.writer? writer, s.reader? reader with
    | some w, some r =>
      match incompatiblePolicy w.qos r.qos with
      | some _ =>
        (s.raise writer .offeredIncompatibleQos).raise reader .requestedIncompatibleQos
      | none =>
        let s := s.modifyWriter writer fun w => { w with matched := insertHandle reader w.matched }
        let s := s.modifyReader reader fun r => { r with matched := insertHandle writer r.matched }
        let s := (s.raise writer .publicationMatched).raise reader .subscriptionMatched
        s.offerAll reader ((replay w r.qos).map fun payload => ⟨payload, .valid writer⟩)
    | _, _ => s

/-- Whether two bodies are the two ends of a possible match. -/
def areOpposite : Body → Body → Bool
  | .writer _, .reader _ => true
  | .reader _, .writer _ => true
  | _, _ => false

/-- The endpoints a new endpoint meets, in the order in which the table lists them. -/
def peersOf (s : State) (endpoint : Handle) : List Handle :=
  match s.entities.get? endpoint, s.topicKey endpoint with
  | some record, some key =>
    s.entities.keys.filter fun peer =>
      match s.entities.get? peer with
      | some other => areOpposite record.body other.body && s.topicKey peer = some key
      | none => false
  | _, _ => []

/-- Brings an endpoint together with one of its peers. -/
def meet (s : State) (endpoint peer : Handle) : State :=
  match s.writer? endpoint with
  | some _ => s.connect endpoint peer
  | none => s.connect peer endpoint

/-- Brings a new endpoint together with its peers, one after the other. -/
def meetAll (s : State) (endpoint : Handle) (peers : List Handle) : State :=
  peers.foldl (fun s peer => s.meet endpoint peer) s

/-- Matches a new endpoint against every endpoint there is. -/
def discover (s : State) (endpoint : Handle) : State := s.meetAll endpoint (s.peersOf endpoint)

end State

end DdsBridge.Provider
