import DdsBridge.Provider.Matching
import DdsBridge.Provider.Settings

/-!
# Initialization and creation

The provider is initialized before entities are created. A topic needs a type name that is
registered on its participant, and topics of one participant with one name have one type name. A
writer or reader needs a group and a topic of the same participant.

* **`State.init`**, **`State.installRtps`** — the settings.
* **`State.createParticipant`**, …, **`State.createReader`** — the entities.
-/

namespace DdsBridge.Provider.State

/-- Takes over the settings in the arguments. -/
def init (isFile : String → Bool) (s : State) (args : List String) : Result Unit :=
  s.proceed (InitArgs.parse isFile args) fun parsed =>
    let s := { s with
      debugLevel := parsed.debugLevel.getD s.debugLevel
      configFile := parsed.configFile <|> s.configFile
      initialized := true }
    s.succeed ()

/-- Installs the default discovery and transport. -/
def installRtps (s : State) : Result Unit :=
  s.proceed s.requireInit fun _ => succeed { s with rtpsInstalled := true } ()

/-- Creates an entity that is neither writer nor reader. -/
def create (s : State) (kind : EntityKind) (participant : Option Handle) (body : Body) :
    Result Handle :=
  let (handle, s) := s.insert kind participant participant body
  s.succeed handle

/-- Creates a participant of a domain. -/
def createParticipant (s : State) (domain : DomainId) : Result Handle :=
  s.proceed s.requireInit fun _ => s.create .participant none (.participant domain [])

/-- The type names registered on a participant. -/
def typesOf (s : State) (participant : Handle) : List String :=
  match (s.entities.get? participant).map Record.body with
  | some (.participant _ types) => types
  | _ => []

/-- Registers a type name on a participant. -/
def registerType (s : State) (participant : Handle) (typeName : String) : Result Unit :=
  if typeName.isEmpty then s.fail .badParameter
  else
    s.proceed (s.get participant .participant) fun _ =>
      let s := s.modifyEntity participant fun record =>
        match record.body with
        | .participant domain types =>
          { record with body := .participant domain (types.insert typeName) }
        | _ => record
      s.succeed ()

/-- Whether a participant has a topic of this name with another type. -/
def topicClashes (s : State) (participant : Handle) (name typeName : String) : Bool :=
  s.entities.any fun _ record =>
    record.participant = participant &&
      match record.body with
      | .topic name' typeName' => name' = name && typeName' ≠ typeName
      | _ => false

/-- Creates a topic. -/
def createTopic (s : State) (participant : Handle) (name typeName : String) : Result Handle :=
  s.proceed s.requireInit fun _ =>
  s.proceed (s.get participant .participant) fun _ =>
    if !(s.typesOf participant).contains typeName then s.fail .preconditionNotMet
    else if s.topicClashes participant name typeName then s.fail .preconditionNotMet
    else s.create .topic (some participant) (.topic name typeName)

/-- Creates a publisher. -/
def createPublisher (s : State) (participant : Handle) (partition : List String) :
    Result Handle :=
  s.proceed s.requireInit fun _ =>
  s.proceed (s.get participant .participant) fun _ =>
    s.create .publisher (some participant) (.publisher partition)

/-- Creates a subscriber. -/
def createSubscriber (s : State) (participant : Handle) (partition : List String) :
    Result Handle :=
  s.proceed s.requireInit fun _ =>
  s.proceed (s.get participant .participant) fun _ =>
    s.create .subscriber (some participant) (.subscriber partition)

/-- Adds a writer or reader and brings it together with its peers. -/
def insertEndpoint (s : State) (kind : EntityKind) (participant group : Handle) (body : Body) :
    Result Handle :=
  let (handle, s) := s.insert kind (some participant) (some group) body
  (s.discover handle).succeed handle

/-- The participant that a group and a topic have in common. -/
def commonParticipant (s : State) (group : Handle) (kind : EntityKind) (topic : Handle) :
    Except ReturnCode Handle := do
  let participant ← s.participantOf group kind
  if (← s.participantOf topic .topic) ≠ participant then throw .badParameter
  return participant

/-- Creates a writer. -/
def createWriter (s : State) (publisher topic : Handle) (qos : EndpointQos) : Result Handle :=
  if !qos.history.isConsistent then s.fail .inconsistentPolicy
  else
    s.proceed s.requireInit fun _ =>
    s.proceed (s.commonParticipant publisher .publisher topic) fun participant =>
      s.insertEndpoint .writer participant publisher (.writer ⟨topic, qos, [], []⟩)

/-- Creates a reader. -/
def createReader (s : State) (subscriber topic : Handle) (qos : EndpointQos) : Result Handle :=
  if !qos.history.isConsistent then s.fail .inconsistentPolicy
  else
    s.proceed s.requireInit fun _ =>
    s.proceed (s.commonParticipant subscriber .subscriber topic) fun participant =>
      s.insertEndpoint .reader participant subscriber (.reader ⟨topic, qos, [], [], none⟩)

/-- Sets or removes the listener of a reader. -/
def setListener (s : State) (reader : Handle) (listener : Option Listener) (mask : StatusMask) :
    Result Unit :=
  s.proceed (s.get reader .reader) fun _ =>
    let s := s.modifyReader reader fun r =>
      { r with listener := listener.map fun l => (l, mask) }
    s.succeed ()

end DdsBridge.Provider.State
