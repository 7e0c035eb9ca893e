import DdsBridge.Bridge.Policies
import DdsBridge.Bridge.Proxies
import DdsBridge.Bridge.Registry
import DdsBridge.Bridge.Setup

/-!
# Creating and deleting entities

An entity is created in three steps: the entities that the given proxies stand for are looked up,
the provider is asked for the new entity, and the new entity is bound to its proxy. A reader or
writer proxy gets its capsule and the link to its topic proxy together or not at all.

* **`createParticipant`**, …, **`createReader`** — creation.
* **`registerType`** — a topic type on a participant.
* **`cleanup`** — deletes everything a participant contains.
-/

namespace DdsBridge.Bridge

open Proxies Registry

variable {B : Type} [ObjectBody B] (h : Host B)

/-- The attribute of a participant proxy that lists the classes of its registered types. -/
def registeredTypesAttr : String := "_registered_types"

/-- The capsule for a new entity of the bridge. -/
def capsuleFor (kind : EntityKind) (handle : Handle) : BridgeAction B Capsule := do
  let bridge := (← Action.world).bridge
  return ⟨kind, handle, .bridge bridge.generation bridge.observed⟩

/-- Binds a new entity to its proxy. -/
def bindEntity (proxy : Ref) (kind : EntityKind) (handle : Handle) : BridgeAction B Unit := do
  let _ ← bind h proxy (← capsuleFor kind handle)

/-- Creates a participant of a domain. -/
def createParticipant (proxy : Ref) (domain : DomainId) : BridgeAction B Unit := do
  requireInit "create_participant"
  let result ← Gate.fetch .createParticipant fun s => s.createParticipant domain
  let participant ← Gate.expect "create_participant" result
  bindEntity h proxy .participant participant

/-- Records the class of a type on a topic proxy that has none yet. -/
def linkType (proxy : Ref) (typeName : String) : BridgeAction B Unit := do
  match ← (h.getAttr proxy typeAttr).attempt (δ := Error) with
  | .ok _ => return
  | .error _ =>
    match findByTypeName? (← Action.world).bridge typeName with
    | none => return
    | some (cls, _) => h.setAttr proxy typeAttr cls

/-- Creates a topic. If a registered class has its type name and the proxy has no class yet, the
class is recorded on the proxy. -/
def createTopic (proxy participantProxy : Ref) (name typeName : String) :
    BridgeAction B Unit := do
  requireInit "create_topic"
  let participant ← resolveAs h participantProxy .participant "participant"
  let result ← Gate.fetch .createTopic fun s => s.createTopic participant name typeName
  let topic ← Gate.expect "create_topic" result
  bindEntity h proxy .topic topic
  linkType h proxy typeName

/-- Creates a publisher in the default partition. -/
def createPublisher (proxy participantProxy : Ref) : BridgeAction B Unit := do
  requireInit "create_publisher"
  let participant ← resolveAs h participantProxy .participant "participant"
  let result ← Gate.fetch .createPublisher fun s => s.createPublisher participant []
  let publisher ← Gate.expect "create_publisher" result
  bindEntity h proxy .publisher publisher

/-- Creates a subscriber in the default partition. -/
def createSubscriber (proxy participantProxy : Ref) : BridgeAction B Unit := do
  requireInit "create_subscriber"
  let participant ← resolveAs h participantProxy .participant "participant"
  let result ← Gate.fetch .createSubscriber fun s => s.createSubscriber participant []
  let subscriber ← Gate.expect "create_subscriber" result
  bindEntity h proxy .subscriber subscriber

/-- Restores the topic link of a proxy as far as the proxy allows it. -/
def restoreTopic (proxy : Ref) (previous : Option Ref) : BridgeAction B Unit := do
  let restore : HostAction B Unit :=
    match previous with
    | some topic => h.setAttr proxy topicAttr topic
    | none => h.delAttr proxy topicAttr
  let _ ← restore.attempt (δ := Error)

/-- Binds a new reader or writer together with the link to its topic proxy. If the proxy refuses
the capsule, the previous link is restored. -/
def bindEndpoint (proxy : Ref) (kind : EntityKind) (handle : Handle) (topicProxy : Ref) :
    BridgeAction B Unit := do
  let wrapped ← (h.newCapsule (← capsuleFor kind handle) : HostAction B Ref)
  let previous ← (h.getAttr proxy topicAttr).attempt (δ := Error)
  Action.holding (wrapped :: previous.toOption.toList) do
    h.setAttr proxy topicAttr topicProxy
    let store : HostAction B Unit := h.setAttr proxy capsuleAttr wrapped
    match ← store.attempt with
    | .ok () => return
    | .error error =>
      restoreTopic h proxy previous.toOption
      Action.raise (.host error)

/-- Creates a writer. -/
def createWriter (proxy publisherProxy topicProxy : Ref) (qos : Option Ref) :
    BridgeAction B Unit := do
  requireInit "create_datawriter"
  let publisher ← resolveAs h publisherProxy .publisher "publisher"
  let topic ← resolveAs h topicProxy .topic "topic"
  let qos ← Policies.endpointQos h .writerDefault qos
  let result ← Gate.fetch .createDatawriter fun s => s.createWriter publisher topic qos
  let writer ← Gate.expect "create_datawriter" result
  bindEndpoint h proxy .writer writer topicProxy

/-- Creates a reader. -/
def createReader (proxy subscriberProxy topicProxy : Ref) (qos : Option Ref) :
    BridgeAction B Unit := do
  requireInit "create_datareader"
  let subscriber ← resolveAs h subscriberProxy .subscriber "subscriber"
  let topic ← resolveAs h topicProxy .topic "topic"
  let qos ← Policies.endpointQos h .readerDefault qos
  let result ← Gate.fetch .createDatareader fun s => s.createReader subscriber topic qos
  let reader ← Gate.expect "create_datareader" result
  bindEndpoint h proxy .reader reader topicProxy

/-- Lists a class on a participant proxy unless it is listed already. -/
def listRegisteredType (participantProxy cls : Ref) : BridgeAction B Unit := do
  match ← (h.getAttr participantProxy registeredTypesAttr).attempt with
  | .ok listed =>
    let items ← (h.listItems listed : HostAction B (List Ref))
    if !items.contains cls then
      let list ← (h.newList (items ++ [cls]) : HostAction B Ref)
      h.setAttr participantProxy registeredTypesAttr list
  | .error error =>
    if error.kind = .attribute then
      let list ← (h.newList [cls] : HostAction B Ref)
      h.setAttr participantProxy registeredTypesAttr list
    else Action.raise (.host error)

/-- Registers the topic type of a class with a participant. -/
def registerType (participantProxy cls : Ref) : BridgeAction B Unit := do
  requireInit "register_type"
  let participant ← resolveAs h participantProxy .participant "participant"
  let s ← lookupType h cls
  let code ← Gate.run .registerType fun state => state.registerType participant s.head.typeName
  Gate.check "register_type" code
  listRegisteredType h participantProxy cls

/-- The type name of a registered class. -/
def typeName (cls : Ref) : BridgeAction B String := do
  return (← lookupType h cls).head.typeName

/-- Forgets the callbacks of readers that no longer exist. -/
def pruneCallbacks (w : World B) : World B :=
  let callbacks := w.bridge.callbacks.filter fun reader _ => w.provider.isAlive reader
  World.collect { w with bridge := { w.bridge with callbacks } }

/-- Deletes everything that the participant of a proxy contains. -/
def cleanup (proxy : Ref) : BridgeAction B Unit := do
  let participant ← resolveAs h proxy .participant "participant"
  let code ← Gate.run .deleteContainedEntities fun s => s.deleteContained participant
  Gate.check "delete_contained_entities" code
  Action.change pruneCallbacks

end DdsBridge.Bridge
