import DdsBridge.Bridge.Classes

/-!
# Topic types

A structure becomes a topic type when it is registered: from then on its host class, and no other
class, not even one derived from it, stands for it. The type of a reader or writer proxy is found
through its topic proxy.

* **`registerTopicType`** — registration.
* **`lookupType`** — the topic type of a class.
* **`findByTypeName?`** — the class registered for a type name.
* **`topicTypeOf`** — the topic type of a reader or writer proxy.
-/

namespace DdsBridge.Registry

/-- The attribute that links a reader or writer proxy to its topic proxy. -/
def topicAttr : String := "topic"

/-- The attribute of a topic proxy that holds the class of its type. -/
def typeAttr : String := "type"

variable {B : Type} (h : Host B)

/-- Registers a topic type under its host class. Registering a class again replaces its type. -/
def registerTopicType (s : StructType) : BridgeAction B Ref := do
  let cls ← (classOf h .bridge s.head.name s.head.host : HostAction B Ref)
  Action.change fun w =>
    { w with bridge := { w.bridge with registry := w.bridge.registry.insert cls s } }
  return cls

/-- The name of a class, for the error of a class that is not registered. -/
def nameOfClass (cls : Ref) : BridgeAction B String := do
  let named : HostAction B String := do h.strOf (← h.getAttr cls "__name__")
  match ← named.attempt with
  | .ok name => return name
  | .error _ =>
    match ← (h.strOf cls).attempt with
    | .ok text => return text
    | .error _ => return "<object>"

/-- The topic type of a class. -/
def lookupType (cls : Ref) : BridgeAction B StructType := do
  match (← Action.world).bridge.registry.get? cls with
  | some s => return s
  | none => Action.raise (.unknownType (← nameOfClass h cls))

/-- The class registered for a type name, with its topic type. -/
def findByTypeName? (bridge : BridgeState) (typeName : String) : Option (Ref × StructType) :=
  bridge.registry.entries.find? fun entry => entry.2.head.typeName == typeName

/-- The topic type of a reader or writer proxy. -/
def topicTypeOf (proxy : Ref) : BridgeAction B StructType := do
  match ← (h.getAttr proxy topicAttr).attempt (δ := Error) with
  | .error _ => Action.raise (.unknownType s!"{← h.describe proxy} without a topic")
  | .ok topic =>
    match ← (h.getAttr topic typeAttr).attempt (δ := Error) with
    | .error _ => Action.raise (.unknownType s!"topic {← h.describe topic} without a type")
    | .ok cls => lookupType h cls

end DdsBridge.Registry
