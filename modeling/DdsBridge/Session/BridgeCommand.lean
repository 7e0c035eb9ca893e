import DdsBridge.Bridge.Callbacks
import DdsBridge.Bridge.Creation
import DdsBridge.Bridge.Samples
import DdsBridge.Idl.Cdr
import DdsBridge.Session.Result

/-!
# Commands on the bridge

What the commands on the bridge do, in terms of the bridge's operations.

* **`BridgeCommand.run`** — one command.
-/

namespace DdsBridge.Session

/-- An action on the bridge of a session. -/
abbrev OnBridge (α : Type) := BridgeAction SessionBody α

variable (isFile : String → Bool) (h : Host SessionBody)

/-- The bridge as it is, if it was built. -/
def currentBridge : SessionAction BridgeState := do
  let bridge := (← Action.world).bridge
  if bridge.generation = 0 then Action.raise (.invalid "no bridge") else return bridge

/-- Builds a bridge in the place of the old one. -/
def buildBridge (moduleName : Option String) (maxSamples : Option Nat) (observed : Bool) :
    SessionAction Yield := do
  let moduleName := moduleName.getD Bridge.defaultModule
  (Bridge.build h moduleName (maxSamples.getD Provider.defaultMaxSamples) observed : OnBridge Unit)
  yieldView (.texts [moduleName, Provider.State.version.text])

/-- The version of the provider, in full. -/
def versionView (v : ProviderVersion) : View :=
  .list [.text v.text, .number v.major, .number v.minor, .number v.micro, .text v.metadata,
    .bool v.isRelease]

/-- What the registry finds for a type name. -/
def registryView (w : SessionWorld) (name : String) : View :=
  .optional (fun entry => .list [inspectView w entry.1, .text entry.2.head.typeName])
    (Registry.findByTypeName? w.bridge name)

/-- Creates a writer or reader. -/
def createEndpoint (create : Ref → Ref → Ref → Option Ref → OnBridge Unit)
    (proxy parent topic : Operand) (qos : Option Operand) : SessionAction Yield := do
  let proxy ← proxy.eval h
  let parent ← parent.eval h
  let topic ← topic.eval h
  let qos ← evalOptional h qos
  create proxy parent topic qos
  yieldDone

/-- Runs an operation on one proxy and tells that it succeeded. -/
def onProxy (proxy : Operand) (operation : Ref → OnBridge Unit) : SessionAction Yield := do
  let proxy ← proxy.eval h
  operation proxy
  yieldDone

/-- Runs an operation on two proxies and tells that it succeeded. -/
def onProxies (a b : Operand) (operation : Ref → Ref → OnBridge Unit) : SessionAction Yield := do
  let a ← a.eval h
  let b ← b.eval h
  operation a b
  yieldDone

/-- Takes a sample and reads it as a value of a type. -/
def takeValue (type : IdlType) (reader : Operand) : SessionAction Yield := do
  let reader ← reader.eval h
  let sample ← Action.keeping (Bridge.take h Cdr.coding reader : OnBridge Ref)
  if sample = h.none then yieldView .none
  else yieldValue type (← (Marshal.fromHost h .bridge type sample : OnBridge Value))

/-- Waits for statuses of an entity. -/
def waitWithin (entity : Operand) (mask : StatusMask) (sec : Int) (nanosec : Nat) :
    SessionAction Yield := do
  let entity ← entity.eval h
  let limit : OnBridge Duration := Action.ofExcept ((Duration.ofParts sec nanosec).mapError .range)
  (Bridge.waitFor h entity mask (← limit) : OnBridge Unit)
  yieldDone

/-- Carries out a command on a bridge that was built. -/
def BridgeCommand.runOn (bridge : BridgeState) : BridgeCommand Operand → SessionAction Yield
  | .build moduleName maxSamples observed => buildBridge h moduleName maxSamples observed
  | .init options => do
    (Bridge.init isFile options : OnBridge Unit)
    yieldDone
  | .isInitialized => yieldView (.bool bridge.initialized)
  | .version => yieldView (versionView Provider.State.version)
  | .registerTopicType type => do
    yieldObject (← (Registry.registerTopicType h type : OnBridge Ref))
  | .registry names => do
    let w ← Action.world
    let count := bridge.registry.size
    yieldView (.list
      [.number count, .bool (count == 0), .list (names.map (registryView w))])
  | .lookup cls => do
    let cls ← cls.eval h
    let type ← (Registry.lookupType h cls : OnBridge StructType)
    yieldView (.list [.text type.head.typeName, inspectView (← Action.world) cls])
  | .typeName cls => do
    let cls ← cls.eval h
    yieldView (.text (← (Bridge.typeName h cls : OnBridge String)))
  | .createParticipant proxy domain =>
    onProxy h proxy fun proxy => Bridge.createParticipant h proxy domain
  | .createTopic proxy participant name topicType =>
    onProxies h proxy participant fun proxy participant =>
      Bridge.createTopic h proxy participant name topicType
  | .createPublisher proxy participant => onProxies h proxy participant (Bridge.createPublisher h)
  | .createSubscriber proxy participant =>
    onProxies h proxy participant (Bridge.createSubscriber h)
  | .createWriter proxy publisher topic qos =>
    createEndpoint h (Bridge.createWriter h) proxy publisher topic qos
  | .createReader proxy subscriber topic qos =>
    createEndpoint h (Bridge.createReader h) proxy subscriber topic qos
  | .registerType participant cls => onProxies h participant cls (Bridge.registerType h)
  | .cleanup proxy => onProxy h proxy (Bridge.cleanup h)
  | .write writer sample => do
    let writer ← writer.eval h
    let sample ← sample.eval h
    (Bridge.write h Cdr.coding writer sample : OnBridge Unit)
    yieldView (.number 0)
  | .take reader => do
    let reader ← reader.eval h
    yieldObject (← (Bridge.take h Cdr.coding reader : OnBridge Ref))
  | .takeAs reader type => takeValue h type reader
  | .waitFor entity mask sec nanosec => waitWithin h entity mask sec nanosec
  | .setCallback reader callback => onProxies h reader callback (Bridge.setCallback h)
  | .clearCallback reader => onProxy h reader (Bridge.clearCallback h)
  | .pending =>
    yieldView (.list [.number bridge.pending.length, .number bridge.callbacks.size])
  | .dispatch timeout => do
    yieldView (.number (← (Bridge.dispatch h timeout.isSome : OnBridge Nat)))
  | .fetch proxy kind role => do
    let proxy ← proxy.eval h
    yieldView (.text (← (Proxies.resolveAs h proxy kind role : OnBridge Handle)).text)
  | .fetchAny proxy role => do
    let proxy ← proxy.eval h
    yieldView
      (entityView (← (Proxies.resolve h proxy role : OnBridge (EntityKind × Handle))))
  | .exception error => do yieldObject (← newException h error)
  | .exceptionClass (.kind kind) => yieldObject (bridge.exceptions.classForKind kind)
  | .exceptionClass (.error error) => yieldObject (bridge.exceptions.classFor error)
  | .exceptionClass (.code code) => do
    match bridge.exceptions.classForCode code with
    | some cls => yieldObject cls
    | none => yieldView .none
  | .exceptionClasses => do
    let w ← Action.world
    let shown := bridge.exceptions.classes.map fun (name, cls) =>
      .list [.text name, inspectView w cls]
    yieldView (.list shown)
  | .exceptionBase => yieldObject bridge.exceptions.base

/-- Carries out a command on the bridge; only the one that builds a bridge can come before there
is one. -/
def BridgeCommand.run (command : BridgeCommand Operand) : SessionAction Yield := do
  match command with
  | .build moduleName maxSamples observed => buildBridge h moduleName maxSamples observed
  | command => BridgeCommand.runOn isFile h (← currentBridge) command

end DdsBridge.Session
