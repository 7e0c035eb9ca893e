import DdsBridge.Bridge.Policies
import DdsBridge.Bridge.Proxies
import DdsBridge.Session.Result

/-!
# Commands that convert values, and capsules without a bridge

What the commands do that need no bridge. Classes found on the way are remembered by the bridge if
there is one and by the session otherwise.

* **`TypeCommand.run`** — one conversion.
* **`CapsuleCommand.run`** — one command on a capsule that belongs to nobody.
-/

namespace DdsBridge.Session

variable (h : Host SessionBody)

/-- Where classes are remembered at the moment. -/
def currentStore : SessionAction ClassStore := do
  return if (← Action.world).bridge.generation = 0 then .session else .bridge

/-- A structure as an object, in place if there is one already, and whether it is that one. -/
def convertStruct (type : StructType) (value : Value) (existing : Option Operand) :
    SessionAction Yield := do
  let existing ← evalOptional h existing
  let store ← currentStore
  let obj ← (Marshal.structToHost h store type value existing : BridgeAction SessionBody Ref)
  let same := View.optional (fun r => .bool (r == obj)) existing
  return ⟨.list [inspectView (← Action.world) obj, same], some obj⟩

/-- The policies that a host object asks for. -/
def readQos (default : EndpointQos) (qos : Option Operand) : SessionAction Yield := do
  let qos ← evalOptional h qos
  let read ← (Policies.endpointQos h default qos : BridgeAction SessionBody EndpointQos)
  yieldView read.view

/-- Carries out a conversion. -/
def TypeCommand.run : TypeCommand Operand → SessionAction Yield
  | .fromHost type obj => do
    let obj ← obj.eval h
    let store ← currentStore
    yieldValue type (← (Marshal.fromHost h store type obj : BridgeAction SessionBody Value))
  | .toHost type value => do
    let store ← currentStore
    yieldObject (← (Marshal.toHost h store type value : BridgeAction SessionBody Ref))
  | .structToHost type value existing => convertStruct h type value existing
  | .structFromHost type obj => do
    let obj ← obj.eval h
    let store ← currentStore
    let value ← (Marshal.fromHost h store type.type obj : BridgeAction SessionBody Value)
    yieldValue type.type value
  | .resolve name path => do yieldObject (← classOf h .session name path)
  | .remembered => do
    let count := (← Action.world).sessionClasses.size
    yieldView (.list [.number count, .bool (count == 0)])
  | .writerQos qos => readQos h .writerDefault qos
  | .readerQos qos => readQos h .readerDefault qos

/-- Carries out a command on a capsule that belongs to nobody. -/
def CapsuleCommand.run : CapsuleCommand Operand → SessionAction Yield
  | .bind proxy kind handle => do
    let proxy ← proxy.eval h
    let capsule : Capsule := ⟨kind, handle, .loose⟩
    let _ ← (Proxies.bind h proxy capsule : BridgeAction SessionBody Ref)
    yieldView (.text (capsule.inspect "Capsule"))
  | .fetch proxy kind role => do
    let proxy ← proxy.eval h
    let handle ← (Proxies.heldAs h proxy kind role : BridgeAction SessionBody Handle)
    yieldView (.text handle.text)
  | .fetchAny proxy role expected => do
    let proxy ← proxy.eval h
    let held : BridgeAction SessionBody (EntityKind × Handle) :=
      Proxies.heldBy h proxy role expected
    yieldView (entityView (← held))
  | .unbind proxy => do
    let proxy ← proxy.eval h
    (Proxies.unbind h proxy : BridgeAction SessionBody Unit)
    yieldDone

end DdsBridge.Session
