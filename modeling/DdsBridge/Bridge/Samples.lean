import DdsBridge.Bridge.Gate
import DdsBridge.Bridge.Marshal
import DdsBridge.Bridge.Proxies
import DdsBridge.Bridge.Registry
import DdsBridge.Idl.Coding

/-!
# Writing, taking and waiting

A sample is written by converting a host object to a value of the writer's topic type and the value
to its coded form; a sample is taken the other way round. The coding is given. A wait puts the
status condition of an entity into a wait set of its own, which goes when the wait is over, however
it ended.

* **`write`**, **`take`** — samples.
* **`waitFor`** — a wait for statuses of an entity.
-/

namespace DdsBridge.Bridge

open Proxies Registry

variable {B : Type} (h : Host B)

/-- Writes an object as a sample of a topic type. -/
def writeSample (coding : SampleCoding) (s : StructType) (writer : Handle) (sample : Ref) :
    BridgeAction B Unit := do
  let value ← Marshal.fromHost h .bridge s.type sample
  let payload ← Action.ofExcept ((coding.encode s.type value).mapError Error.serialization)
  let code ← Gate.run .write fun state => state.write writer payload
  Gate.check "write" code

/-- Writes an object through the writer of a proxy. -/
def write (coding : SampleCoding) (writerProxy sample : Ref) : BridgeAction B Unit := do
  let writer ← resolveAs h writerProxy .writer "datawriter"
  let s ← topicTypeOf h writerProxy
  writeSample h coding s writer sample

/-- Takes a sample of a topic type as a new object; a sample without data is the object that
stands for nothing. -/
def takeSample (coding : SampleCoding) (s : StructType) (reader : Handle) :
    BridgeAction B Ref := do
  match ← Gate.fetch .takeNextSample fun state => state.take reader with
  | .error .noData => Action.raise (.noData s!"{s.head.typeName} reader {reader.text}")
  | .error code => Action.raise (.operation "take_next_sample" code)
  | .ok sample =>
    if sample.info.validData then
      match coding.decode s.type sample.payload with
      | .ok value => Marshal.toHost h .bridge s.type value
      | .error reason => Action.raise (.serialization reason)
    else return h.none

/-- Takes the next sample from the reader of a proxy. -/
def take (coding : SampleCoding) (readerProxy : Ref) : BridgeAction B Ref := do
  let reader ← resolveAs h readerProxy .reader "datareader"
  let s ← topicTypeOf h readerProxy
  takeSample h coding s reader

/-- Puts the status condition of an entity, enabled for some statuses, into a new wait set. If
that fails the wait set is deleted again. -/
def attachCondition (entity : Handle) (mask : StatusMask) :
    BridgeAction B (WaitSetId × ConditionId) := do
  let result ← Gate.fetch .statusCondition fun s => s.statusCondition entity
  let condition ← Gate.expect "get_statuscondition" result
  let code ← Gate.run .setEnabledStatuses fun s => s.setEnabled condition mask
  Gate.check "set_enabled_statuses" code
  let (waitSet, s) := (← Action.world).provider.createWaitSet
  Action.change fun w => w.advance s
  let code ← Gate.run .attachCondition fun s => s.attach waitSet condition
  if !code.isOk then
    let _ ← Gate.run (ε := Error) .deleteWaitset fun s => s.deleteWaitSet waitSet
  Gate.check "attach_condition" code
  return (waitSet, condition)

/-- Takes the condition out of the wait set and deletes the wait set. -/
def detachCondition (waitSet : WaitSetId) (condition : ConditionId) : BridgeAction B Unit := do
  let _ ← Gate.run (ε := Error) .detachCondition fun s => s.detach waitSet condition
  let _ ← Gate.run (ε := Error) .deleteWaitset fun s => s.deleteWaitSet waitSet

/-- Waits until one of the statuses is raised on the entity of a proxy or the time is up. -/
def waitFor (proxy : Ref) (mask : StatusMask) (limit : Duration) : BridgeAction B Unit := do
  let (_, entity) ← resolve h proxy "entity"
  let (waitSet, condition) ← attachCondition entity mask
  let code ← unlocked (Gate.wait waitSet limit)
  detachCondition waitSet condition
  match code with
  | .ok => return
  | .timeout => Action.raise (.timeout limit mask)
  | code => Action.raise (.operation "wait" code)

end DdsBridge.Bridge
