import DdsBridge.Provider.Cleanup
import DdsBridge.Provider.Creation
import DdsBridge.Provider.Waiting

/-!
# Operations of a provider

Everything that a client can ask of a provider, as one type, so that a run is a list of operations
and a reachable state is one that some run ends in. Each operation is one atomic step; a wait is
two of them, its entry and its end, with any other steps in between. What an operation finds by
going through the entities it meets in the order in which they are listed at that moment, and as
a run may list them anew at any time, it meets them in every order there is.

* **`Operation`**, **`Reply`** — what is asked and what is answered.
* **`State.perform`** — one step.
* **`Operation.notifies`** — the steps after which waiting clients look again.
* **`Reachable`** — the states that runs end in.
-/

namespace DdsBridge.Provider

/-- A request to a provider. -/
inductive Operation where
  | init (args : List String)
  | installRtps
  | createParticipant (domain : DomainId)
  | deleteContained (participant : Handle)
  | registerType (participant : Handle) (typeName : String)
  | createTopic (participant : Handle) (name typeName : String)
  | createPublisher (participant : Handle) (partition : List String)
  | createSubscriber (participant : Handle) (partition : List String)
  | createWriter (publisher topic : Handle) (qos : EndpointQos)
  | createReader (subscriber topic : Handle) (qos : EndpointQos)
  | write (writer : Handle) (payload : List UInt8)
  | take (reader : Handle)
  | statusCondition (entity : Handle)
  | setEnabled (condition : ConditionId) (mask : StatusMask)
  | createWaitSet
  | deleteWaitSet (waitSet : WaitSetId)
  | attach (waitSet : WaitSetId) (condition : ConditionId)
  | detach (waitSet : WaitSetId) (condition : ConditionId)
  | enterWait (waitSet : WaitSetId)
  | leaveWait (waitSet : WaitSetId)
  | setListener (reader : Handle) (listener : Option Listener) (mask : StatusMask)
  | release (handle : Handle)
  /-- No request, but the table of the entities listing them in another order. -/
  | relist (order : List Handle)
  deriving DecidableEq, Repr

/-- The answer to a request. -/
inductive Reply where
  /-- The operation failed with a code. -/
  | failed (code : ReturnCode)
  | done
  | entity (handle : Handle)
  | condition (condition : ConditionId)
  | waitSet (waitSet : WaitSetId)
  | sample (sample : Sample)
  deriving DecidableEq, Repr

/-- The answer to a request that ends with something or with a code. -/
def Reply.of {α : Type} (reply : α → Reply) : Except ReturnCode α → Reply
  | .ok a => reply a
  | .error code => .failed code

/-- The answer to a request and the state after it. -/
def Result.settleWith {α : Type} (reply : α → Reply) (result : Result α) : Reply × State :=
  (.of reply result.1, result.2)

/-- The same for a request that yields nothing. -/
def Result.settle (result : Result Unit) : Reply × State := result.settleWith fun _ => .done

namespace State

/-- Performs an operation. `isFile` says which files exist. -/
def perform (isFile : String → Bool) (s : State) : Operation → Reply × State
  | .init args => (s.init isFile args).settle
  | .installRtps => s.installRtps.settle
  | .createParticipant domain => (s.createParticipant domain).settleWith .entity
  | .deleteContained participant => (s.deleteContained participant).settle
  | .registerType participant typeName => (s.registerType participant typeName).settle
  | .createTopic participant name typeName =>
    (s.createTopic participant name typeName).settleWith .entity
  | .createPublisher participant partition =>
    (s.createPublisher participant partition).settleWith .entity
  | .createSubscriber participant partition =>
    (s.createSubscriber participant partition).settleWith .entity
  | .createWriter publisher topic qos => (s.createWriter publisher topic qos).settleWith .entity
  | .createReader subscriber topic qos => (s.createReader subscriber topic qos).settleWith .entity
  | .write writer payload => (s.write writer payload).settle
  | .take reader => (s.take reader).settleWith .sample
  | .statusCondition entity => (s.statusCondition entity).settleWith .condition
  | .setEnabled condition mask => (s.setEnabled condition mask).settle
  | .createWaitSet =>
    let (waitSet, s') := s.createWaitSet
    (.waitSet waitSet, s')
  | .deleteWaitSet waitSet => (s.deleteWaitSet waitSet).settle
  | .attach waitSet condition => (s.attach waitSet condition).settle
  | .detach waitSet condition => (s.detach waitSet condition).settle
  | .enterWait waitSet => (s.enterWait waitSet).settle
  | .leaveWait waitSet => (.done, s.leaveWait waitSet)
  | .setListener reader listener mask => (s.setListener reader listener mask).settle
  | .release handle => (.done, s.release handle)
  | .relist order => (.done, s.relist order)

end State

/-- Whether clients that wait look at their conditions again after an operation. The others do not
trigger a condition. -/
def Operation.notifies : Operation → Bool
  | .init _ | .installRtps | .registerType .. | .statusCondition _ | .createWaitSet
  | .deleteWaitSet _ | .detach .. | .enterWait _ | .leaveWait _ | .setListener ..
  | .relist _ => false
  | _ => true

/-- The states that runs of operations end in, whatever orders the entities were listed in. -/
inductive Reachable (isFile : String → Bool) : State → Prop where
  | new (maxSamples : Nat) : Reachable isFile (State.new maxSamples)
  | step {s : State} (before : Reachable isFile s) (operation : Operation) :
      Reachable isFile (s.perform isFile operation).2

end DdsBridge.Provider
