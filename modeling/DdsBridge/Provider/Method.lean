import DdsBridge.Provider.Operation

/-!
# The methods of a provider by name

Faults are injected by method: the next call of a method that has a fault in store ends with the
fault's code instead of reaching the provider.
-/

namespace DdsBridge.Provider

/-- A method whose call can be made to fail. -/
inductive Method where
  | init
  | installDefaultRtps
  | createParticipant
  | deleteContainedEntities
  | registerType
  | createTopic
  | createPublisher
  | createSubscriber
  | createDatawriter
  | createDatareader
  | write
  | takeNextSample
  | statusCondition
  | setEnabledStatuses
  | createWaitset
  | deleteWaitset
  | attachCondition
  | detachCondition
  | wait
  | setListener
  deriving DecidableEq, Repr

namespace Method

/-- Every method. -/
def all : List Method :=
  [.init, .installDefaultRtps, .createParticipant, .deleteContainedEntities, .registerType,
    .createTopic, .createPublisher, .createSubscriber, .createDatawriter, .createDatareader,
    .write, .takeNextSample, .statusCondition, .setEnabledStatuses, .createWaitset, .deleteWaitset,
    .attachCondition, .detachCondition, .wait, .setListener]

/-- The name of a method. -/
def name : Method → String
  | .init => "init"
  | .installDefaultRtps => "install_default_rtps"
  | .createParticipant => "create_participant"
  | .deleteContainedEntities => "delete_contained_entities"
  | .registerType => "register_type"
  | .createTopic => "create_topic"
  | .createPublisher => "create_publisher"
  | .createSubscriber => "create_subscriber"
  | .createDatawriter => "create_datawriter"
  | .createDatareader => "create_datareader"
  | .write => "write"
  | .takeNextSample => "take_next_sample"
  | .statusCondition => "status_condition"
  | .setEnabledStatuses => "set_enabled_statuses"
  | .createWaitset => "create_waitset"
  | .deleteWaitset => "delete_waitset"
  | .attachCondition => "attach_condition"
  | .detachCondition => "detach_condition"
  | .wait => "wait"
  | .setListener => "set_listener"

/-- The method with a name. -/
def ofName? (name : String) : Option Method := all.find? (·.name == name)

end Method

/-- The method that an operation calls, if calls of it can be made to fail. -/
def Operation.method? : Operation → Option Method
  | .init _ => some .init
  | .installRtps => some .installDefaultRtps
  | .createParticipant _ => some .createParticipant
  | .deleteContained _ => some .deleteContainedEntities
  | .registerType .. => some .registerType
  | .createTopic .. => some .createTopic
  | .createPublisher .. => some .createPublisher
  | .createSubscriber .. => some .createSubscriber
  | .createWriter .. => some .createDatawriter
  | .createReader .. => some .createDatareader
  | .write .. => some .write
  | .take _ => some .takeNextSample
  | .statusCondition _ => some .statusCondition
  | .setEnabled .. => some .setEnabledStatuses
  | .deleteWaitSet _ => some .deleteWaitset
  | .attach .. => some .attachCondition
  | .detach .. => some .detachCondition
  | .setListener .. => some .setListener
  | .createWaitSet | .enterWait _ | .leaveWait _ | .release _ | .relist _ => none

/-- Whether a method answers with a return code even when it succeeds. -/
def Operation.answersWithCode : Operation → Bool
  | .installRtps | .deleteContained _ | .registerType .. | .write .. | .setEnabled ..
  | .deleteWaitSet _ | .attach .. | .detach .. | .setListener .. => true
  | _ => false

end DdsBridge.Provider
