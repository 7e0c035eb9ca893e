import DdsBridge.Bridge.Callbacks
import DdsBridge.Bridge.Creation
import DdsBridge.Bridge.Samples
import DdsBridge.Extension.Signature
import DdsBridge.Idl.Cdr

/-!
# The functions of the extension module

What programs of the interpreter can do with the bridge: one function for each operation of the
bridge, and three that tell the provider's version. A failure of the bridge becomes an exception of
the class that the bridge made for it; an exception that came from the interpreter is raised again
unchanged.

* **`Function`** — the functions, each with its **`signature`**.
* **`raiseError`** — the exception of a failure of the bridge.
* **`Function.call`** — a call of a function.
-/

namespace DdsBridge.Extension

open Interpreter

/-- The functions of the extension module. -/
inductive Function where
  | init
  | createParticipant
  | cleanup
  | registerType
  | typeName
  | createTopic
  | createPublisher
  | createSubscriber
  | createWriter
  | createReader
  | write
  | take
  | waitFor
  | setCallback
  | clearCallback
  | dispatch
  | versionText
  | versionTuple
  | versionFields
  deriving DecidableEq, Repr

/-- Every function. -/
def Function.all : List Function :=
  [.init, .createParticipant, .cleanup, .registerType, .typeName, .createTopic, .createPublisher,
    .createSubscriber, .createWriter, .createReader, .write, .take, .waitFor, .setCallback,
    .clearCallback, .dispatch, .versionText, .versionTuple, .versionFields]

/-- A signature without optional parameters. -/
def simple (name : String) (parameters : List (String × ParameterKind)) : Signature where
  name
  parameters := parameters.map fun entry => { name := entry.1, kind := entry.2 }

/-- A signature whose parameters are objects, the last of which can be left out. -/
def withPolicies (name : String) (parameters : List String) : Signature where
  name
  parameters := parameters.map (fun name => { name, kind := .object }) ++
    [{ name := "qos", kind := .object, isOptional := true }]

/-- What a function takes. -/
def Function.signature : Function → Signature
  | .init =>
    { name := "init_opendds_impl"
      collects := true
      parameters :=
        [{ name := "default_rtps", kind := .truth, hasDefault := true },
          { name := "opendds_debug_level", kind := .signed, isOptional := true }] }
  | .createParticipant => simple "create_participant" [("participant", .object), ("domain", .word)]
  | .cleanup => simple "participant_cleanup" [("participant", .object)]
  | .registerType => simple "register_type" [("participant", .object), ("type_class", .object)]
  | .typeName => simple "type_name" [("type_class", .object)]
  | .createTopic =>
    simple "create_topic"
      [("topic", .object), ("participant", .object), ("name", .text), ("type_name", .text)]
  | .createPublisher =>
    simple "create_publisher" [("publisher", .object), ("participant", .object)]
  | .createSubscriber =>
    simple "create_subscriber" [("subscriber", .object), ("participant", .object)]
  | .createWriter => withPolicies "create_datawriter" ["datawriter", "publisher", "topic"]
  | .createReader => withPolicies "create_datareader" ["datareader", "subscriber", "topic"]
  | .write => simple "write" [("datawriter", .object), ("sample", .object)]
  | .take => simple "take_next_sample" [("datareader", .object)]
  | .waitFor =>
    { name := "wait_for"
      parameters :=
        [{ name := "entity", kind := .object }, { name := "status", kind := .word },
          { name := "seconds", kind := .signed },
          { name := "nanoseconds", kind := .unsigned, hasDefault := true }] }
  | .setCallback =>
    simple "set_data_available_callback" [("datareader", .object), ("callback", .object)]
  | .clearCallback => simple "clear_data_available_callback" [("datareader", .object)]
  | .dispatch =>
    { name := "dispatch_notifications"
      parameters := [{ name := "timeout", kind := .float, isOptional := true }] }
  | .versionText => simple "opendds_version_str" []
  | .versionTuple => simple "opendds_version_tuple" []
  | .versionFields => simple "opendds_version_dict" []

variable {C : Type} [HostCode C] (isFile : String → Bool) (h : Host (Body C))

/-! ## Failures -/

/-- Raises the exception of a failure of the host: the same object again, if there is one. -/
def raiseHostError {α : Type} (error : HostError) : ObjectAction C α := do
  match error.payload with
  | some (.object _) => Action.raise error
  | _ => raiseNew (classOfKind error.kind) error.message

/-- Raises the exception of a failure of the bridge. Without a bridge, or if the exception cannot
be made, it is a plain runtime error. -/
def raiseError {α : Type} (error : Error) : ObjectAction C α := do
  match error with
  | .host error => raiseHostError error
  | error =>
    if (← Action.world).bridge.generation = 0 then raiseNew .runtimeError error.message
    match ← (newException h error).attempt (δ := HostError) with
    | .ok exception =>
      Action.pin exception
      raiseObject h exception
    | .error _ => raiseNew .runtimeError error.message

/-- Runs an operation of the bridge and raises its failure as an exception. -/
def raising {α : Type} (operation : BridgeAction (Body C) α) : ObjectAction C α := do
  match ← operation.attempt (δ := HostError) with
  | .ok a => return a
  | .error error => raiseError h error

/-! ## The functions -/

/-- Runs an operation of the bridge for its effect. -/
def perform (operation : BridgeAction (Body C) Unit) : ObjectAction C Ref := do
  raising h operation
  return h.none

/-- The object of an argument that may be absent. -/
def Argument.object? : Argument → Option Ref
  | .object r => some r
  | _ => none

/-- The options for the initialization. -/
def initOptions (collected : List Ref) (defaultRtps debugLevel : Argument) :
    ObjectAction C InitOptions := do
  let args ← collected.mapM (strOf h)
  let defaultRtps := match defaultRtps with
    | .truth b => b
    | _ => true
  let debugLevel := match debugLevel with
    | .number n => some n
    | _ => none
  return { args, defaultRtps, debugLevel }

/-- Whether a time to wait was given, which must be a span of time. -/
def timeoutGiven (timeout : Argument) : ObjectAction C Bool := do
  match timeout with
  | .float x =>
    let refuse (reason : String) : ObjectAction C Bool :=
      raiseNew .valueError
        s!"invalid timeout: cannot convert float seconds to Duration: {reason}"
    match x.shape with
    | .finite negative significand _ =>
      if negative && significand ≠ 0 then refuse "value is negative"
      else if UInt64.size ≤ x.wholePart then refuse "value is either too big or NaN"
      else return true
    | .infinite true => refuse "value is negative"
    | _ => refuse "value is either too big or NaN"
  | _ => return false

/-- Waits for statuses of an entity. -/
def wait (entity : Ref) (status seconds nanoseconds : Int) : ObjectAction C Ref := do
  let limit ← raising h
    (Action.ofExcept ((Duration.ofParts seconds nanoseconds.toNat).mapError Error.range))
  perform h (Bridge.waitFor h entity ⟨UInt32.ofNat status.toNat⟩ limit)

/-- The provider's version, field by field. -/
def versionEntries (v : ProviderVersion) : ObjectAction C (List (Ref × Ref)) := do
  return [
    (← newText "major", ← newInt v.major),
    (← newText "minor", ← newInt v.minor),
    (← newText "micro", ← newInt v.micro),
    (← newText "metadata", ← newText v.metadata),
    (← newText "is_release", boolRef v.isRelease)]

/-- What a function does with its arguments. -/
def Function.run (f : Function) (accepted : Accepted) : ObjectAction C Ref := do
  let version := Provider.State.version
  match f, accepted.arguments with
  | .init, [defaultRtps, debugLevel] =>
    let options ← initOptions h accepted.collected defaultRtps debugLevel
    perform h (Bridge.init isFile options)
  | .createParticipant, [.object proxy, .number domain] =>
    perform h (Bridge.createParticipant h proxy domain.toNat)
  | .cleanup, [.object proxy] => perform h (Bridge.cleanup h proxy)
  | .registerType, [.object proxy, .object cls] => perform h (Bridge.registerType h proxy cls)
  | .typeName, [.object cls] => do newText (← raising h (Bridge.typeName h cls))
  | .createTopic, [.object proxy, .object participant, .text name, .text topicType] =>
    perform h (Bridge.createTopic h proxy participant name topicType)
  | .createPublisher, [.object proxy, .object participant] =>
    perform h (Bridge.createPublisher h proxy participant)
  | .createSubscriber, [.object proxy, .object participant] =>
    perform h (Bridge.createSubscriber h proxy participant)
  | .createWriter, [.object proxy, .object publisher, .object topic, policies] =>
    perform h (Bridge.createWriter h proxy publisher topic policies.object?)
  | .createReader, [.object proxy, .object subscriber, .object topic, policies] =>
    perform h (Bridge.createReader h proxy subscriber topic policies.object?)
  | .write, [.object proxy, .object sample] =>
    raising h (Bridge.write h Cdr.coding proxy sample)
    newInt ReturnCode.ok.code
  | .take, [.object proxy] => raising h (Bridge.take h Cdr.coding proxy)
  | .waitFor, [.object entity, .number status, .number seconds, .number nanoseconds] =>
    wait h entity status seconds nanoseconds
  | .waitFor, [.object entity, .number status, .number seconds, _] =>
    wait h entity status seconds 0
  | .setCallback, [.object reader, .object callback] =>
    perform h (Bridge.setCallback h reader callback)
  | .clearCallback, [.object reader] => perform h (Bridge.clearCallback h reader)
  | .dispatch, [timeout] =>
    let waits ← timeoutGiven timeout
    newInt (← raising h (Bridge.dispatch h waits))
  | .versionText, [] => newText version.text
  | .versionTuple, [] =>
    newTuple [← newInt version.major, ← newInt version.minor, ← newInt version.micro]
  | .versionFields, [] =>
    let entries ← versionEntries version
    Action.alloc ⟨Builtin.dict.ref, .dict entries⟩
  | _, _ => raiseType s!"{f.signature.name}() got arguments that do not fit"

/-- A call of a function of the module with the given name. -/
def Function.call (f : Function) (home : String) (args : List Ref) (named : List (String × Ref)) :
    ObjectAction C Ref := do
  f.run isFile h (← f.signature.accept h home args named)

end DdsBridge.Extension
