import DdsBridge.Bridge.Gate
import DdsBridge.Session.Result

/-!
# Commands on the provider

What the commands on the provider do, past the bridge: its operations, looks into its state, waits
that go on beside the session, and faults put in store.

* **`ProviderCommand.run`** — one command.
* **`traceView`** — the state that a traced session shows after each step.
-/

namespace DdsBridge.Session

open Provider (State Reply Operation)

/-! ## Looks into the state -/

/-- How many samples a reader has queued. -/
def queuedSamples (s : State) (handle : Handle) : Nat :=
  ((s.reader? handle).map fun reader => reader.queue.length).getD 0

/-- How many readers a writer is matched with. -/
def matchedReaders (s : State) (handle : Handle) : Nat :=
  ((s.writer? handle).map fun writer => writer.matched.length).getD 0

/-- The counts of an entity: the proxies that hold it, its queued samples, its matched readers and
the wait sets that its condition is attached to. -/
def entityCounts (s : State) (handle : Handle) : List View :=
  let refs := ((s.entities.get? handle).map Provider.Record.refs).getD 0
  [.number refs, .number (queuedSamples s handle), .number (matchedReaders s handle),
    .number (s.attachedCount handle)]

/-- The greatest handle that a trace looks at. -/
def tracedHandles : Nat := 200

/-- The state that a traced session shows after each step, if the session sees a provider. -/
def traceView (w : SessionWorld) : View :=
  if w.bridge.observed then
    let s := w.provider
    let handles := ((List.range (tracedHandles + 1)).map Handle.mk).filter s.isAlive
    let entities := handles.map fun handle => .list (.number handle.id :: entityCounts s handle)
    .list
      [.number s.entities.size, .number s.waitSets.size, .number w.bridge.pending.length,
        .number w.bridge.callbacks.size, .list entities]
  else .none

/-! ## Operations -/

/-- A sample with its information. -/
def sampleView (sample : Sample) : View :=
  let publication := sample.info.publication.map fun handle => .number handle.id
  .list
    [.bytes sample.payload, .bool sample.info.validData, .text sample.info.instanceState.name,
      publication.getD .none]

/-- A code as a method's answer. -/
def yieldCode (code : ReturnCode) : SessionAction Yield := yieldView (.text code.name)

/-- What an operation answered. -/
def yieldReply (operation : Operation) : Reply → SessionAction Yield
  | .failed code =>
    if operation.answersWithCode then yieldCode code else Action.raise (.refused code)
  | .done => if operation.answersWithCode then yieldCode .ok else yieldDone
  | .entity handle => yieldView (.number handle.id)
  | .condition condition => yieldView (.number condition.id)
  | .waitSet waitSet => yieldView (.number waitSet.id)
  | .sample sample => yieldView (sampleView sample)

/-- Begins a wait beside the session. It ends at once if it cannot begin, if a condition is
triggered or if it has no time. -/
def startWait (name : String) (waitSet : WaitSetId) (limit : Duration) : SessionAction Yield := do
  match (← Action.world).provider.enterWait waitSet with
  | (.error code, _) => yieldCode code
  | (.ok (), s) =>
    if s.anyTriggered waitSet then yieldCode .ok
    else if limit.toSpan? = some ⟨0, 0⟩ then yieldCode .timeout
    else
      Action.change fun w =>
        { w with provider := s, waits := w.waits.insert name ⟨waitSet, none⟩ }
      yieldView (.text "WAITING")

/-- Ends a wait beside the session that was woken. -/
def joinWait (name : String) : SessionAction Yield := do
  match (← Action.world).waits.get? name with
  | some ⟨_, some code⟩ =>
    Action.change fun w => { w with waits := w.waits.erase name }
    yieldCode code
  | _ => Action.raise (.invalid s!"no ended wait {name}")

/-- The settings that the provider was initialized with. -/
def settingsView (s : State) : View :=
  .list [.number s.debugLevel, .optional .text s.configFile, .bool s.rtpsInstalled]

/-- Gives back a proxy's hold on an entity. -/
def releaseEntity (kind : EntityKind) (handle : Handle) : SessionAction Yield := do
  Action.change fun w =>
    World.advance { w with releases := w.releases ++ [.toProvider kind handle] }
      (w.provider.release handle)
  yieldDone

/-- Carries out a command on the provider. -/
def ProviderCommand.runObserved (isFile : String → Bool) : ProviderCommand → SessionAction Yield
  | .perform operation => do yieldReply operation (← Gate.perform isFile operation)
  | .release kind handle => releaseEntity kind handle
  | .config => do yieldView (settingsView (← Action.world).provider)
  | .version => yieldView (.text State.version.text)
  | .isAlive handle => do yieldView (.bool ((← Action.world).provider.isAlive handle))
  | .entity handle => do
    let s := (← Action.world).provider
    yieldView (.list (.bool (s.isAlive handle) :: entityCounts s handle))
  | .wait waitSet limit => do yieldCode (← Gate.wait waitSet limit)
  | .startWait name waitSet limit => Session.startWait name waitSet limit
  | .joinWait name => Session.joinWait name
  | .inject method codes => do
    Action.change fun w => { w with faults := w.faults ++ codes.map fun code => (method, code) }
    yieldDone

/-- Carries out a command on the provider, which the session must see. -/
def ProviderCommand.run (isFile : String → Bool) (command : ProviderCommand) :
    SessionAction Yield := do
  if (← Action.world).bridge.observed then command.runObserved isFile
  else Action.raise (.invalid "no provider")

end DdsBridge.Session
