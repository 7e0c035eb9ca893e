import DdsBridge.Host.Heap
import DdsBridge.Host.View
import DdsBridge.Idl.Type
import DdsBridge.Provider.Method
import DdsBridge.Provider.Operation

/-!
# The world of a session

Everything that host code can reach: the objects of the scripting host with the modules and
registers that name them, the bridge, and the provider behind it. Host code runs in the middle of
bridge operations and may itself call bridge operations, so all of this is one state.

* **`BridgeState`** — what the bridge remembers.
* **`World`** — the whole state.
* **`World.roots`** — the references that keep objects alive from outside the heap.
* **`World.advance`** — the provider's next state, with what follows from it at once: due listener
  calls are made and waiting clients look at their conditions.
-/

namespace DdsBridge

/-- A status of a reader on its way to the reader's callback. -/
structure Notification where
  reader : Handle
  status : StatusKind
  deriving DecidableEq, Repr

/-- A callback. The reader's proxy is held weakly: a callback does not keep the proxy, and so the
proxy's capsule, alive. -/
structure Registration where
  proxy : Ref
  callback : Ref
  deriving DecidableEq, Repr

/-- The exception classes of a bridge: the common base, one class for each kind of error, and one
for each return code that signals a failure. -/
structure ExceptionTable where
  moduleName : String
  base : Ref
  kinds : Table ErrorKind Ref
  codes : Table ReturnCode Ref

/-- What the bridge remembers. `classes` are the host classes found so far by the name of the type,
`registry` the topic types by host class, `pending` the notifications not yet dispatched, oldest
first, and `callbacks` the callbacks by reader. An `observed` bridge lets the observer see its
provider. -/
structure BridgeState where
  generation : Nat
  observed : Bool
  initialized : Bool
  classes : Table String Ref
  registry : Table Ref StructType
  exceptions : ExceptionTable
  pending : List Notification
  callbacks : Table Handle Registration

/-- A client that waits on a wait set, and the code with which its wait ended, once it has. -/
structure BlockedWait where
  waitSet : WaitSetId
  ended : Option ReturnCode
  deriving DecidableEq, Repr

/-- The state of a session. Objects numbered below `permanent` are never collected. Objects
numbered from `mark` on were made by the running operation and may be in its hands; `pinned` lists
older objects that are in the hands of running operations, and `kept` those that stay until the
running frame ends. `weakNames` are names for objects that do not keep them alive. `faults` are
injected provider faults in order. `releases` and `events` are what happened since the running step
began. -/
structure World (B : Type) where
  heap : Heap B
  permanent : Nat
  mark : Nat
  pinned : List Ref
  kept : List Ref
  modules : Table String Ref
  registers : Table String Ref
  weakNames : Table String Ref
  sessionClasses : Table String Ref
  unlockCount : Nat
  threadCount : Nat
  bridge : BridgeState
  provider : Provider.State
  faults : List (Provider.Method × ReturnCode)
  releases : List Release
  events : List Event
  waits : Table String BlockedWait

/-- The objects that a table of exception classes refers to. -/
def ExceptionTable.references (t : ExceptionTable) : List Ref :=
  t.base :: t.kinds.values ++ t.codes.values

/-- The objects that a bridge refers to. Proxies of readers with a callback are not among them. -/
def BridgeState.references (b : BridgeState) : List Ref :=
  b.classes.values ++ b.registry.keys ++ b.exceptions.references ++
    b.callbacks.values.map Registration.callback

/-- A bridge that was not built yet. -/
def BridgeState.unbuilt : BridgeState where
  generation := 0
  observed := false
  initialized := false
  classes := .empty
  registry := .empty
  exceptions := ⟨"", ⟨0⟩, .empty, .empty⟩
  pending := []
  callbacks := .empty

namespace World

variable {B : Type}

/-- A world without objects. -/
def empty : World B where
  heap := .empty
  permanent := 0
  mark := 0
  pinned := []
  kept := []
  modules := .empty
  registers := .empty
  weakNames := .empty
  sessionClasses := .empty
  unlockCount := 0
  threadCount := 0
  bridge := .unbuilt
  provider := .new
  faults := []
  releases := []
  events := []
  waits := .empty

instance : Inhabited (World B) := ⟨empty⟩

/-- The references that keep objects alive from outside the heap. -/
def roots (w : World B) : List Ref :=
  w.pinned ++ w.kept ++ w.modules.values ++ w.registers.values ++ w.sessionClasses.values ++
    w.bridge.references

/-- Makes a due listener call: the bridge's listener only puts a notification into the channel. -/
def deliver (w : World B) (call : Provider.Call) : World B :=
  match call.listener with
  | .channel =>
    { w with
      bridge := { w.bridge with pending := w.bridge.pending ++ [⟨call.reader, call.status⟩] } }
  | .labelled label => { w with events := w.events ++ [.listened label call.reader call.status] }

/-- Ends the wait of a client if one of its conditions is triggered. -/
def wake (w : World B) (name : String) : World B :=
  match w.waits.get? name with
  | some ⟨waitSet, none⟩ =>
    if w.provider.anyTriggered waitSet then
      { w with
        provider := w.provider.leaveWait waitSet
        waits := w.waits.insert name ⟨waitSet, some .ok⟩ }
    else w
  | _ => w

/-- Takes over the provider's next state, makes the listener calls that are due and lets waiting
clients look at their conditions. -/
def advance (w : World B) (s : Provider.State) : World B :=
  let w := { w with provider := { s with calls := [] } }
  let w := s.calls.foldl deliver w
  w.waits.keys.foldl wake w

end World

end DdsBridge
