import DdsBridge.Bridge.Exceptions
import DdsBridge.Bridge.Gate

/-!
# Building and initializing the bridge

A bridge is built over a new provider, with exception classes of its own. Before entities can be
created the provider must be initialized with the user's options.

* **`build`** — a new bridge in the place of the old one.
* **`init`** — the initialization.
-/

namespace DdsBridge.Bridge

variable {B : Type} (h : Host B)

/-- The module name of a bridge's exception classes unless told otherwise. -/
def defaultModule : String := "pyopendds._pyopendds"

/-- Builds a bridge over a new provider, which the observer sees or not. The old bridge goes with
everything it remembers. -/
def build (moduleName : String) (maxSamples : Nat) (observed : Bool) : BridgeAction B Unit := do
  let exceptions ← (createExceptions h moduleName : HostAction B ExceptionTable)
  Action.change fun w =>
    { w with
      provider := .new maxSamples
      faults := []
      waits := .empty
      bridge :=
        { BridgeState.unbuilt with
          generation := w.bridge.generation + 1
          observed
          exceptions } }

/-- Whether the bridge was initialized. -/
def isInitialized : BridgeAction B Bool := return (← Action.world).bridge.initialized

/-- An operation fails before the initialization. -/
def requireInit (operation : String) : BridgeAction B Unit := do
  if ← isInitialized then return
  else Action.raise (.init s!"{operation} called before init")

/-- A provider that refuses the arguments gives no factory. -/
def expectFactory : Except ReturnCode Unit → BridgeAction B Unit
  | .ok () => return
  | .error code => Action.raise (.init s!"Failed to get ParticipantFactory ({code.name})")

/-- Installs the default transport if it is wanted. -/
def installTransport (wanted : Bool) : BridgeAction B Unit :=
  if wanted then do
    let code ← Gate.run .installDefaultRtps fun s => s.installRtps
    if code.isOk then return
    else Action.raise (.init s!"Failed to install default RTPS config ({code.name})")
  else return

/-- Initializes the provider, and installs the default transport if that is asked for. `isFile`
says which files exist. -/
def init (isFile : String → Bool) (options : InitOptions) : BridgeAction B Unit := do
  let args ← Action.ofExcept (options.toArgs.mapError Error.range)
  expectFactory (← Gate.fetch .init fun s => s.init isFile args)
  installTransport options.defaultRtps
  Action.change fun w => { w with bridge := { w.bridge with initialized := true } }

end DdsBridge.Bridge
