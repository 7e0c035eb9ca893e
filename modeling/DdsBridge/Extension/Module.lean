import DdsBridge.Bridge.Setup
import DdsBridge.Extension.Function
import DdsBridge.Host.Interpreter.Prelude

/-!
# The extension module

Importing the extension module builds the bridge, once, and gives the module its contents: the
exception classes of the bridge, the return codes and statuses as numbers, the class of the
objects that stand for a proxy's hold on an entity, and the functions. If the bridge cannot be
built there is no module.

* **`load`** — imports the module.
* **`requireBridge`** — fails as long as the module was not imported.
-/

namespace DdsBridge.Extension

open Interpreter

variable {C : Type} [HostCode C] (h : Host (Body C)) (embed : Function → C)

/-- The name of the module. -/
def moduleName : String := Bridge.defaultModule

/-- Puts an object into a module. -/
def define (module : Ref) (name : String) (obj : Ref) : ObjectAction C Unit :=
  Action.change (World.storeAttr · module name obj)

/-- Gives the module its contents. -/
def fill (module : Ref) : ObjectAction C Unit := do
  for (name, cls) in (← Action.world).bridge.exceptions.classes do
    define module name cls
  for code in ReturnCode.all do
    define module s!"RETCODE_{code.name}" (← newInt code.code)
  for status in StatusKind.all do
    define module status.constantName (← newInt status.bit.toNat)
  define module Builtin.handle.name Builtin.handle.ref
  for f in Function.all do
    define module f.signature.name
      (← Action.alloc ⟨Builtin.nativeFunction.ref, .function (embed f)⟩)

/-- Imports the module. -/
def load : ObjectAction C Ref := do
  match (← Action.world).modules.get? moduleName with
  | some module => return module
  | none =>
    let build : BridgeAction (Body C) Unit :=
      Bridge.build h moduleName Provider.defaultMaxSamples false
    match ← build.attempt (δ := HostError) with
    | .error error =>
      raiseNew .runtimeError s!"building the {moduleName} bridge: {error.message}"
    | .ok () =>
      let module ← addModule moduleName
      fill embed module
      return module

/-- Fails as long as the module was not imported. -/
def requireBridge : ObjectAction C Unit := do
  if (← Action.world).bridge.generation = 0 then
    raiseNew .runtimeError "_pyopendds has not been imported"

end DdsBridge.Extension
