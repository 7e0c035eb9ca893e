import DdsBridge.Host.Action

/-!
# Calls of the provider

Every call of the provider passes here. A call of a method that has a fault in store ends with the
fault's code and does not reach the provider. A call that reaches it takes over the state it
leaves, with the listener calls and wake-ups that follow.

* **`Gate.fetch`** — a call that answers with something or fails with a return code.
* **`Gate.run`** — a call that answers with a return code.
-/

namespace DdsBridge.Gate

open Provider (Method Result State)

variable {B ε α : Type}

/-- Takes the first fault in store for a method. -/
def takeFault (method : Method) :
    List (Method × ReturnCode) → Option (ReturnCode × List (Method × ReturnCode))
  | [] => none
  | (m, code) :: rest =>
    if m = method then some (code, rest)
    else (takeFault method rest).map fun (found, left) => (found, (m, code) :: left)

/-- The fault with which the next call of a method ends. -/
def nextFault (method : Method) : Action B ε (Option ReturnCode) := do
  match takeFault method (← Action.world).faults with
  | none => return none
  | some (code, faults) =>
    Action.change fun w => { w with faults }
    return some code

/-- A call that answers with something or fails with a code; the provider has a next state in
either case. -/
def fetch (method : Method) (op : State → Result α) : Action B ε (Except ReturnCode α) := do
  match ← nextFault method with
  | some code => return .error code
  | none =>
    let (result, s) := op (← Action.world).provider
    Action.change fun w => w.advance s
    return result

/-- A call that answers with a return code. -/
def run (method : Method) (op : State → Result Unit) : Action B ε ReturnCode := do
  match ← fetch method op with
  | .ok () => return .ok
  | .error code => return code

/-- Any operation as a call. -/
def perform (isFile : String → Bool) (operation : Provider.Operation) :
    Action B ε Provider.Reply := do
  let fault ← match operation.method? with
    | some method => nextFault method
    | none => pure none
  match fault with
  | some code => return .failed code
  | none =>
    let (reply, s) := (← Action.world).provider.perform isFile operation
    Action.change fun w => w.advance s
    return reply

/-- Waits while no other client acts. -/
def wait (waitSet : WaitSetId) (limit : Duration) : Action B ε ReturnCode := do
  match ← nextFault .wait with
  | some code => return code
  | none =>
    let (wEnd, s) := (← Action.world).provider.waitAlone waitSet limit
    Action.change fun w => w.advance s
    match wEnd with
    | .code code => return code
    | .never => Action.never

/-- A code other than `ok` is the failure of an operation. -/
def check (operation : String) (code : ReturnCode) : BridgeAction B Unit :=
  if code.isOk then return else Action.raise (.operation operation code)

/-- A failed creation is the failure of an operation. -/
def expect (operation : String) (result : Except ReturnCode α) : BridgeAction B α :=
  match result with
  | .ok a => return a
  | .error code => Action.raise (.operation operation code)

end DdsBridge.Gate
