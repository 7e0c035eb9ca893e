import DdsBridge.Bridge.Gate
import DdsBridge.Bridge.Proxies

/-!
# Callbacks for available data

A listener of the provider only puts a notification into the bridge's channel. The channel is
drained on demand: each notification is consumed once, in order, and the callback that its reader
has at that moment is called with the reader's proxy. A callback does not keep the proxy alive; one
whose proxy is gone is forgotten when its next notification comes.

* **`setCallback`**, **`clearCallback`** — registration.
* **`dispatch`** — the drain, which ends early at a callback that fails.
-/

namespace DdsBridge.Bridge

open Proxies

variable {B : Type} [ObjectBody B] (h : Host B)

/-- Registers a callback for a reader in the place of an earlier one. -/
def World.setCallback (w : World B) (reader : Handle) (registration : Registration) : World B :=
  World.collect
    { w with
      bridge := { w.bridge with callbacks := w.bridge.callbacks.insert reader registration } }

/-- Forgets the callback of a reader and lets go what only it referred to. -/
def World.dropCallback (w : World B) (reader : Handle) : World B := (w.forgetCallback reader).collect

/-- Sets the callback of the reader of a proxy. -/
def setCallback (readerProxy callback : Ref) : BridgeAction B Unit := do
  let reader ← resolveAs h readerProxy .reader "datareader"
  h.checkWeak readerProxy
  let code ← Gate.run .setListener fun s =>
    s.setListener reader (some .channel) (.ofKind .dataAvailable)
  Gate.check "set_listener" code
  Action.change fun w => World.setCallback w reader ⟨readerProxy, callback⟩

/-- Clears the callback of the reader of a proxy. -/
def clearCallback (readerProxy : Ref) : BridgeAction B Unit := do
  let reader ← resolveAs h readerProxy .reader "datareader"
  let code ← Gate.run .setListener fun s => s.setListener reader none .none
  Gate.check "set_listener" code
  Action.change fun w => World.dropCallback w reader

/-- Takes the oldest notification out of the channel. -/
def nextNotification {ε : Type} : Action B ε (Option Notification) := do
  match (← Action.world).bridge.pending with
  | [] => return none
  | notification :: rest =>
    Action.change fun w => { w with bridge := { w.bridge with pending := rest } }
    return some notification

/-- Consumes a notification and tells whether a callback ran. -/
def consume (notification : Notification) : HostAction B Bool := do
  let w ← Action.world
  match w.bridge.callbacks.get? notification.reader with
  | none => return false
  | some registration =>
    if (w.heap.get? registration.proxy).isSome then
      Action.holding [registration.proxy, registration.callback] do
        let _ ← onThread (h.call registration.callback [registration.proxy])
        return true
    else
      Action.change fun w => World.dropCallback w notification.reader
      return false

/-- Drains the channel and counts the callbacks that ran. Callbacks can add notifications without
end; `limit` bounds how many are consumed. -/
def drain : (limit : Nat) → (ran : Nat) → HostAction B Nat
  | 0, _ => Action.never
  | limit + 1, ran => do
    match ← nextNotification with
    | none => return ran
    | some notification =>
      let called ← consume h notification
      drain limit (if called then ran + 1 else ran)

/-- Runs the callbacks of the notifications in the channel and tells how many ran. If told to wait
and the channel is empty, the host's lock is released for the wait. -/
def dispatchUpTo (limit : Nat) (wait : Bool) : BridgeAction B Nat := do
  if wait && (← Action.world).bridge.pending.isEmpty then
    unlocked (pure ())
  (drain h limit 0 : HostAction B Nat)

/-- How many notifications one dispatch consumes at most. -/
def drainLimit : Nat := 1000000

/-- Runs the callbacks of the notifications in the channel. -/
def dispatch (wait : Bool) : BridgeAction B Nat := dispatchUpTo h drainLimit wait

end DdsBridge.Bridge
