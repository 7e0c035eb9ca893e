import DdsBridge.Bridge.Gate
import DdsBridge.Proofs.Host.Action

/-!
# What a call of the provider does

A call ends with a fault that is in store for its method, and else the world takes over the state
that the provider's operation leaves.

* **`Gate.fetch_apply`**, **`Gate.run_apply`** — the kinds of call.
-/

namespace DdsBridge.Gate

open Provider (Method Result State)

variable {B ε α : Type} {w : World B} {method : Method}

theorem nextFault_apply (method : Method) (w : World B) :
    (nextFault method : Action B ε (Option ReturnCode)).apply w =
      match takeFault method w.faults with
      | none => (.ok none, w)
      | some (code, faults) => (.ok (some code), { w with faults }) := by
  rw [nextFault, Action.apply_bind_of_ok (Action.apply_world w)]
  cases takeFault method w.faults with
  | none => rfl
  | some found => rfl

theorem fetch_apply (op : State → Result α) (w : World B) :
    (fetch method op : Action B ε (Except ReturnCode α)).apply w =
      match takeFault method w.faults with
      | none => (.ok (op w.provider).1, w.advance (op w.provider).2)
      | some (code, faults) => (.ok (.error code), { w with faults }) := by
  rw [fetch, Action.apply_bind, nextFault_apply]
  cases takeFault method w.faults with
  | none => rfl
  | some found => rfl

theorem run_apply (op : State → Result Unit) (w : World B) :
    (run method op : Action B ε ReturnCode).apply w =
      match takeFault method w.faults with
      | none =>
        match op w.provider with
        | (.ok (), s) => (.ok .ok, w.advance s)
        | (.error code, s) => (.ok code, w.advance s)
      | some (code, faults) => (.ok code, { w with faults }) := by
  rw [run, Action.apply_bind, fetch_apply]
  cases takeFault method w.faults with
  | none => rcases op w.provider with ⟨_ | _, _⟩ <;> rfl
  | some found => rfl

end DdsBridge.Gate
