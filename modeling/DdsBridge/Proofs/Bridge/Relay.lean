import DdsBridge.Proofs.Bridge.Handover

/-!
# Notifications on their way

A provider makes the listener calls of its operations on a thread of its own. Between the operation
and the call of the bridge's listener anything can happen: other operations, callbacks, the end of
the reader that the call is about. So the calls that were not made yet are a part of the state, and
whether one is made now or later is open.

* **`World.absorb`** — the provider's next state without the listener calls;
  **`World.advance_eq_foldl_deliver`** says that these are all that is missing.
* **`World.uncap`** — a capsule goes; **`World.discard_of_capsuleAt`**,
  **`World.discard_of_not_capsuleAt`**.
* **`Relay`** — a world and the listener calls on their way.
* **`Relay.Event`**, **`Relay.Step`** — what can happen, and what it changes.
* **`Relay.Story`** — what happened from a start on; **`Relay.Story.trans`**,
  **`Relay.Story.flush`**.
-/

namespace DdsBridge

open Memory
open Provider (Method Operation Reply State)

/-! ## Operations without their listener calls -/

namespace World

variable {B : Type}

/-- Takes over the provider's next state and lets waiting clients look at their conditions. Listener
calls are not made. -/
def absorb (w : World B) (s : State) : World B :=
  w.waits.keys.foldl wake { w with provider := { s with calls := [] } }

/-- The world with other callbacks. -/
def withCallbacks (w : World B) (callbacks : Table Handle Registration) : World B :=
  { w with bridge := { w.bridge with callbacks } }

/-- The world with other notifications in the channel. -/
def requeue (w : World B) (pending : List Notification) : World B :=
  { w with bridge := { w.bridge with pending } }

theorem absorb_eq (w : World B) (s : State) :
    ∃ ended waits, w.absorb s =
      { w with provider := { s with calls := [] }.leaveAll ended, waits } :=
  foldl_wake_eq { w with provider := { s with calls := [] } } w.waits.keys

theorem absorb_frame (w : World B) (s : State) :
    (w.absorb s).heap = w.heap ∧ (w.absorb s).bridge = w.bridge := by
  obtain ⟨_, _, h⟩ := w.absorb_eq s
  rw [h]
  exact ⟨rfl, rfl⟩

theorem absorb_sameEntities (w : World B) (s : State) : s.SameEntities (w.absorb s).provider := by
  obtain ⟨ended, waits, h⟩ := w.absorb_eq s
  obtain ⟨waitSets, hleave⟩ := State.leaveAll_eq { s with calls := [] } ended
  rw [h]
  show s.SameEntities ({ s with calls := [] }.leaveAll ended)
  rw [hleave]
  exact ⟨rfl, Nat.le_refl _, rfl⟩

theorem deliver_eq (w : World B) (call : Provider.Call) :
    ∃ pending events, w.deliver call = { w with bridge := { w.bridge with pending }, events } :=
  foldl_deliver_eq w [call]

@[simp] theorem deliver_provider (w : World B) (call : Provider.Call) :
    (w.deliver call).provider = w.provider := by
  obtain ⟨_, _, h⟩ := w.deliver_eq call
  rw [h]

@[simp] theorem deliver_callbacks (w : World B) (call : Provider.Call) :
    (w.deliver call).bridge.callbacks = w.bridge.callbacks := by
  obtain ⟨_, _, h⟩ := w.deliver_eq call
  rw [h]

/-- A listener call does not end a wait, and the end of a wait makes no listener call. -/
theorem deliver_wake (w : World B) (name : String) (call : Provider.Call) :
    (w.wake name).deliver call = (w.deliver call).wake name := by
  have hwaits : (w.deliver call).waits = w.waits := by
    obtain ⟨_, _, h⟩ := w.deliver_eq call
    rw [h]
  unfold wake
  rw [hwaits, deliver_provider]
  split
  · split
    · unfold deliver
      split <;> rfl
    · rfl
  · rfl

/-- The listener calls can be made after waiting clients looked at their conditions. -/
theorem advance_eq_foldl_deliver (w : World B) (s : State) :
    w.advance s = s.calls.foldl deliver (w.absorb s) := by
  have hwake : ∀ (w : World B) name, s.calls.foldl deliver (w.wake name) =
      (s.calls.foldl deliver w).wake name := fun w name =>
    List.foldl_hom (fun w => wake w name) fun w call => deliver_wake w name call
  have hwaits : ∀ (names : List String) (w : World B), names.foldl wake (s.calls.foldl deliver w) =
      s.calls.foldl deliver (names.foldl wake w) := by
    intro names
    induction names with
    | nil => exact fun _ => rfl
    | cons name rest ih =>
        intro w
        rw [List.foldl_cons, List.foldl_cons, ← hwake, ih]
  obtain ⟨pending, events, hdelivered⟩ :=
    foldl_deliver_eq { w with provider := { s with calls := [] } } s.calls
  unfold advance absorb
  rw [← hwaits]
  dsimp only
  rw [hdelivered]

end World

/-! ## Capsules of the bridge -/

namespace World

variable {C : Type} {w : World (Body C)} {r : Ref} {kind : EntityKind} {e : Handle}

/-- The object is the present bridge's capsule for an entity. -/
def CapsuleAt (w : World (Body C)) (r : Ref) (kind : EntityKind) (e : Handle) : Prop :=
  ∃ observed, w.bodyAt r = some (.capsule ⟨kind, e, .bridge w.bridge.generation observed⟩)

/-- A capsule goes, and the callback of a reader with it. The provider is not told yet. -/
def uncap (w : World (Body C)) (r : Ref) (kind : EntityKind) (e : Handle) (observed : Bool) :
    World (Body C) :=
  { w with
    heap := w.heap.erase r
    releases := if observed then w.releases ++ [.toProvider kind e] else w.releases
    bridge := { w.bridge with
      callbacks := if kind = .reader then w.bridge.callbacks.erase e else w.bridge.callbacks } }

/-- When a capsule of the bridge is let go, the provider takes its hold back. -/
theorem discard_of_capsuleAt [HostCode C] {observed : Bool}
    (h : w.bodyAt r = some (.capsule ⟨kind, e, .bridge w.bridge.generation observed⟩)) :
    w.discard r = (w.uncap r kind e observed).advance (w.provider.release e) := by
  obtain ⟨node, hnode, hbody⟩ := Option.map_eq_some_iff.mp h
  have hcapsule : ObjectBody.capsule? node.body =
      some ⟨kind, e, .bridge w.bridge.generation observed⟩ := by
    rw [hbody]
    rfl
  rw [discard_of_get? hnode, hcapsule]
  cases observed <;> by_cases hkind : kind = .reader <;>
    simp [releaseCapsule, uncap, forgetCallback, hkind]

/-- When anything else goes, the provider and the callbacks stay. -/
theorem discard_of_not_capsuleAt [HostCode C] (h : ∀ kind e, ¬w.CapsuleAt r kind e) :
    ∃ releases, w.discard r = { w with heap := w.heap.erase r, releases } := by
  cases hnode : w.heap.get? r with
  | none => exact ⟨w.releases, (discard_of_gone hnode).trans (by rw [Heap.erase_of_gone hnode])⟩
  | some node =>
      rw [discard_of_get? hnode]
      cases hcapsule : ObjectBody.capsule? node.body with
      | none => exact ⟨w.releases, rfl⟩
      | some capsule =>
          have hbody : w.bodyAt r = some (.capsule capsule) := by
            rw [bodyAt, hnode]
            cases hnodebody : node.body <;> rw [hnodebody] at hcapsule <;> cases hcapsule
            exact congrArg some hnodebody
          obtain ⟨kind, e, owner⟩ := capsule
          cases owner with
          | loose => exact ⟨_, rfl⟩
          | bridge generation observed =>
              -- an earlier bridge is told, which is not there any more
              have hother : generation ≠ w.bridge.generation := by
                rintro rfl
                exact h kind e ⟨observed, hbody⟩
              cases observed <;> exact ⟨_, if_neg hother⟩

end World

/-- Operations that set no listener, delete nothing and give nothing back. -/
def Provider.Operation.isRoutine : Operation → Bool
  | .setListener .. | .deleteContained _ | .release _ => false
  | _ => true

/-! ## The relay -/

/-- A world, and the listener calls that the provider still has to make, oldest first. -/
structure Relay (C : Type) where
  world : World (Body C)
  jobs : List Provider.Call

namespace Relay

variable {C : Type} {x y z : Relay C}

/-- Takes over the provider's next state; its listener calls are put off. -/
def absorb (x : Relay C) (s : State) : Relay C := ⟨x.world.absorb s, x.jobs ++ s.calls⟩

/-- What happens, as far as it matters to callbacks and notifications. A request that the bridge
relies on was `heard` unless a fault in store answered for the provider that all is well. -/
inductive Event where
  | other
  /-- The provider carried out an operation. -/
  | performed (operation : Operation) (reply : Reply)
  /-- The callback of a reader was set. -/
  | set (reader : Handle) (heard : Bool)
  /-- The callback of a reader was cleared. -/
  | cleared (reader : Handle) (heard : Bool)
  /-- The capsule of an entity went. -/
  | released (kind : EntityKind) (e : Handle)
  /-- A participant was cleaned up, and entities are gone. -/
  | cleaned (participant : Handle) (heard : Bool) (gone : List Handle)
  /-- A notification was consumed, and a callback called. -/
  | called (n : Notification) (callback : Ref)
  /-- A notification was consumed for which there is no callback. -/
  | ignored (n : Notification)
  /-- A notification was consumed, and the proxy for the callback is gone. -/
  | lapsed (n : Notification)
  /-- The provider's thread made a listener call. -/
  | delivered (call : Provider.Call)

/-- Events that go with anything that happens: objects are made and changed and let go, capsules
among them, and listener calls are made. -/
def Event.IsIncidental : Event → Prop
  | .other | .released .. | .delivered _ => True
  | _ => False

/-- The notification that an event consumes. -/
def Event.consumes : Event → Option Notification
  | .called n _ | .ignored n | .lapsed n => some n
  | _ => none

/-- The provider carries out a request, or a fault in store for it answers that all is well. -/
inductive Grants (x : Relay C) (operation : Operation) : Bool → Relay C → Prop where
  | heard {isFile : String → Bool} {s : State}
      (h : x.world.provider.perform isFile operation = (.done, s)) :
      Grants x operation true (x.absorb s)
  | excused {method : Method} {left : List (Method × ReturnCode)}
      (hmethod : operation.method? = some method)
      (hfault : Gate.takeFault method x.world.faults = some (.ok, left)) :
      Grants x operation false ⟨{ x.world with faults := left }, x.jobs⟩

/-- The entities that are there in one world and not in another. -/
def losses (w w' : World (Body C)) : List Handle :=
  w.provider.entities.keys.filter fun e => !w'.provider.isAlive e

variable [HostCode C]

/-- What can happen next. -/
inductive Step : Relay C → Event → Relay C → Prop where
  /-- The host makes and changes objects, or something that is no capsule of the bridge goes. -/
  | hosted {x : Relay C} {w : World (Body C)} (h : x.world.Quiet Body.IsNoCapsule w)
      (hcallbacks : w.bridge.callbacks = x.world.bridge.callbacks)
      (hpending : w.bridge.pending = x.world.bridge.pending) : Step x .other ⟨w, x.jobs⟩
  | discarded {x : Relay C} {r : Ref} (h : ∀ kind e, ¬x.world.CapsuleAt r kind e) :
      Step x .other ⟨x.world.discard r, x.jobs⟩
  /-- An entity that was created gets its capsule. -/
  | sealed {x : Relay C} {kind : EntityKind} {e : Handle} (h : x.world.provider.Kinded e kind)
      (observed : Bool) :
      Step x .other
        ⟨{ x.world with
            heap := (x.world.heap.alloc
              ⟨.empty, .capsule ⟨kind, e, .bridge x.world.bridge.generation observed⟩⟩).2 },
          x.jobs⟩
  /-- A client waits, or a request is refused. -/
  | rested (x : Relay C) (waitSets : Table WaitSetId Provider.WaitSet) :
      Step x .other (x.absorb { x.world.provider with waitSets })
  | performed {x : Relay C} {isFile : String → Bool} {operation : Operation} {reply : Reply}
      {s : State} (hroutine : operation.isRoutine = true)
      (h : x.world.provider.perform isFile operation = (reply, s)) :
      Step x (.performed operation reply) (x.absorb s)
  | released {x : Relay C} {r : Ref} {kind : EntityKind} {e : Handle} {observed : Bool}
      (h : x.world.bodyAt r =
        some (.capsule ⟨kind, e, .bridge x.world.bridge.generation observed⟩)) :
      Step x (.released kind e)
        (absorb ⟨x.world.uncap r kind e observed, x.jobs⟩ (x.world.provider.release e))
  | set {x y : Relay C} {reader : Handle} {heard : Bool} {registration : Registration}
      {wrapped : Ref} (hcapsule : capsuleHandle x.world wrapped = some (.reader, reader))
      (halive : x.world.provider.isAlive reader = true)
      (hgrants : x.Grants (.setListener reader (some .channel) (.ofKind .dataAvailable)) heard y) :
      Step x (.set reader heard)
        ⟨y.world.withCallbacks (y.world.bridge.callbacks.insert reader registration), y.jobs⟩
  | cleared {x y : Relay C} {reader : Handle} {heard : Bool}
      (hgrants : x.Grants (.setListener reader none .none) heard y) :
      Step x (.cleared reader heard)
        ⟨y.world.withCallbacks (y.world.bridge.callbacks.erase reader), y.jobs⟩
  | cleaned {x y : Relay C} {participant : Handle} {heard : Bool}
      (hgrants : x.Grants (.deleteContained participant) heard y) :
      Step x (.cleaned participant heard (losses x.world y.world))
        ⟨y.world.withCallbacks (y.world.bridge.callbacks.filter fun reader _ =>
          y.world.provider.isAlive reader), y.jobs⟩
  | called {x : Relay C} {n : Notification} {rest : List Notification}
      {registration : Registration} (hpending : x.world.bridge.pending = n :: rest)
      (hset : x.world.bridge.callbacks.get? n.reader = some registration)
      (hproxy : (x.world.heap.get? registration.proxy).isSome = true) :
      Step x (.called n registration.callback) ⟨x.world.requeue rest, x.jobs⟩
  | ignored {x : Relay C} {n : Notification} {rest : List Notification}
      (hpending : x.world.bridge.pending = n :: rest)
      (hnone : x.world.bridge.callbacks.get? n.reader = none) :
      Step x (.ignored n) ⟨x.world.requeue rest, x.jobs⟩
  | lapsed {x : Relay C} {n : Notification} {rest : List Notification}
      {registration : Registration} (hpending : x.world.bridge.pending = n :: rest)
      (hset : x.world.bridge.callbacks.get? n.reader = some registration)
      (hproxy : x.world.heap.get? registration.proxy = none) :
      Step x (.lapsed n)
        ⟨(x.world.requeue rest).withCallbacks (x.world.bridge.callbacks.erase n.reader), x.jobs⟩
  | delivered {x : Relay C} {call : Provider.Call} {rest : List Provider.Call}
      (h : x.jobs = call :: rest) : Step x (.delivered call) ⟨x.world.deliver call, rest⟩

/-- An event, with what was before and after it. -/
structure Moment (C : Type) where
  before : Relay C
  event : Event
  after : Relay C

/-- What happened from a start on, oldest first. -/
inductive Story (x : Relay C) : List (Moment C) → Relay C → Prop where
  | start : Story x [] x
  | next {past : List (Moment C)} {y z : Relay C} {event : Event} (before : Story x past y)
      (h : Step y event z) : Story x (past ++ [⟨y, event, z⟩]) z

/-- One story after another. -/
theorem Story.trans {past more : List (Moment C)} (h : x.Story past y) (h' : y.Story more z) :
    x.Story (past ++ more) z := by
  induction h' with
  | start => rwa [List.append_nil]
  | next _ hstep ih =>
      rw [← List.append_assoc]
      exact ih.next hstep

theorem Step.story {event : Event} (h : Step x event y) : x.Story [⟨x, event, y⟩] y :=
  Story.start.next h

/-- The provider's thread makes all calls that are due. -/
theorem Story.flush (w : World (Body C)) (jobs : List Provider.Call) :
    ∃ moments, Story ⟨w, jobs⟩ moments ⟨jobs.foldl World.deliver w, []⟩ ∧
      ∀ m ∈ moments, ∃ call, m.event = .delivered call := by
  induction jobs generalizing w with
  | nil => exact ⟨[], .start, List.forall_mem_nil _⟩
  | cons call rest ih =>
      obtain ⟨moments, hrest, hmoments⟩ := ih (w.deliver call)
      exact ⟨_, (Step.delivered (x := ⟨w, call :: rest⟩) rfl).story.trans hrest,
        List.forall_mem_cons.mpr ⟨⟨call, rfl⟩, hmoments⟩⟩

end Relay

end DdsBridge
