import DdsBridge.Proofs.Bridge.Telling

/-!
# The turns of a dispatch

A dispatch takes the notifications out of the channel one after the other. A callback that it calls
can do anything meanwhile: write, and so put notifications behind the ones that wait, set and clear
callbacks, let proxies go, and dispatch on its own. So what a dispatch finds next is what all this
left, and what it did is told by a story in which its own turns alternate with what the callbacks
did.

* **`Bridge.consume_apply_of_set`**, **`Bridge.consume_apply_of_unset`**,
  **`Bridge.consume_apply_of_gone`** — what becomes of one notification.
* **`Bridge.Answers`** — the callback of the oldest notification, its result and its story.
* **`Bridge.Turns`** — the turns of a dispatch and how many callbacks it called.
* **`Bridge.Drained`**, **`Bridge.drain_turns`** — a drain takes turns until the channel is empty or
  a callback fails; **`Bridge.dispatch_drained`** for a whole dispatch.
* **`Bridge.drain_of_le`**, **`Bridge.dispatch_of_le`** — the limit of a drain is only a bound.
-/

namespace DdsBridge

open Memory
open DdsBridge.Action (Within WithinAt)

variable {C : Type} [HostCode C]

/-- The world in which a dispatch calls a callback: the notification is out of the channel, and the
proxy and the callback are held. -/
def World.answering {B : Type} (w : World B) (rest : List Notification)
    (registration : Registration) : World B :=
  { w.requeue rest with
    pinned := [registration.proxy, registration.callback] ++ w.pinned
    threadCount := w.threadCount + 1 }

/-- The world after the call: what was held for it is let go. -/
def World.answered {B : Type} [ObjectBody B] (w v : World B) : World B :=
  World.collectAll { v with pinned := w.pinned }

/-- The world after a dispatch waited for a notification, if it did: it does where it is told to and
finds none. -/
def World.awaited {B : Type} (w : World B) (wait : Bool) : World B :=
  if wait && w.bridge.pending.isEmpty then { w with unlockCount := w.unlockCount + 1 } else w

@[simp] theorem World.awaited_bridge {B : Type} (w : World B) (wait : Bool) :
    (w.awaited wait).bridge = w.bridge := by
  unfold World.awaited
  split <;> rfl

namespace Bridge

variable {h : Host (Body C)} {w w₀ w' v : World (Body C)} {n : Notification}
  {p : Relay.Moment C → Prop} {past more : List (Relay.Moment C)}

/-! ## One notification -/

omit [HostCode C] in
theorem nextNotification_apply {ε : Type} (w : World (Body C)) :
    (nextNotification : Action (Body C) ε (Option Notification)).apply w =
      match w.bridge.pending with
      | [] => (.ok none, w)
      | n :: rest => (.ok (some n), w.requeue rest) := by
  rw [nextNotification, Action.apply_bind_of_ok (Action.apply_world w)]
  cases w.bridge.pending <;> rfl

/-- A notification calls the callback of its reader once. -/
theorem consume_apply_of_set (h : Host (Body C)) {registration : Registration}
    (hset : w.bridge.callbacks.get? n.reader = some registration)
    (hproxy : (w.heap.get? registration.proxy).isSome = true) :
    (consume h n).apply w =
      (Action.holding [registration.proxy, registration.callback] do
        let _ ← onThread (h.call registration.callback [registration.proxy])
        return true : HostAction (Body C) Bool).apply w := by
  rw [consume, Action.apply_bind_of_ok (Action.apply_world _)]
  simp only [hset, hproxy, if_true]

/-- A notification for a reader without a callback is dropped. -/
theorem consume_apply_of_unset (h : Host (Body C))
    (hnone : w.bridge.callbacks.get? n.reader = none) : (consume h n).apply w = (.ok false, w) := by
  rw [consume, Action.apply_bind_of_ok (Action.apply_world _)]
  simp only [hnone]
  rfl

/-- A registration whose proxy is gone is removed. -/
theorem consume_apply_of_gone {registration : Registration}
    (hset : w.bridge.callbacks.get? n.reader = some registration)
    (hproxy : w.heap.get? registration.proxy = none) :
    (consume h n).apply w = (.ok false, World.dropCallback w n.reader) := by
  rw [consume, Action.apply_bind_of_ok (Action.apply_world _)]
  simp only [hset, hproxy]
  rfl

/-- A notification calls the callback that its reader has, on a thread of its own. -/
theorem consume_apply_of_answer {rest : List Notification} {registration : Registration}
    {result : Except (Stop HostError) Ref}
    (hset : w.bridge.callbacks.get? n.reader = some registration)
    (hproxy : (w.heap.get? registration.proxy).isSome = true)
    (hcall : (h.call registration.callback [registration.proxy]).apply
      (w.answering rest registration) = (result, v)) :
    (consume h n).apply (w.requeue rest) = (result.map fun _ => true, w.answered v) := by
  have hthread : (do
      let _ ← onThread (h.call registration.callback [registration.proxy])
      return true : HostAction (Body C) Bool).apply
        { w.requeue rest with pinned := [registration.proxy, registration.callback] ++ w.pinned } =
      (result.map fun _ => true, v) := by
    rw [Action.apply_bind]
    have hcalled : (onThread (h.call registration.callback [registration.proxy]) :
        HostAction (Body C) Ref).apply
          { w.requeue rest with pinned := [registration.proxy, registration.callback] ++ w.pinned } =
        (result, v) := hcall
    rw [hcalled]
    cases result <;> rfl
  rw [consume_apply_of_set h (w := w.requeue rest) hset hproxy, Action.holding,
    Action.apply_andThen, Action.apply_pinning]
  dsimp only
  rw [show (w.requeue rest).pinned = w.pinned from rfl, hthread]
  rfl

/-! ## Turns -/

/-- The callback of the reader of the oldest notification is called with the reader's proxy and ends
with a result; the notification is consumed before, and `more` tells what happened then. -/
inductive Answers (p : Relay.Moment C → Prop) (h : Host (Body C)) (w : World (Body C))
    (n : Notification) (result : Except (Stop HostError) Ref) (w' : World (Body C)) :
    List (Relay.Moment C) → Prop where
  | called {rest : List Notification} {registration : Registration} {v : World (Body C)}
      {more : List (Relay.Moment C)} (hpending : w.bridge.pending = n :: rest)
      (hset : w.bridge.callbacks.get? n.reader = some registration)
      (hproxy : (w.heap.get? registration.proxy).isSome = true)
      (hcall : (h.call registration.callback [registration.proxy]).apply
        (w.answering rest registration) = (result, v))
      (hafter : w' = w.answered v) (hstory : Relay.Story ⟨w.requeue rest, []⟩ more ⟨w', []⟩)
      (hmore : ∀ m ∈ more, p m) :
    Answers p h w n result w'
      (⟨⟨w, []⟩, .called n registration.callback, ⟨w.requeue rest, []⟩⟩ :: more)

/-- The turns that a dispatch takes, one for each notification that it consumes itself, with the
story of what happened meanwhile and the number of callbacks that it called, all with success. What
the callbacks did is of a sort, and what is collected with a callback that is forgotten goes with
anything. -/
inductive Turns (p : Relay.Moment C → Prop) (h : Host (Body C)) (w₀ : World (Body C)) :
    List (Relay.Moment C) → Nat → World (Body C) → Prop where
  | start : Turns p h w₀ [] 0 w₀
  | ignored {past : List (Relay.Moment C)} {ran : Nat} {w : World (Body C)} {n : Notification}
      {rest : List Notification} (before : Turns p h w₀ past ran w)
      (hpending : w.bridge.pending = n :: rest)
      (hnone : w.bridge.callbacks.get? n.reader = none) :
    Turns p h w₀ (past ++ [⟨⟨w, []⟩, .ignored n, ⟨w.requeue rest, []⟩⟩]) ran (w.requeue rest)
  | lapsed {past more : List (Relay.Moment C)} {ran : Nat} {w w' : World (Body C)}
      {n : Notification} {rest : List Notification} {registration : Registration}
      (before : Turns p h w₀ past ran w) (hpending : w.bridge.pending = n :: rest)
      (hset : w.bridge.callbacks.get? n.reader = some registration)
      (hproxy : w.heap.get? registration.proxy = none)
      (hafter : w' = World.dropCallback (w.requeue rest) n.reader)
      (hstory : Relay.Story ⟨(w.requeue rest).forgetCallback n.reader, []⟩ more ⟨w', []⟩)
      (hmore : ∀ m ∈ more, m.event.IsIncidental) :
    Turns p h w₀
      (past ++ ⟨⟨w, []⟩, .lapsed n, ⟨(w.requeue rest).forgetCallback n.reader, []⟩⟩ :: more) ran w'
  | called {past more : List (Relay.Moment C)} {ran : Nat} {w w' : World (Body C)}
      {n : Notification} {r : Ref} (before : Turns p h w₀ past ran w)
      (hanswers : Answers p h w n (.ok r) w' more) : Turns p h w₀ (past ++ more) (ran + 1) w'

/-- What a drain comes to: it took turns until the channel was empty, or until a callback failed. Its
failure is what becomes of the callback's. -/
inductive Drained {ε : Type} (f : HostError → ε) (p : Relay.Moment C → Prop) (h : Host (Body C))
    (w₀ : World (Body C)) :
    List (Relay.Moment C) → Except (Stop ε) Nat → World (Body C) → Prop where
  | done {past : List (Relay.Moment C)} {ran : Nat} {w : World (Body C)}
      (hturns : Turns p h w₀ past ran w) (hempty : w.bridge.pending = []) :
    Drained f p h w₀ past (.ok ran) w
  | failed {past more : List (Relay.Moment C)} {ran : Nat} {w w' : World (Body C)}
      {n : Notification} {error : HostError} (hturns : Turns p h w₀ past ran w)
      (hanswers : Answers p h w n (.error (.raised error)) w' more) :
    Drained f p h w₀ (past ++ more) (.error (.raised (f error))) w'

theorem Answers.story {result : Except (Stop HostError) Ref}
    (hanswers : Answers p h w n result w' more) : Relay.Story ⟨w, []⟩ more ⟨w', []⟩ := by
  cases hanswers with
  | called hpending hset hproxy _ _ hstory _ =>
      exact (Relay.Step.called (x := ⟨w, []⟩) hpending hset hproxy).story.trans hstory

/-- The turns of a dispatch make a story. -/
theorem Turns.story {ran : Nat} (hturns : Turns p h w₀ past ran w) :
    Relay.Story ⟨w₀, []⟩ past ⟨w, []⟩ := by
  induction hturns with
  | start => exact .start
  | ignored _ hpending hnone ih => exact ih.next (.ignored (x := ⟨_, []⟩) hpending hnone)
  | lapsed _ hpending hset hproxy _ hstory _ ih =>
      exact ih.trans ((Relay.Step.lapsed (x := ⟨_, []⟩) hpending hset hproxy).story.trans hstory)
  | called _ hanswers ih => exact ih.trans hanswers.story

section Sorts

variable (hp : Relay.Admits p) (hconsumes : ∀ m : Relay.Moment C, m.event.consumes ≠ none → p m)
include hconsumes

theorem Answers.all {result : Except (Stop HostError) Ref}
    (hanswers : Answers p h w n result w' more) : ∀ m ∈ more, p m := by
  cases hanswers with
  | called _ _ _ _ _ _ hmore =>
      exact List.forall_mem_cons.mpr ⟨hconsumes _ (by simp [Relay.Event.consumes]), hmore⟩

include hp

/-- The story of the turns is of a sort if what consumes notifications is. -/
theorem Turns.all {ran : Nat} (hturns : Turns p h w₀ past ran w) : ∀ m ∈ past, p m := by
  induction hturns with
  | start => exact List.forall_mem_nil _
  | ignored _ _ _ ih =>
      refine List.forall_mem_append.mpr ⟨ih, List.forall_mem_singleton.mpr (hconsumes _ ?_)⟩
      simp [Relay.Event.consumes]
  | lapsed _ _ _ _ _ _ hmore ih =>
      refine List.forall_mem_append.mpr ⟨ih, List.forall_mem_cons.mpr ⟨hconsumes _ ?_, ?_⟩⟩
      · simp [Relay.Event.consumes]
      · exact fun m hm => hp m (hmore m hm)
  | called _ hanswers ih => exact List.forall_mem_append.mpr ⟨ih, hanswers.all hconsumes⟩

end Sorts

/-- What a drain comes to is told by a story. -/
theorem Drained.tells {ε : Type} {f : HostError → ε} {result : Except (Stop ε) Nat}
    (hp : Relay.Admits p) (hconsumes : ∀ m : Relay.Moment C, m.event.consumes ≠ none → p m)
    (hdrained : Drained f p h w₀ past result w) : w₀.TellsOf p w := by
  cases hdrained with
  | done hturns => exact ⟨_, hturns.story, hturns.all hp hconsumes⟩
  | failed hturns hanswers =>
      exact ⟨_, hturns.story.trans hanswers.story,
        List.forall_mem_append.mpr ⟨hturns.all hp hconsumes, hanswers.all hconsumes⟩⟩

theorem Drained.story {ε : Type} {f : HostError → ε} {result : Except (Stop ε) Nat}
    (hdrained : Drained f p h w₀ past result w) : Relay.Story ⟨w₀, []⟩ past ⟨w, []⟩ := by
  cases hdrained with
  | done hturns => exact hturns.story
  | failed hturns hanswers => exact hturns.story.trans hanswers.story

/-! ## Drains -/

/-- What happens while a callback runs makes a story. -/
theorem exists_answers (hp : Relay.Admits p) (hh : h.Acts AnyName (World.TellsOf p))
    {rest : List Notification} {registration : Registration} {result : Except (Stop HostError) Ref}
    (hpending : w.bridge.pending = n :: rest)
    (hset : w.bridge.callbacks.get? n.reader = some registration)
    (hproxy : (w.heap.get? registration.proxy).isSome = true)
    (hcall : (h.call registration.callback [registration.proxy]).apply
      (w.answering rest registration) = (result, v)) (hends : result ≠ .error .endless) :
    ∃ more, Answers p h w n result (w.answered v) more := by
  have hsteady := tellsOf_steady hp
  have hthread : Within (World.TellsOf p)
      (onThread (h.call registration.callback [registration.proxy]) : HostAction (Body C) Ref) :=
    .bind hsteady (.change fun _ =>
      hsteady.quiet (.beside rfl rfl rfl rfl rfl rfl rfl rfl rfl)) fun _ => hh.call _ _
  have hanswer : Within (World.TellsOf p)
      (Action.holding [registration.proxy, registration.callback] do
        let _ ← onThread (h.call registration.callback [registration.proxy])
        return true : HostAction (Body C) Bool) :=
    .holding hsteady (.bind hsteady hthread fun _ => .pure hsteady true)
  have hwithin := hanswer (w.requeue rest)
  have hrun := consume_apply_of_answer hset hproxy hcall
  rw [consume_apply_of_set h (w := w.requeue rest) hset hproxy] at hrun
  unfold WithinAt at hwithin
  rw [hrun] at hwithin
  obtain ⟨more, hstory, hmore⟩ := hwithin fun h => hends (by
    cases result with
    | ok => cases h
    | error stop => cases h; rfl)
  exact ⟨_, .called hpending hset hproxy hcall rfl hstory hmore⟩

/-- A drain that comes to an end takes turns until the channel is empty or a callback fails. -/
theorem drain_turns (hp : Relay.Admits p) (hh : h.Acts AnyName (World.TellsOf p)) {limit ran : Nat}
    {result : Except (Stop HostError) Nat} (hturns : Turns p h w₀ past ran w)
    (hrun : (drain h limit ran).apply w = (result, w')) (hends : result ≠ .error .endless) :
    ∃ past, Drained id p h w₀ past result w' := by
  -- one unit of the limit for each turn, whatever the callback of that turn consumes on its own
  induction limit generalizing past ran w with
  | zero => exact absurd (congrArg Prod.fst hrun).symm hends
  | succ limit ih =>
      rw [drain, Action.apply_bind, nextNotification_apply] at hrun
      cases hpending : w.bridge.pending with
      | nil =>
          rw [hpending] at hrun
          cases hrun
          exact ⟨past, .done hturns hpending⟩
      | cons n rest =>
          rw [hpending] at hrun
          dsimp only at hrun
          rw [Action.apply_bind] at hrun
          cases hset : w.bridge.callbacks.get? n.reader with
          | none =>
              rw [consume_apply_of_unset h (w := w.requeue rest) hset] at hrun
              exact ih (hturns.ignored hpending hset) hrun
          | some registration =>
              cases hproxy : w.heap.get? registration.proxy with
              | none =>
                  -- what only the forgotten callback held is collected
                  rw [consume_apply_of_gone (w := w.requeue rest) hset hproxy] at hrun
                  obtain ⟨more, hstory, hmore⟩ :=
                    trails_steady.collect ((w.requeue rest).forgetCallback n.reader)
                  exact ih (hturns.lapsed hpending hset hproxy rfl hstory hmore) hrun
              | some node =>
                  have hthere : (w.heap.get? registration.proxy).isSome = true := by
                    rw [hproxy]
                    rfl
                  -- the callback fails, never returns or returns
                  rcases hcall : (h.call registration.callback [registration.proxy]).apply
                    (w.answering rest registration) with ⟨(error | _) | r, v⟩
                  · rw [consume_apply_of_answer hset hthere hcall] at hrun
                    cases hrun
                    obtain ⟨more, hanswers⟩ :=
                      exists_answers hp hh hpending hset hthere hcall (by simp)
                    exact ⟨_, .failed hturns hanswers⟩
                  · rw [consume_apply_of_answer hset hthere hcall] at hrun
                    cases hrun
                    exact absurd rfl hends
                  · rw [consume_apply_of_answer hset hthere hcall] at hrun
                    obtain ⟨more, hanswers⟩ :=
                      exists_answers hp hh hpending hset hthere hcall (by simp)
                    exact ih (hturns.called hanswers) hrun

/-- The limit of a drain is only a bound: a drain that stays below it does the same with a greater
one. -/
theorem drain_of_le {limit more ran : Nat} {result : Except (Stop HostError) Nat}
    (hle : limit ≤ more) (hrun : (drain h limit ran).apply w = (result, w'))
    (hends : result ≠ .error .endless) : (drain h more ran).apply w = (result, w') := by
  induction limit generalizing more ran w with
  | zero => exact absurd (congrArg Prod.fst hrun).symm hends
  | succ limit ih =>
      obtain ⟨more, rfl⟩ : ∃ k, more = k + 1 := ⟨more - 1, by omega⟩
      rw [drain, Action.apply_bind, nextNotification_apply] at hrun ⊢
      cases hpending : w.bridge.pending with
      | nil => rwa [hpending] at hrun
      | cons n rest =>
          rw [hpending] at hrun
          dsimp only at hrun ⊢
          rw [Action.apply_bind] at hrun ⊢
          -- both drains take the same first turn
          rcases hconsume : (consume h n).apply (w.requeue rest) with ⟨stop | called, w₁⟩ <;>
            rw [hconsume] at hrun
          · exact hrun
          · exact ih (by omega) hrun

/-! ## Dispatches -/

theorem dispatchUpTo_apply (h : Host (Body C)) (limit : Nat) (wait : Bool) (w : World (Body C)) :
    (dispatchUpTo h limit wait).apply w =
      (liftM (drain h limit 0) : BridgeAction (Body C) Nat).apply (w.awaited wait) := by
  rw [dispatchUpTo, Action.apply_bind_of_ok (Action.apply_world w), World.awaited]
  split <;> rfl

/-- A dispatch that comes to an end drains the channel, and a callback's failure is its own. -/
theorem dispatch_drained (hp : Relay.Admits p) (hh : h.Acts AnyName (World.TellsOf p)) {limit : Nat}
    {wait : Bool} {result : Except (Stop Error) Nat}
    (hrun : (dispatchUpTo h limit wait).apply w = (result, w'))
    (hends : result ≠ .error .endless) :
    ∃ past, Drained Error.host p h (w.awaited wait) past result w' := by
  rw [dispatchUpTo_apply, Action.lift_eq, Action.apply_mapError] at hrun
  rcases hdrain : (drain h limit 0).apply (w.awaited wait) with ⟨(error | _) | ran, v⟩ <;>
    rw [hdrain] at hrun <;> cases hrun
  · obtain ⟨past, hdrained⟩ := drain_turns hp hh .start hdrain (by simp)
    cases hdrained with
    | failed hturns hanswers => exact ⟨_, .failed hturns hanswers⟩
  · exact absurd rfl hends
  · obtain ⟨past, hdrained⟩ := drain_turns hp hh .start hdrain (by simp)
    cases hdrained with
    | done hturns hempty => exact ⟨_, .done hturns hempty⟩

/-- The limit of a dispatch is only a bound. -/
theorem dispatch_of_le {limit more : Nat} {wait : Bool} {result : Except (Stop Error) Nat}
    (hle : limit ≤ more) (hrun : (dispatchUpTo h limit wait).apply w = (result, w'))
    (hends : result ≠ .error .endless) : (dispatchUpTo h more wait).apply w = (result, w') := by
  rw [dispatchUpTo_apply, Action.lift_eq, Action.apply_mapError] at hrun ⊢
  rcases hdrain : (drain h limit 0).apply (w.awaited wait) with ⟨ended, v⟩
  rw [hdrain] at hrun
  have hended : ended ≠ .error .endless := by
    rintro rfl
    cases hrun
    exact hends rfl
  rw [drain_of_le hle hdrain hended]
  exact hrun

end Bridge

end DdsBridge
