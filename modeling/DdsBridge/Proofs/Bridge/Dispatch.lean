import DdsBridge.Proofs.Bridge.Notifications

/-!
# Dispatches

Every notification is consumed once and in the order in which it came, by whatever dispatch, and what
becomes of it depends on the moment at which it is consumed.

* **`Relay.Story.pending`** — every notification of a story is consumed once, in the order in which
  they came.
* **`Relay.Moment.Consumes`**, **`Relay.Step.consumes`** — what becomes of a notification depends on
  the moment at which it is consumed.
* **`Bridge.dispatch_serves`** — a whole dispatch.
-/

namespace DdsBridge

open Memory
open DdsBridge.Action (Within WithinAt)

variable {C : Type} [HostCode C]

/-! ## The channel -/

namespace Relay

variable {x y : Relay C} {past more : List (Moment C)}

/-- The notifications that come in a story. -/
def arrivals (past : List (Moment C)) : List Notification :=
  past.flatMap fun m => m.event.delivers.toList.flatMap Provider.Call.notes

/-- The notifications that are consumed in a story, whoever consumes them. -/
def consumptions (past : List (Moment C)) : List Notification :=
  past.flatMap fun m => m.event.consumes.toList

/-- What was in the channel and what came later is consumed from the front, or is still there. -/
theorem Story.pending (h : x.Story past y) :
    x.world.bridge.pending ++ arrivals past = consumptions past ++ y.world.bridge.pending := by
  induction h with
  | start => rw [arrivals, consumptions, List.flatMap_nil, List.flatMap_nil, List.append_nil,
      List.nil_append]
  | @next past y z event _ hstep ih =>
      have hone := hstep.pending
      rw [arrivals, List.flatMap_append, ← arrivals, consumptions, List.flatMap_append,
        ← consumptions, List.flatMap_singleton, List.flatMap_singleton, ← List.append_assoc, ih,
        List.append_assoc, List.append_assoc, hone]

theorem Story.step {m : Moment C} (h : x.Story past y) (hm : m ∈ past) :
    Step m.before m.event m.after := by
  induction h with
  | start => cases hm
  | next _ hstep ih =>
      rcases List.mem_append.mp hm with hm | hm
      · exact ih hm
      · cases List.mem_singleton.mp hm
        exact hstep

/-- A notification is consumed: it is the oldest one, its reader's callback is called exactly if the
reader has one and the proxy for it is there, and a callback whose proxy is gone is forgotten. -/
structure Moment.Consumes (m : Moment C) (n : Notification) : Prop where
  oldest : m.before.world.bridge.pending = n :: m.after.world.bridge.pending
  called_iff : ∀ callback, m.event = .called n callback ↔
    ∃ proxy, m.before.world.bridge.callbacks.get? n.reader = some ⟨proxy, callback⟩ ∧
      (m.before.world.heap.get? proxy).isSome = true
  forgotten : ∀ registration,
    m.before.world.bridge.callbacks.get? n.reader = some registration →
      m.before.world.heap.get? registration.proxy = none →
        m.event = .lapsed n ∧ m.after.world.bridge.callbacks.get? n.reader = none

theorem Step.consumes {event : Event} {n : Notification} (h : Step x event y)
    (hn : event.consumes = some n) : Moment.Consumes ⟨x, event, y⟩ n := by
  -- what was registered and whether the proxy was there decides which step this is
  cases h with
  | @called _ rest registration hpending hset hproxy =>
      cases hn
      refine ⟨hpending, fun callback => ⟨fun h => ?_, ?_⟩, fun other hother hgone => ?_⟩
      · cases h
        exact ⟨registration.proxy, hset, hproxy⟩
      · rintro ⟨proxy, hother, -⟩
        rw [Option.some.inj (hset.symm.trans hother)]
      · rw [← Option.some.inj (hset.symm.trans hother), ← Option.not_isSome_iff_eq_none] at hgone
        exact absurd hproxy hgone
  | @ignored _ rest hpending hnone =>
      cases hn
      refine ⟨hpending, fun callback => ⟨nofun, ?_⟩, fun other hother _ => ?_⟩
      · rintro ⟨proxy, hother, -⟩
        cases hnone.symm.trans hother
      · cases hnone.symm.trans hother
  | @lapsed _ rest registration hpending hset hproxy =>
      cases hn
      refine ⟨hpending, fun callback => ⟨nofun, ?_⟩, fun _ _ _ => ⟨rfl, ?_⟩⟩
      · rintro ⟨proxy, hother, hthere⟩
        rw [Option.some.inj (hset.symm.trans hother)] at hproxy
        rw [hproxy] at hthere
        cases hthere
      · show (x.world.bridge.callbacks.erase n.reader).get? n.reader = none
        rw [Table.get?_erase, if_pos rfl]
  | _ => cases hn

end Relay

/-! ## Whole dispatches -/

namespace Bridge

/-- A dispatch that comes to an end consumes one notification after the other, the oldest first, until
the channel is empty or a callback fails. Whatever the callbacks do meanwhile, dispatches of their
own included, every notification that was in the channel or came later is consumed once and in this
order, or is still in the channel. When one is consumed, its reader's callback is called exactly if
the reader has one and the proxy is there, and it is called with the proxy; a callback whose proxy is
gone is forgotten. The answer is the number of callbacks that the dispatch itself called, all with
success, or the failure of the one that failed. The limit does not matter. -/
theorem dispatch_serves {P : Call → Prop} {inner : Host (Body C)}
    {invoke : C → List Ref → MemoryAction C Ref} (hobeys : ObeysOf P inner invoke) {limit : Nat}
    {wait : Bool} {w w' : World (Body C)} {result : Except (Stop Error) Nat}
    (hrun : (dispatchUpTo (host inner invoke) limit wait).apply w = (result, w'))
    (hends : result ≠ .error .endless) :
    (∃ past, Relay.Story ⟨w.awaited wait, []⟩ past ⟨w', []⟩ ∧
      w.bridge.pending ++ Relay.arrivals past = Relay.consumptions past ++ w'.bridge.pending ∧
      (∀ m ∈ past, ∀ n, m.event.consumes = some n → m.Consumes n) ∧
      (∀ ran, result = .ok ran →
        Turns (Relay.Moment.Comes P) (host inner invoke) (w.awaited wait) past ran w' ∧
          w'.bridge.pending = []) ∧
      ∀ failure, result = .error (.raised failure) → ∃ before ran v n error more,
        Turns (Relay.Moment.Comes P) (host inner invoke) (w.awaited wait) before ran v ∧
          Answers (Relay.Moment.Comes P) (host inner invoke) v n (.error (.raised error)) w' more ∧
          past = before ++ more ∧ failure = .host error) ∧
    ∀ more, limit ≤ more →
      (dispatchUpTo (host inner invoke) more wait).apply w = (result, w') := by
  obtain ⟨past, hdrained⟩ := dispatch_drained (Relay.admits_comes P) hobeys.acts hrun hends
  have hpending := hdrained.story.pending
  dsimp only at hpending
  rw [World.awaited_bridge] at hpending
  refine ⟨⟨past, hdrained.story, hpending, fun m hm n hn => (hdrained.story.step hm).consumes hn,
    fun ran hran => ?_, fun failure hfailure => ?_⟩, fun more hle => dispatch_of_le hle hrun hends⟩
  · subst hran
    cases hdrained with
    | done hturns hempty => exact ⟨hturns, hempty⟩
  · subst hfailure
    cases hdrained with
    | failed hturns hanswers => exact ⟨_, _, _, _, _, _, hturns, hanswers, rfl, rfl⟩

/-- Functions that give back their first argument. -/
def echo : Session.Code → List Ref → MemoryAction Session.Code Ref :=
  fun _ args => pure (args.headD Builtin.object.ref)

theorem obeys_echo : Obeys Memory.stuck echo :=
  .stuck fun w _ _ _ _ => .host (.refl w)

/-- Two notifications for a reader with a callback, and between them one for a writer. -/
def noticeWorld : World (Memory.Body Session.Code) :=
  listeningWorld.requeue
    [⟨⟨6⟩, .dataAvailable⟩, ⟨⟨5⟩, .dataAvailable⟩, ⟨⟨6⟩, .dataAvailable⟩]

/-- The callback is called for the first of them. Nothing refers to the proxy after that, so the
last notification finds it gone. -/
theorem dispatch_serves_notices : ∃ w',
    (dispatchUpTo (host Memory.stuck echo) drainLimit false).apply noticeWorld = (.ok 1, w') ∧
      w'.bridge.pending = [] ∧ ∃ past, Relay.Story ⟨noticeWorld, []⟩ past ⟨w', []⟩ ∧
        noticeWorld.bridge.pending ++ Relay.arrivals past = Relay.consumptions past := by
  have hran : ((dispatchUpTo (host Memory.stuck echo) drainLimit false).apply
      noticeWorld).1.toOption = some 1 := by decide +kernel
  obtain ⟨w', hrun⟩ : ∃ w',
      (dispatchUpTo (host Memory.stuck echo) drainLimit false).apply noticeWorld = (.ok 1, w') := by
    generalize (dispatchUpTo (host Memory.stuck echo) drainLimit false).apply noticeWorld = x at hran
    obtain ⟨_ | ran, w'⟩ := x
    · cases hran
    · cases hran
      exact ⟨w', rfl⟩
  obtain ⟨⟨past, hstory, hpending, -, hok, -⟩, -⟩ := dispatch_serves obeys_echo hrun (by simp)
  have hempty := (hok 1 rfl).2
  rw [hempty, List.append_nil] at hpending
  exact ⟨w', hrun, hempty, past, hstory, hpending⟩

end Bridge

end DdsBridge
