import DdsBridge.Proofs.Bridge.Relay

/-!
# Stories between two worlds

What happened between two worlds is told by a story in which every listener call is made as soon as
it is due. What a story is made of is part of what it says: a relation between worlds goes with each
sort of moments.

* **`World.TellsOf`** — what happened between two worlds makes a story of moments of a sort;
  **`World.Trails`** for those that go with anything.
* **`tells_of_step`**, **`tells_of_absorb`** — one step, and the listener calls that it makes due.
* **`tells_discard`**, **`tellsOf_steady`** — what the host does by itself.
* **`World.TellsOnce`** — an event took place, and else nothing but what goes with anything.
-/

namespace DdsBridge

open Memory
open Provider (State)

variable {C : Type} [HostCode C] {w w' : World (Body C)}

/-- What happened between two worlds makes a story of moments of a sort, and no listener call is due
at its ends. -/
def World.TellsOf (p : Relay.Moment C → Prop) (w w' : World (Body C)) : Prop :=
  ∃ moments, Relay.Story ⟨w, []⟩ moments ⟨w', []⟩ ∧ ∀ m ∈ moments, p m

/-- Nothing happened but what goes with anything. -/
abbrev World.Trails (w w' : World (Body C)) : Prop := w.TellsOf (·.event.IsIncidental) w'

/-- A sort of moments to which all belong that go with anything. -/
def Relay.Admits (p : Relay.Moment C → Prop) : Prop := ∀ m, m.event.IsIncidental → p m

namespace World.TellsOf

variable {p q : Relay.Moment C → Prop}

theorem mono (h : w.TellsOf q w') (hq : ∀ m, q m → p m) : w.TellsOf p w' := by
  obtain ⟨moments, hstory, hmoments⟩ := h
  exact ⟨moments, hstory, fun m hm => hq m (hmoments m hm)⟩

theorem trans {w₁ w₂ : World (Body C)} (h : w.TellsOf p w₁) (h' : w₁.TellsOf p w₂) :
    w.TellsOf p w₂ := by
  obtain ⟨past, hpast, hall⟩ := h
  obtain ⟨more, hmore, hall'⟩ := h'
  exact ⟨past ++ more, hpast.trans hmore, List.forall_mem_append.mpr ⟨hall, hall'⟩⟩

end World.TellsOf

section Small

variable {p : Relay.Moment C → Prop} (hp : Relay.Admits p)
include hp

/-- A step, and the listener calls that it makes due. -/
theorem tells_of_step {event : Relay.Event} {jobs : List Provider.Call}
    (h : Relay.Step ⟨w, []⟩ event ⟨w', jobs⟩) (hmoment : p ⟨⟨w, []⟩, event, ⟨w', jobs⟩⟩) :
    w.TellsOf p (jobs.foldl World.deliver w') := by
  obtain ⟨moments, hflush, hmoments⟩ := Relay.Story.flush w' jobs
  refine ⟨_, h.story.trans hflush, List.forall_mem_cons.mpr ⟨hmoment, fun m hm => hp m ?_⟩⟩
  obtain ⟨call, hcall⟩ := hmoments m hm
  rw [hcall]
  trivial

/-- The listener calls of an operation are made at once. -/
theorem tells_of_absorb {event : Relay.Event} {v : World (Body C)} {s : State}
    (h : Relay.Step ⟨w, []⟩ event (Relay.absorb ⟨v, []⟩ s))
    (hmoment : p ⟨⟨w, []⟩, event, Relay.absorb ⟨v, []⟩ s⟩) : w.TellsOf p (v.advance s) := by
  rw [World.advance_eq_foldl_deliver]
  exact tells_of_step hp h hmoment

theorem tells_quiet (h : w.Quiet Body.IsNoCapsule w')
    (hcallbacks : w'.bridge.callbacks = w.bridge.callbacks)
    (hpending : w'.bridge.pending = w.bridge.pending) : w.TellsOf p w' :=
  tells_of_step hp (.hosted h hcallbacks hpending) (hp _ trivial)

theorem tells_discard (w : World (Body C)) (r : Ref) : w.TellsOf p (w.discard r) := by
  by_cases hcapsule : ∃ kind e, w.CapsuleAt r kind e
  · obtain ⟨kind, e, observed, hbody⟩ := hcapsule
    rw [World.discard_of_capsuleAt hbody]
    exact tells_of_absorb hp (.released hbody) (hp _ trivial)
  · exact tells_of_step hp (.discarded fun kind e h => hcapsule ⟨kind, e, h⟩) (hp _ trivial)

theorem tellsOf_steady :
    World.Steady Body.IsNoCapsule AnyName
      (World.TellsOf p : World (Body C) → World (Body C) → Prop) where
  trans := World.TellsOf.trans
  quiet h := tells_quiet hp h.toQuiet h.callbacks h.pending
  discard _ _ := tells_discard hp _ _

/-- What goes with anything goes with any sort of moments. -/
theorem World.Trails.tells (h : w.Trails w') : w.TellsOf p w' := h.mono hp

end Small

theorem trails_steady :
    World.Steady Body.IsNoCapsule AnyName (World.Trails : World (Body C) → World (Body C) → Prop) :=
  tellsOf_steady fun _ h => h

/-- The provider refuses a request, or does no more than let a client wait. -/
theorem trails_rested (w : World (Body C)) (waitSets : Table WaitSetId Provider.WaitSet) :
    w.Trails (w.advance { w.provider with waitSets }) :=
  tells_of_absorb (fun _ h => h) (.rested ⟨w, []⟩ waitSets) trivial

/-- A moment of a sort came between two worlds, and after it nothing but what goes with anything. -/
def World.TellsOnce (p : Relay.Moment C → Prop) (w w' : World (Body C)) : Prop :=
  ∃ event y, Relay.Step ⟨w, []⟩ event y ∧ p ⟨⟨w, []⟩, event, y⟩ ∧
    (y.jobs.foldl World.deliver y.world).Trails w'

theorem World.TellsOnce.tells {p q : Relay.Moment C → Prop} (h : w.TellsOnce p w')
    (hq : Relay.Admits q) (hpq : ∀ event y, p ⟨⟨w, []⟩, event, y⟩ → q ⟨⟨w, []⟩, event, y⟩) :
    w.TellsOf q w' := by
  obtain ⟨event, ⟨world, jobs⟩, hstep, hmoment, hafter⟩ := h
  exact (tells_of_step hq hstep (hpq _ _ hmoment)).trans (hafter.tells hq)

end DdsBridge
