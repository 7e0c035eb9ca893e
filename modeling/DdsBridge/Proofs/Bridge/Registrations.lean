import DdsBridge.Proofs.Bridge.Activity

/-!
# Which readers have a callback

A reader gets a callback by one kind of event and loses it by four: its callback is cleared, its
capsule goes, it is deleted by a clean-up, or a notification comes when the proxy for the callback
is gone. Nothing else touches the callbacks, so the latest of these events decides.

* **`Relay.Event.verdict`**, **`Relay.latest`** — what an event, and what a story, says about the
  callback of a reader.
* **`Relay.Event.deed`**, **`Relay.Step.provider`** — what an event is to the provider.
* **`World.KeepsCapsules`**, **`Relay.Step.keepsCapsules`** — capsules come with the entities that
  the bridge creates, and go in one way.
* **`World.Registered`** — a reader with a callback is there, and so is its capsule;
  **`Relay.Step.registered`**, **`Relay.Step.callbacks`** for one event,
  **`Relay.Story.registered`** for all.
* **`Bridge.callbacks_follow_events`** — the latest event decides.
-/

namespace DdsBridge

open Memory Proxies
open DdsBridge.Action (Within)
open Provider (Operation Reply State)

variable {C : Type}

namespace Table

variable {κ α : Type} [DecidableEq κ]

theorem contains_insert (t : Table κ α) (k k' : κ) (a : α) :
    (t.insert k a).contains k' = if k' = k then true else t.contains k' := by
  rw [contains, get?_insert]
  split <;> rfl

theorem contains_erase (t : Table κ α) (k k' : κ) :
    (t.erase k).contains k' = if k' = k then false else t.contains k' := by
  rw [contains, get?_erase]
  split <;> rfl

theorem contains_filter (t : Table κ α) (p : κ → Bool) (k : κ) :
    (t.filter fun k _ => p k).contains k = (t.contains k && p k) := by
  rw [contains, get?_filter, contains]
  cases t.get? k <;> cases p k <;> simp

end Table

/-! ## Events and what they say -/

namespace Relay

/-- What an event says about the callback of a reader: that there is one from now on, that there is
none, or nothing. -/
def Event.verdict (reader : Handle) : Event → Option Bool
  | .set r _ => if reader = r then some true else none
  | .cleared r _ => if reader = r then some false else none
  | .released kind e => if kind = .reader ∧ reader = e then some false else none
  | .cleaned _ _ gone => if reader ∈ gone then some false else none
  | .lapsed n => if reader = n.reader then some false else none
  | _ => none

/-- The latest verdict on the callback of a reader. -/
def latest (reader : Handle) (past : List (Moment C)) : Option Bool :=
  past.reverse.findSome? fun m => m.event.verdict reader

/-- The operation of the provider that an event stands for, and its reply. -/
def Event.deed : Event → Option (Operation × Reply)
  | .performed operation reply => some (operation, reply)
  | .set reader true => some (.setListener reader (some .channel) (.ofKind .dataAvailable), .done)
  | .cleared reader true => some (.setListener reader none .none, .done)
  | .released _ e => some (.release e, .done)
  | .cleaned participant true _ => some (.deleteContained participant, .done)
  | _ => none

theorem Event.verdict_eq_true_iff {reader : Handle} {event : Event} :
    event.verdict reader = some true ↔ ∃ heard, event = .set reader heard := by
  cases event <;> simp [Event.verdict, eq_comm]

theorem latest_snoc (reader : Handle) (past : List (Moment C)) (m : Moment C) :
    latest reader (past ++ [m]) = (m.event.verdict reader).or (latest reader past) := by
  simp only [latest, List.reverse_append, List.reverse_singleton, List.singleton_append,
    List.findSome?_cons]
  cases m.event.verdict reader <;> rfl

variable {x y : Relay C}

/-- A request changes nothing but the provider and what waits for it. -/
theorem Grants.frame {operation : Operation} {heard : Bool} (h : x.Grants operation heard y) :
    y.world.heap = x.world.heap ∧ y.world.bridge = x.world.bridge := by
  cases h with
  | heard => exact x.world.absorb_frame _
  | excused => exact ⟨rfl, rfl⟩

/-- What the provider did in a step: nothing to its entities, or the operation that the event stands
for. -/
def Did (x : Relay C) (event : Event) (after : State) : Prop :=
  event.deed = none ∧ x.world.provider.SameEntities after ∨
    ∃ isFile operation reply s, event.deed = some (operation, reply) ∧
      x.world.provider.perform isFile operation = (reply, s) ∧ s.SameEntities after

theorem Grants.did {operation : Operation} {heard : Bool} {event : Event}
    (h : x.Grants operation heard y)
    (hdeed : event.deed = if heard = true then some (operation, .done) else none) :
    x.Did event y.world.provider := by
  cases h with
  | heard h => exact .inr ⟨_, _, _, _, hdeed, h, World.absorb_sameEntities _ _⟩
  | excused => exact .inl ⟨hdeed, rfl, Nat.le_refl _, rfl⟩

variable [HostCode C]

theorem Step.provider {event : Event} (h : Step x event y) : x.Did event y.world.provider := by
  have hsame : x.world.provider.SameEntities x.world.provider := ⟨rfl, Nat.le_refl _, rfl⟩
  cases h with
  | hosted h => exact .inl ⟨rfl, h.provider.symm ▸ hsame⟩
  | discarded h =>
      obtain ⟨_, hdiscard⟩ := World.discard_of_not_capsuleAt h
      exact .inl ⟨rfl, congrArg World.provider hdiscard ▸ hsame⟩
  | sealed => exact .inl ⟨rfl, hsame⟩
  | rested waitSets =>
      exact .inl ⟨rfl, World.absorb_sameEntities _ { x.world.provider with waitSets }⟩
  | performed _ h => exact .inr ⟨_, _, _, _, rfl, h, World.absorb_sameEntities _ _⟩
  | released => exact .inr ⟨fun _ => false, _, _, _, rfl, rfl, World.absorb_sameEntities _ _⟩
  | set _ _ hgrants => exact hgrants.did (by cases hgrants <;> rfl)
  | cleared hgrants => exact hgrants.did (by cases hgrants <;> rfl)
  | cleaned hgrants => exact hgrants.did (by cases hgrants <;> rfl)
  | called => exact .inl ⟨rfl, hsame⟩
  | ignored => exact .inl ⟨rfl, hsame⟩
  | lapsed => exact .inl ⟨rfl, hsame⟩
  | delivered => exact .inl ⟨rfl, (World.deliver_provider _ _).symm ▸ hsame⟩

/-- An entity that is no participant stays, unless a participant is cleaned up. -/
theorem Step.profile_stays {event : Event} (h : Step x event y)
    (hwf : x.world.provider.WellFormed) {e : Handle} {p : Provider.Profile}
    (hp : x.world.provider.profile e = some p) (hrole : p.role.kind ≠ .participant)
    (hcleaned : ∀ participant heard gone, event ≠ .cleaned participant heard gone) :
    y.world.provider.profile e = some p := by
  rcases h.provider with ⟨-, hsame⟩ | ⟨isFile, operation, reply, s, hdeed, hperform, hsame⟩
  · exact (State.profile_of_entities hsame.1 e).trans hp
  · have hstep := State.perform_evolves hwf isFile operation
    rw [hperform] at hstep
    refine (State.profile_of_entities hsame.1 e).trans (hstep.profile_stays hwf ?_ hp hrole)
    rintro participant rfl
    cases event with
    | performed =>
        cases hdeed
        cases h with
        | performed hroutine => cases hroutine
    | cleaned participant heard gone => exact hcleaned participant heard gone rfl
    | set reader heard => cases heard <;> cases hdeed
    | cleared reader heard => cases heard <;> cases hdeed
    | _ => cases hdeed

end Relay

/-! ## Capsules that come and go -/

/-- Capsules come with entities that the bridge created, and stay, those of one entity at most
excepted. -/
structure World.KeepsCapsules (w : World (Body C)) (event : Relay.Event) (w' : World (Body C)) :
    Prop where
  generation : w'.bridge.generation = w.bridge.generation
  stay : ∀ {r kind e}, w.CapsuleAt r kind e → event ≠ .released kind e → w'.CapsuleAt r kind e
  come : ∀ {r capsule}, w'.bodyAt r = some (.capsule capsule) →
    w.bodyAt r = some (.capsule capsule) ∨ w.provider.Kinded capsule.handle capsule.kind ∧
      ∃ observed, capsule.owner = .bridge w.bridge.generation observed

namespace World.KeepsCapsules

variable {w w' : World (Body C)} {event : Relay.Event}

theorem of_quiet (h : w.Quiet Body.IsNoCapsule w') : w.KeepsCapsules event w' where
  generation := h.generation
  stay := by
    rintro r kind e ⟨observed, hbody⟩ -
    exact ⟨observed, h.generation ▸ h.old r _ hbody⟩
  come := fun {r capsule} hbody =>
    (h.new r _ hbody).imp_right fun hplain => absurd rfl (hplain capsule)

theorem of_heap (hheap : w'.heap = w.heap)
    (hgeneration : w'.bridge.generation = w.bridge.generation) : w.KeepsCapsules event w' where
  generation := hgeneration
  stay := by
    rintro r kind e ⟨observed, hbody⟩ -
    exact ⟨observed, by rwa [bodyAt, hheap, hgeneration]⟩
  come := fun hbody => .inl (by rwa [bodyAt, hheap] at hbody)

/-- One object goes. -/
theorem of_erase {r : Ref} (hheap : w'.heap = w.heap.erase r)
    (hgeneration : w'.bridge.generation = w.bridge.generation)
    (hgone : ∀ kind e, w.CapsuleAt r kind e → event = .released kind e) :
    w.KeepsCapsules event w' where
  generation := hgeneration
  stay := by
    rintro r' kind e hcapsule hother
    have hne : r' ≠ r := by
      rintro rfl
      exact hother (hgone kind e hcapsule)
    obtain ⟨observed, hbody⟩ := hcapsule
    refine ⟨observed, ?_⟩
    rwa [bodyAt, hheap, Heap.get?_erase, if_neg hne, hgeneration]
  come := fun {r' capsule} hbody => by
    rw [bodyAt, hheap, Heap.get?_erase] at hbody
    split at hbody
    · exact absurd hbody (by simp)
    · exact .inl hbody

end World.KeepsCapsules

namespace Relay

variable {x y : Relay C} [HostCode C]

theorem Step.keepsCapsules {event : Event} (h : Step x event y) :
    x.world.KeepsCapsules event y.world := by
  cases h with
  | hosted h => exact .of_quiet h
  | discarded h =>
      obtain ⟨_, hdiscard⟩ := World.discard_of_not_capsuleAt h
      refine .of_erase (World.discard_heap _ _) ?_ fun kind e hcapsule => absurd hcapsule (h kind e)
      rw [hdiscard]
  | @sealed kind e hkinded observed =>
      let node : Node (Body C) :=
        ⟨.empty, .capsule ⟨kind, e, .bridge x.world.bridge.generation observed⟩⟩
      have halloc : x.world.Quiet (fun body => node.body = body)
          { x.world with heap := (x.world.heap.alloc node).2 } := .alloc x.world rfl
      refine ⟨rfl, ?_, fun {r capsule} hbody => ?_⟩
      · rintro r k e' ⟨seen, hbody⟩ -
        exact ⟨seen, halloc.old r _ hbody⟩
      · refine (halloc.new r _ hbody).imp_right fun hnew => ?_
        cases hnew
        exact ⟨hkinded, observed, rfl⟩
  | rested waitSets =>
      obtain ⟨hheap, hbridge⟩ := x.world.absorb_frame { x.world.provider with waitSets }
      exact .of_heap hheap (congrArg BridgeState.generation hbridge)
  | performed _ h =>
      obtain ⟨hheap, hbridge⟩ := x.world.absorb_frame _
      exact .of_heap hheap (congrArg BridgeState.generation hbridge)
  | @released r kind e observed h =>
      obtain ⟨hheap, hbridge⟩ := (x.world.uncap r kind e observed).absorb_frame
        (x.world.provider.release e)
      -- the capsule that goes is the one that the event tells of
      refine .of_erase hheap (congrArg BridgeState.generation hbridge :) fun k e' hcapsule => ?_
      obtain ⟨_, hbody⟩ := hcapsule
      cases h.symm.trans hbody
      rfl
  | set _ _ hgrants | cleared hgrants | cleaned hgrants =>
      obtain ⟨hheap, hbridge⟩ := hgrants.frame
      exact .of_heap hheap (congrArg BridgeState.generation hbridge :)
  | called => exact .of_heap rfl rfl
  | ignored => exact .of_heap rfl rfl
  | lapsed => exact .of_heap rfl rfl
  | @delivered call rest h =>
      obtain ⟨_, _, hdeliver⟩ := x.world.deliver_eq call
      refine .of_heap ?_ ?_ <;> rw [hdeliver]

end Relay

/-! ## Readers with a callback -/

/-- All capsules are the present bridge's and name entities of their kinds, and a reader with a
callback is there, and so is its capsule. -/
structure World.Registered (w : World (Body C)) : Prop where
  truthful : w.Truthful
  owned : ∀ {r capsule}, w.bodyAt r = some (.capsule capsule) →
    ∃ observed, capsule.owner = .bridge w.bridge.generation observed
  held : ∀ {reader}, w.bridge.callbacks.contains reader = true →
    w.provider.isAlive reader = true ∧ ∃ r, w.CapsuleAt r .reader reader

/-- A bridge that is not asked yet to call anybody: it has no callbacks, and all capsules are its
own and name entities of their kinds. -/
structure World.Unheard (w : World (Body C)) : Prop where
  truthful : w.Truthful
  owned : ∀ {r capsule}, w.bodyAt r = some (.capsule capsule) →
    ∃ observed, capsule.owner = .bridge w.bridge.generation observed
  callbacks : w.bridge.callbacks = .empty

theorem World.Unheard.registered {w : World (Body C)} (h : w.Unheard) : w.Registered where
  truthful := h.truthful
  owned := h.owned
  held := fun hset => by
    rw [h.callbacks] at hset
    exact absurd hset (by simp [Table.contains])

namespace Relay

variable {x y : Relay C} [HostCode C]

theorem Step.truthful {event : Event} (h : Step x event y) (hx : x.world.Truthful) :
    y.world.Truthful := by
  have hgoes : x.world.provider.Goes y.world.provider := by
    rcases h.provider with ⟨-, hsame⟩ | ⟨isFile, operation, reply, s, -, hperform, hsame⟩
    · exact .of_entities hsame.1 hsame.2.1
    · have hgoes := State.perform_goes isFile operation x.world.provider
      rw [hperform] at hgoes
      exact hgoes.trans (.of_entities hsame.1 hsame.2.1)
  obtain ⟨hwf, hprecedes⟩ := hgoes hx.wellFormed
  refine ⟨hwf, fun hbody => ?_⟩
  rcases h.keepsCapsules.come hbody with hold | ⟨hkinded, -⟩
  · exact (hx.kinded hold).mono hprecedes
  · exact hkinded.mono hprecedes

omit [HostCode C] in
theorem mem_losses {w w' : World (Body C)} {e : Handle} :
    e ∈ losses w w' ↔ w.provider.isAlive e = true ∧ w'.provider.isAlive e = false := by
  unfold losses
  rw [List.mem_filter, Table.mem_keys_iff, ← Option.isSome_iff_exists, Bool.not_eq_true']
  rfl

/-- A reader that is there with a capsule stays, unless it is deleted by a clean-up. -/
theorem Step.alive {event : Event} {reader : Handle} {r : Ref} (h : Step x event y)
    (hx : x.world.Truthful) (hcapsule : x.world.CapsuleAt r .reader reader)
    (halive : x.world.provider.isAlive reader = true)
    (hcleaned : ∀ participant heard gone, event = .cleaned participant heard gone → reader ∉ gone) :
    y.world.provider.isAlive reader = true := by
  by_cases hevent : ∃ participant heard gone, event = .cleaned participant heard gone
  · obtain ⟨participant, heard, gone, rfl⟩ := hevent
    have hstays := hcleaned participant heard gone rfl
    cases h with
    | cleaned hgrants =>
        exact Bool.of_not_eq_false fun hdead => hstays (mem_losses.mpr ⟨halive, hdead⟩)
  · obtain ⟨p, hp⟩ := State.isAlive_iff_profile.mp halive
    obtain ⟨_, hbody⟩ := hcapsule
    have hrole : p.role.kind = .reader := (hx.kinded hbody).kind hp
    refine State.isAlive_iff_profile.mpr ⟨p, h.profile_stays hx.wellFormed hp ?_ ?_⟩
    · rw [hrole]
      decide
    · exact fun participant heard gone hcleans => hevent ⟨participant, heard, gone, hcleans⟩

/-- What an event says about a callback comes true, and one about which it says nothing stays as it
is. -/
theorem Step.callbacks {event : Event} (h : Step x event y) (hx : x.world.Registered)
    (reader : Handle) :
    y.world.bridge.callbacks.contains reader =
      (event.verdict reader).getD (x.world.bridge.callbacks.contains reader) := by
  cases h with
  | hosted _ hcallbacks => rw [hcallbacks]; rfl
  | discarded h =>
      obtain ⟨_, hdiscard⟩ := World.discard_of_not_capsuleAt h
      rw [hdiscard]
      rfl
  | sealed => rfl
  | rested | performed =>
      exact congrArg (fun b => b.callbacks.contains reader) (x.world.absorb_frame _).2
  | @released r kind e observed h =>
      obtain ⟨-, hbridge⟩ := (x.world.uncap r kind e observed).absorb_frame
        (x.world.provider.release e)
      refine (congrArg (fun b => b.callbacks.contains reader) hbridge :).trans ?_
      by_cases hkind : kind = .reader
      · simp only [World.uncap, Event.verdict, hkind, true_and, if_true, Table.contains_erase]
        split <;> rfl
      · simp [World.uncap, Event.verdict, hkind]
  | @set y r heard registration wrapped _ _ hgrants =>
      show (y.world.bridge.callbacks.insert r registration).contains reader = _
      rw [hgrants.frame.2, Table.contains_insert, Event.verdict]
      split <;> rfl
  | @cleared y r heard hgrants =>
      show (y.world.bridge.callbacks.erase r).contains reader = _
      rw [hgrants.frame.2, Table.contains_erase, Event.verdict]
      split <;> rfl
  | @cleaned y participant heard hgrants =>
      show (y.world.bridge.callbacks.filter fun r _ =>
        y.world.provider.isAlive r).contains reader = _
      rw [hgrants.frame.2, Table.contains_filter, Event.verdict]
      -- who has a callback was there before, so the deleted readers are those that are not there
      cases hset : x.world.bridge.callbacks.contains reader with
      | false => split <;> rfl
      | true =>
          obtain ⟨halive, -⟩ := hx.held hset
          simp only [mem_losses, halive, true_and]
          cases y.world.provider.isAlive reader <;> rfl
  | called => rfl
  | ignored => rfl
  | @lapsed n rest registration hpending hset hproxy =>
      show (x.world.bridge.callbacks.erase n.reader).contains reader = _
      rw [Table.contains_erase, Event.verdict]
      split <;> rfl
  | delivered => exact congrArg (fun t => t.contains reader) (World.deliver_callbacks _ _)

/-- A reader with a callback is there with its capsule after every event. -/
theorem Step.registered {event : Event} (h : Step x event y) (hx : x.world.Registered) :
    y.world.Registered := by
  have hkeeps := h.keepsCapsules
  refine ⟨h.truthful hx.truthful, fun hbody => ?_, fun {reader} hset => ?_⟩
  · rw [hkeeps.generation]
    exact (hkeeps.come hbody).elim hx.owned And.right
  -- the reader had a callback before, or it has just been set
  obtain ⟨⟨halive, r, hcapsule⟩, hsilent⟩ :
      (x.world.provider.isAlive reader = true ∧ ∃ r, x.world.CapsuleAt r .reader reader) ∧
        event.verdict reader ≠ some false := by
    rw [h.callbacks hx reader] at hset
    cases hverdict : event.verdict reader with
    | none => exact ⟨hx.held (by rwa [hverdict] at hset), by simp⟩
    | some verdict =>
        rw [hverdict] at hset
        obtain rfl : verdict = true := hset
        obtain ⟨heard, rfl⟩ := Event.verdict_eq_true_iff.mp hverdict
        refine ⟨?_, by simp⟩
        cases h with
        | set hcapsule halive =>
            refine ⟨halive, ?_⟩
            unfold capsuleHandle body? at hcapsule
            split at hcapsule
            · rename_i capsule hbody
              obtain ⟨observed, howner⟩ := hx.owned hbody
              obtain ⟨kind, e, owner⟩ := capsule
              cases hcapsule
              cases howner
              exact ⟨_, observed, hbody⟩
            · cases hcapsule
  refine ⟨h.alive hx.truthful hcapsule halive ?_, r, hkeeps.stay hcapsule ?_⟩
  · rintro participant heard gone rfl hgone
    exact hsilent (if_pos hgone)
  · rintro rfl
    exact hsilent (if_pos ⟨rfl, rfl⟩)

/-- A reader with a callback is there with its capsule at all times, and the latest verdict on a
callback holds. -/
theorem Story.registered {past : List (Moment C)} (h : Story x past y) (hx : x.world.Registered) :
    y.world.Registered ∧ ∀ reader, y.world.bridge.callbacks.contains reader =
      (latest reader past).getD (x.world.bridge.callbacks.contains reader) := by
  induction h with
  | start => exact ⟨hx, fun _ => rfl⟩
  | next _ hstep ih =>
      obtain ⟨hregistered, hlatest⟩ := ih
      refine ⟨hstep.registered hregistered, fun reader => ?_⟩
      rw [hstep.callbacks hregistered, hlatest, latest_snoc, Option.getD_or]

end Relay

/-! ## The latest event decides -/

variable [HostCode C] {w w₀ : World (Body C)} {r : Ref} {n : Notification}

/-- A capsule goes, and nothing else happens but what goes with anything. -/
theorem discard_tellsOnce {kind : EntityKind} {e : Handle} (h : w.CapsuleAt r kind e) :
    w.TellsOnce (·.event = .released kind e) (w.discard r) := by
  obtain ⟨observed, hbody⟩ := h
  rw [World.discard_of_capsuleAt hbody, World.advance_eq_foldl_deliver]
  exact ⟨_, _, .released hbody, rfl, trails_steady.refl _⟩

/-- What the bridge, its host and other clients do makes a story of what the calls bring about: only
a call that sets the callback of a reader makes one set, only a call that clears it or cleans up its
participant takes it away, and only dispatches consume notifications. The first three bring about one
such moment if they succeed, and none if they fail, a capsule goes when it is let go, and a dispatch
takes turns: it finds no callback, finds the proxy for the callback gone and forgets the callback, or
calls the callback, which does what host code does. At every time a reader has a callback exactly if
the latest of these events for it is a set. Then it is there, and so is its capsule. A notification
for any other reader calls nobody. -/
theorem Bridge.callbacks_follow_events (hstart : w₀.Unheard) :
    (∀ P (w w' : World (Body C)), Bridge.ActivityOf P w w' → w.Tells P w') ∧
    (∀ (w : World (Body C)) (inner : Host (Body C)) (invoke : C → List Ref → MemoryAction C Ref)
      (proxy callback : Ref),
      ((Call.setCallback proxy callback).act (host inner invoke)).Marks
        (fun m => ∃ r heard, StandsFor w proxy .reader r ∧ m.event = .set r heard ∧
          m.after.world.bridge.callbacks.get? r = some ⟨proxy, callback⟩) w ∧
      ((Call.clearCallback proxy).act (host inner invoke)).Marks
        (fun m => ∃ r heard, StandsFor w proxy .reader r ∧ m.event = .cleared r heard) w ∧
      ((Call.cleanup proxy).act (host inner invoke)).Marks
        (fun m => ∃ p heard gone, StandsFor w proxy .participant p ∧
          m.event = .cleaned p heard gone) w) ∧
    (∀ (w : World (Body C)) r kind e, w.CapsuleAt r kind e →
      w.TellsOnce (·.event = .released kind e) (w.discard r)) ∧
    (∀ P (inner : Host (Body C)) (invoke : C → List Ref → MemoryAction C Ref),
      Bridge.ObeysOf P inner invoke → ∀ limit wait (w w' : World (Body C)) result,
        (dispatchUpTo (host inner invoke) limit wait).apply w = (result, w') →
          result ≠ .error .endless → ∃ past, Drained Error.host (Relay.Moment.Comes P)
            (host inner invoke) (w.awaited wait) past result w') ∧
    ∀ past x, Relay.Story ⟨w₀, []⟩ past x → ∀ reader,
      (x.world.bridge.callbacks.contains reader = true ↔ Relay.latest reader past = some true) ∧
      (x.world.bridge.callbacks.contains reader = true →
        x.world.provider.isAlive reader = true ∧ ∃ r, x.world.CapsuleAt r .reader reader) ∧
      (Relay.latest reader past ≠ some true →
        (∀ status callback y, ¬Relay.Step x (.called ⟨reader, status⟩ callback) y) ∧
        ∀ (h : Host (Body C)) status,
          (Bridge.consume h ⟨reader, status⟩).apply x.world = (.ok false, x.world)) := by
  refine ⟨fun P w w' hactivity => hactivity.tells, fun w inner invoke proxy callback =>
    ⟨setCallback_marks w proxy callback, clearCallback_marks w proxy, cleanup_marks w proxy⟩,
    fun w r kind e => discard_tellsOnce, fun P inner invoke hobeys limit wait w w' result hrun hends =>
    dispatch_drained (Relay.admits_comes P) hobeys.acts hrun hends, ?_⟩
  intro past x hstory reader
  obtain ⟨hregistered, hlatest⟩ := hstory.registered hstart.registered
  have hiff : x.world.bridge.callbacks.contains reader = true ↔
      Relay.latest reader past = some true := by
    rw [hlatest, hstart.callbacks]
    rcases Relay.latest reader past with _ | _ | _ <;> simp [Table.contains]
  refine ⟨hiff, hregistered.held, fun hother => ?_⟩
  have hnone : x.world.bridge.callbacks.get? reader = none := by
    rw [← Option.not_isSome_iff_eq_none]
    exact fun hset => hother (hiff.mp hset)
  refine ⟨fun status callback y hcalled => ?_, fun h status => consume_apply_of_unset h hnone⟩
  cases hcalled with
  | called _ hset => cases hnone.symm.trans hset

namespace Bridge

/-! A callback for a reader, and the end of the reader's capsule. -/

/-- What a heap of given objects has for capsules. -/
theorem capsule_of_objects {nodes : List (Node (Memory.Body C))} {P : Capsule → Prop}
    (hnodes : ∀ node ∈ nodes, ∀ capsule ∈ ObjectBody.capsule? node.body, P capsule)
    (hheap : w.heap = ⟨(nodes.map some).toArray⟩) {capsule : Capsule}
    (hbody : w.bodyAt r = some (.capsule capsule)) : P capsule := by
  obtain ⟨node, hnode, hcapsule⟩ := Option.map_eq_some_iff.mp hbody
  rw [hheap] at hnode
  refine hnodes node (Heap.mem_of_get? hnode) capsule ?_
  rw [hcapsule]
  rfl

/-- The objects with a writer's proxy, a proxy for a reader with its capsule, and a function. -/
def listenObjects : List (Node (Memory.Body Session.Code)) :=
  noteObjects ++
    [⟨.empty, .capsule ⟨.reader, ⟨6⟩, .bridge 1 true⟩⟩,
      ⟨attrsOf [("_cpp_object", ⟨27⟩)], .instance Builtin.object.ref none⟩,
      ⟨.empty, .function (.argument 0)⟩]

/-- The world with these objects. -/
def listenWorld : World (Memory.Body Session.Code) :=
  { noteWorld with heap := ⟨(listenObjects.map some).toArray⟩ }

theorem unheard_listenWorld : listenWorld.Unheard := by
  have hcapsules : ∀ node ∈ listenObjects, ∀ capsule ∈ ObjectBody.capsule? node.body,
      capsule.owner = .bridge 1 true ∧
        (listenWorld.provider.profile capsule.handle).map (fun profile => profile.role.kind) =
          some capsule.kind := by
    decide +kernel
  refine ⟨⟨truthful_noteWorld.wellFormed, fun hbody => ?_⟩, fun hbody => ?_, rfl⟩
  · obtain ⟨-, hkind⟩ := capsule_of_objects hcapsules rfl hbody
    obtain ⟨profile, hprofile, hkind⟩ := Option.map_eq_some_iff.mp hkind
    refine ⟨truthful_noteWorld.wellFormed.issued hprofile, fun hp => ?_⟩
    rwa [← Option.some.inj (hprofile.symm.trans hp)]
  · exact ⟨true, (capsule_of_objects hcapsules rfl hbody).1⟩

/-- The world after a callback was set for the reader. -/
def listeningWorld : World (Memory.Body Session.Code) :=
  (((Call.setCallback ⟨28⟩ ⟨29⟩).act plainHost).apply listenWorld).2

theorem callbacks_follow_events_listening : listenWorld.Unheard ∧
    (∃ past, Relay.Story ⟨listenWorld, []⟩ past ⟨listeningWorld, []⟩ ∧
      Relay.latest ⟨6⟩ past = some true) ∧
    ∃ past, Relay.Story ⟨listenWorld, []⟩ past ⟨listeningWorld.discard ⟨27⟩, []⟩ ∧
      Relay.latest ⟨6⟩ past ≠ some true := by
  obtain ⟨htells, -, -, -, hlatest⟩ := callbacks_follow_events unheard_listenWorld
  have hset : (((Call.setCallback ⟨28⟩ ⟨29⟩).act plainHost).apply listenWorld).1.isOk = true ∧
      listeningWorld.bridge.callbacks.contains ⟨6⟩ = true ∧
      (listeningWorld.discard ⟨27⟩).bridge.callbacks.contains ⟨6⟩ = false := by
    decide +kernel
  obtain ⟨hok, hthere, hgone⟩ := hset
  have hactivity : Activity listenWorld listeningWorld := by
    refine .ofCall (.stuck fun w _ _ _ => Within.never w) trivial fun hends => ?_
    exact absurd (hok.symm.trans (congrArg Except.isOk hends)) (by decide)
  obtain ⟨past, hpast, -⟩ := htells _ _ _ hactivity
  obtain ⟨more, hmore, -⟩ := htells _ _ _ (hactivity.trans (.discard listeningWorld ⟨27⟩))
  refine ⟨unheard_listenWorld, ⟨past, hpast, (hlatest past _ hpast ⟨6⟩).1.mp hthere⟩, more, hmore,
    fun hset => ?_⟩
  rw [(hlatest more _ hmore ⟨6⟩).1.mpr hset] at hgone
  cases hgone

end Bridge

end DdsBridge
