import DdsBridge.Proofs.Bridge.Turns

/-!
# What the bridge and its host do

The host runs its own code, calls the bridge and is called by it, and other clients use the
provider. However all this is nested, it comes down to one step of the relay after the other, with
every listener call made as soon as it is due. Which moments there are depends on the calls: only a
call that sets a callback brings about that one is set, and only a dispatch consumes notifications.

* **`Bridge.ActivityOf`** — what the bridge, its host and other clients do if the calls of the
  bridge are of a sort; **`Bridge.Activity`** for any calls.
* **`Relay.Moment.Comes`** — the moments that calls of a sort bring about.
* **`Action.Marks`** — a call brings about a moment of its own if it succeeds, and none if it fails.
* **`ask_tells`**, **`create_tells`**, **`grant_marks`** — what the bridge asks of the provider, and
  what it does with the answer.
* **`setCallback_marks`**, **`clearCallback_marks`**, **`cleanup_marks`** — the calls that set a
  callback or take callbacks away.
* **`Bridge.ActivityOf.tells`** — every activity makes a story of the moments that its calls bring
  about.
-/

namespace DdsBridge

open Memory
open DdsBridge.Action (Within WithinAt)
open Provider (Method Operation Reply State)

variable {C : Type} [HostCode C] {w w' : World (Body C)}
variable {inner : Host (Body C)} {invoke : C → List Ref → MemoryAction C Ref}

/-- What the bridge, its host and other clients do, from one world to another. The host makes
objects that are no capsules and changes attributes, objects go, other clients use the provider but
leave listeners and deletions to the bridge, and the host calls the bridge; the calls are of a sort.
Host code that a call runs in its course does what is described here, too. -/
inductive Bridge.ActivityOf (P : Bridge.Call → Prop) : World (Body C) → World (Body C) → Prop where
  | host {w w' : World (Body C)} (h : w.Still Body.IsNoCapsule AnyName w') : ActivityOf P w w'
  | discard (w : World (Body C)) (r : Ref) : ActivityOf P w (w.discard r)
  | provider (w : World (Body C)) (isFile : String → Bool) {operation : Operation}
      (hroutine : operation.isRoutine = true) :
    ActivityOf P w (w.advance (w.provider.perform isFile operation).2)
  | call {w : World (Body C)} {inner : Host (Body C)} {invoke : C → List Ref → MemoryAction C Ref}
    (hcall : ∀ callable args, (inner.call callable args).Within (ActivityOf P))
    (hstr : ∀ obj, (inner.strOf obj).Within (ActivityOf P))
    (hset : ∀ obj name value, (inner.setAttr obj name value).Within (ActivityOf P))
    (hinvoke : ∀ w code args, HasCode w code → (invoke code args).WithinAt (ActivityOf P) w)
    {call : Bridge.Call} (hsort : P call)
    (hends : ((call.act (host inner invoke)).apply w).1 ≠ .error .endless) :
    ActivityOf P w ((call.act (host inner invoke)).apply w).2
  | trans {w w₁ w₂ : World (Body C)} :
    ActivityOf P w w₁ → ActivityOf P w₁ w₂ → ActivityOf P w w₂

/-- What the bridge, its host and other clients do, whatever is called. -/
abbrev Bridge.Activity : World (Body C) → World (Body C) → Prop := ActivityOf fun _ => True

/-- A moment that goes with anything or comes from calls of a sort: a callback is set for the reader
of a proxy by a call for that proxy, a callback is cleared and a participant is cleaned up in the
same way, and notifications are consumed by dispatches. -/
def Relay.Moment.Comes (P : Bridge.Call → Prop) (m : Relay.Moment C) : Prop :=
  match m.event with
  | .set r _ => ∃ proxy callback, P (.setCallback proxy callback) ∧
      StandsFor m.before.world proxy .reader r
  | .cleared r _ => ∃ proxy, P (.clearCallback proxy) ∧ StandsFor m.before.world proxy .reader r
  | .cleaned p _ _ => ∃ proxy, P (.cleanup proxy) ∧ StandsFor m.before.world proxy .participant p
  | .called .. | .ignored _ | .lapsed _ => ∃ wait, P (.dispatch wait)
  | .other | .performed .. | .released .. | .delivered _ => True

omit [HostCode C] in
theorem Relay.admits_comes (P : Bridge.Call → Prop) :
    Relay.Admits (Relay.Moment.Comes (C := C) P) := by
  rintro ⟨_, event, _⟩ hincidental
  cases event <;> trivial

/-- What happened between two worlds makes a story of moments that come from calls of a sort. -/
abbrev World.Tells (P : Bridge.Call → Prop) (w w' : World (Body C)) : Prop :=
  w.TellsOf (Relay.Moment.Comes P) w'

variable {P : Bridge.Call → Prop}

theorem tells_steady (P : Bridge.Call → Prop) :
    World.Steady Body.IsNoCapsule AnyName
      (World.Tells P : World (Body C) → World (Body C) → Prop) :=
  tellsOf_steady (Relay.admits_comes P)

theorem tells_performed (P : Bridge.Call → Prop) (w : World (Body C)) (isFile : String → Bool)
    {operation : Operation} (hroutine : operation.isRoutine = true) :
    w.Tells P (w.advance (w.provider.perform isFile operation).2) :=
  tells_of_absorb (Relay.admits_comes P) (.performed hroutine rfl) trivial

/-! ## Requests -/

/-- A wait that nobody disturbs changes the wait sets. -/
theorem Provider.State.waitAlone_waitSets (s : State) (waitSet : WaitSetId) (limit : Duration) :
    ∃ waitSets, (s.waitAlone waitSet limit).2 = { s with waitSets } := by
  unfold waitAlone
  rcases hentered : s.enterWait waitSet with ⟨code | ⟨⟩, entered⟩
  · obtain rfl : entered = s := by simpa [hentered] using s.enterWait_keeps waitSet code
    exact ⟨entered.waitSets, rfl⟩
  · obtain ⟨-, rfl⟩ := enterWait_eq_ok hentered
    dsimp only
    split
    · exact ⟨_, rfl⟩
    · split
      · exact ⟨_, rfl⟩
      · exact ⟨_, rfl⟩

/-- What a call that is to bring about a moment leaves behind: the moment if it succeeded, and nothing
of its own if it failed. -/
def World.Marked (p : Relay.Moment C → Prop) (w : World (Body C)) :
    Except (Stop Error) Unit × World (Body C) → Prop
  | (.ok _, w') => w.TellsOnce p w'
  | (.error (.raised _), w') => w.Trails w'
  | (.error .endless, _) => True

/-- A call brings about a moment of a sort if it succeeds, and none if it fails. -/
def Action.Marks (p : Relay.Moment C → Prop) (x : BridgeAction (Body C) Unit) (w : World (Body C)) :
    Prop :=
  w.Marked p (x.apply w)

theorem Action.Marks.tells {p : Relay.Moment C → Prop} {x : BridgeAction (Body C) Unit}
    (h : x.Marks p w)
    (hp : ∀ event y, p ⟨⟨w, []⟩, event, y⟩ → Relay.Moment.Comes P ⟨⟨w, []⟩, event, y⟩) :
    x.WithinAt (World.Tells P) w := by
  unfold Action.Marks at h
  intro hends
  rcases hrun : x.apply w with ⟨(_ | _) | _, w'⟩ <;> rw [hrun] at h hends
  · exact World.Trails.tells (Relay.admits_comes P) h
  · exact absurd rfl hends
  · exact World.TellsOnce.tells h (Relay.admits_comes P) hp

section Requests

variable {ε α : Type} {operation : Operation} {method : Method}

theorem perform_tells (isFile : String → Bool) (hroutine : operation.isRoutine = true) :
    Within (World.Tells P) (Gate.perform isFile operation : Action (Body C) ε Reply) := by
  have hgo : Within (World.Tells P) (do
      let performed := (← Action.world).provider.perform isFile operation
      Action.change fun w => w.advance performed.2
      return performed.1 : Action (Body C) ε Reply) :=
    .world fun w _ => tells_performed P w isFile hroutine
  unfold Gate.perform
  cases operation.method? with
  | none => exact hgo
  | some method =>
      refine .bind (tells_steady P) (Gate.nextFault_within (tells_steady P) method) fun fault => ?_
      cases fault with
      | none => exact hgo
      | some code => exact .pure (tells_steady P) _

theorem run_tells (isFile : String → Bool) {op : State → Provider.Result Unit}
    (hmethod : operation.method? = some method)
    (hop : ∀ s : State, s.perform isFile operation = (op s).settle)
    (hroutine : operation.isRoutine = true) :
    Within (World.Tells P) (Gate.run method op : Action (Body C) ε ReturnCode) := by
  rw [Gate.run_eq isFile operation hmethod hop]
  exact .bind (tells_steady P) (perform_tells isFile hroutine) fun _ => .pure (tells_steady P) _

theorem fetch_tells (isFile : String → Bool) {op : State → Provider.Result Unit}
    (hmethod : operation.method? = some method)
    (hop : ∀ s : State, s.perform isFile operation = (op s).settle)
    (hroutine : operation.isRoutine = true) :
    Within (World.Tells P)
      (Gate.fetch method op : Action (Body C) ε (Except ReturnCode Unit)) := by
  intro w hends
  have hrun := run_tells (P := P) (ε := ε) isFile hmethod hop hroutine w
  unfold Action.WithinAt at hrun
  -- a call that answers with a code does nothing else
  rw [Gate.run, Action.apply_bind] at hrun
  rcases hfetch : (Gate.fetch method op : Action (Body C) ε _).apply w with ⟨stop | _ | _, w'⟩ <;>
    rw [hfetch] at hrun hends
  · exact hrun fun h => hends (congrArg Except.error (Except.error.inj h))
  · exact hrun (by simp [Action.apply_pure])
  · exact hrun (by simp [Action.apply_pure])

theorem wait_tells (waitSet : WaitSetId) (limit : Duration) :
    Within (World.Tells P) (Gate.wait waitSet limit : Action (Body C) ε ReturnCode) := by
  refine .bind (tells_steady P) (Gate.nextFault_within (tells_steady P) _) fun fault => ?_
  cases fault with
  | some code => exact .pure (tells_steady P) _
  | none =>
      refine .world fun w => ?_
      obtain ⟨waitSets, hwait⟩ := State.waitAlone_waitSets w.provider waitSet limit
      refine Action.WithinAt.bind (tells_steady P) (fun _ => ?_) fun _ w₁ _ => ?_
      · show w.Tells P (w.advance (w.provider.waitAlone waitSet limit).2)
        rw [hwait]
        exact (trails_rested w waitSets).tells (Relay.admits_comes P)
      · split
        · exact fun _ => (tells_steady P).refl w₁
        · exact fun hends => absurd rfl hends

/-- A question about a routine matter. -/
theorem ask_tells {finish : Reply → BridgeAction (Body C) Unit}
    (hroutine : operation.isRoutine = true) (hfinish : ∀ reply, Within (World.Tells P) (finish reply)) :
    Within (World.Tells P) (Bridge.Question.ask ⟨operation, finish⟩) :=
  .bind (tells_steady P) (perform_tells _ hroutine) hfinish

/-- A creation: the provider's answer, and then the capsule for the new entity. -/
theorem create_tells {kind : EntityKind} {name : String} {f : Handle → BridgeAction (Body C) Unit}
    {op : State → Provider.Result Handle} (hmethod : operation.method? = some method)
    (hroutine : operation.isRoutine = true)
    (hop : ∀ s : State, s.perform (fun _ => false) operation = (op s).settleWith .entity)
    (hmakes : ∀ s : State, s.Makes kind (op s))
    (hf : ∀ e, (f e).Settles (World.Tells P) kind e) :
    Within (World.Tells P) (Bridge.Question.ask ⟨operation, fun reply => do
      let e ← Gate.expect name (reply.result Reply.entity?)
      f e⟩) := by
  refine fun w => .bind (tells_steady P) (perform_tells _ hroutine w) fun reply w₁ hrun => ?_
  cases hentity : reply.entity? with
  | none =>
      simp only [Reply.result, hentity]
      exact fun _ => (tells_steady P).refl w₁
  | some e =>
      simp only [Reply.result, hentity]
      -- the provider made the entity in the world in which its capsule comes
      have hkinded : w₁.provider.Kinded e kind := by
        rw [Gate.perform_apply hmethod, hop] at hrun
        split at hrun
        · rcases hs : op w.provider with ⟨code | made, s⟩ <;> rw [hs] at hrun <;> cases hrun <;>
            cases hentity
          obtain ⟨hentities, hlast⟩ := w.advance_provider s
          exact ((hmakes _).adds hs).kinded.mono
            (.of_entities hentities (Nat.le_of_eq hlast.symm))
        · cases hrun
          cases hentity
      intro hends
      obtain ⟨body, hbody, hrest⟩ := hf e w₁ hends
      obtain rfl : body = .capsule ⟨kind, e, .bridge w₁.bridge.generation w₁.bridge.observed⟩ := by
        cases body <;> cases hbody
        rfl
      exact (tells_of_step (Relay.admits_comes P) (.sealed hkinded _) trivial).trans hrest

/-- A request on whose success the bridge changes its callbacks. -/
theorem grant_marks {name : String} {f : World (Body C) → Table Handle Registration}
    {p : Relay.Moment C → Prop} {op : State → Provider.Result Unit}
    (hmethod : operation.method? = some method)
    (hop : ∀ s : State, s.perform (fun _ => false) operation = (op s).settle)
    (hkeeps : w.provider.Keeps (op w.provider))
    (hcode : ∀ code, (op w.provider).1 = .error code → code ≠ .ok)
    (hf : ∀ w call, f (World.deliver w call) = f w)
    (hstep : ∀ heard y, Relay.Grants ⟨w, []⟩ operation heard y →
      ∃ event, Relay.Step ⟨w, []⟩ event ⟨y.world.withCallbacks (f y.world), y.jobs⟩ ∧
        p ⟨⟨w, []⟩, event, ⟨y.world.withCallbacks (f y.world), y.jobs⟩⟩) :
    (Bridge.Question.ask ⟨operation, fun reply => do
      Gate.check name reply.code
      Action.change fun w => (w.withCallbacks (f w)).collect⟩).Marks p w := by
  unfold Action.Marks Bridge.Question.ask
  rw [Action.apply_bind, Gate.perform_apply hmethod, hop]
  cases hfault : Gate.takeFault method w.faults with
  | some fault =>
      obtain ⟨code, left⟩ := fault
      dsimp only [Reply.code, Gate.check]
      split
      · -- the provider is not asked, and the bridge goes by the code
        rename_i hok
        obtain rfl : code = .ok := by simpa [ReturnCode.isOk] using hok
        obtain ⟨event, hexcused, hmoment⟩ := hstep false _ (.excused hmethod hfault)
        exact ⟨event, _, hexcused, hmoment, trails_steady.collect _⟩
      · exact trails_steady.quiet (.beside rfl rfl rfl rfl rfl rfl rfl rfl rfl)
  | none =>
      rcases hs : op w.provider with ⟨code | ⟨⟩, s⟩
      · obtain rfl : s = w.provider := by simpa [hs] using hkeeps code (congrArg Prod.fst hs)
        have hrefused : code.isOk = false := by
          simpa [ReturnCode.isOk] using hcode code (congrArg Prod.fst hs)
        have hreply : (Provider.Result.settle (.error code, w.provider)).1.code = code := rfl
        dsimp only
        rw [hreply, Gate.check, hrefused]
        exact trails_rested w w.provider.waitSets
      · have hdone : w.provider.perform (fun _ => false) operation = (.done, s) := by
          rw [hop, hs]
          rfl
        obtain ⟨event, hheard, hmoment⟩ := hstep true _ (.heard hdone)
        -- the callbacks change before the listener calls are made, which do not depend on them
        have hdeliver : ∀ (w : World (Body C)) call, (w.withCallbacks (f w)).deliver call =
            (w.deliver call).withCallbacks (f (w.deliver call)) := by
          intro w call
          rw [hf]
          obtain ⟨listener, _, _⟩ := call
          cases listener <;> rfl
        have hlater : s.calls.foldl World.deliver ((w.absorb s).withCallbacks (f (w.absorb s))) =
            (w.advance s).withCallbacks (f (w.advance s)) := by
          rw [World.advance_eq_foldl_deliver]
          exact List.foldl_hom (fun w : World (Body C) => w.withCallbacks (f w)) hdeliver
        refine ⟨event, _, hheard, hmoment, ?_⟩
        let absorbed := w.absorb s
        show World.Trails (s.calls.foldl World.deliver (absorbed.withCallbacks (f absorbed))) _
        rw [hlater]
        exact trails_steady.collect _

end Requests

/-! ## Waits -/

/-- A client whatever answers it gets asks for routine matters only. -/
def Provider.Client.AsksRoutine {R : Type} : Provider.Client R → Prop
  | .done _ => True
  | .ask operation next => operation.isRoutine = true ∧ ∀ reply, (next reply).AsksRoutine
  | .wait _ _ next => ∀ code, (next code).AsksRoutine

theorem runClient_tells (isFile : String → Bool) {client : Provider.Client Bridge.WaitOutcome}
    (h : client.AsksRoutine) :
    Within (World.Tells P) (Bridge.runClient isFile client : BridgeAction (Body C) Unit) := by
  induction client with
  | done outcome => exact .ofExcept (tells_steady P) outcome
  | ask operation next ih =>
      exact .bind (tells_steady P) (perform_tells isFile h.1) fun reply => ih reply (h.2 reply)
  | wait waitSet limit next ih =>
      have hwait : Within (World.Tells P)
          (unlocked (Gate.wait waitSet limit) : BridgeAction (Body C) ReturnCode) :=
        .bind (tells_steady P) (.change fun w =>
          (tells_steady P).quiet (.beside rfl rfl rfl rfl rfl rfl rfl rfl rfl)) fun _ =>
            wait_tells waitSet limit
      exact .bind (tells_steady P) hwait fun code => ih code (h code)

namespace Bridge.Watch

theorem attach_asksRoutine (q : Watch) (waitSet : WaitSetId) (c : ConditionId) :
    (q.attach waitSet c).AsksRoutine := by
  refine ⟨rfl, fun reply => ?_⟩
  dsimp only
  split
  · exact fun _ => ⟨rfl, fun _ => ⟨rfl, fun _ => trivial⟩⟩
  · exact ⟨rfl, fun _ => trivial⟩

theorem enable_asksRoutine (q : Watch) (c : ConditionId) : (q.enable c).AsksRoutine := by
  refine ⟨rfl, fun reply => ?_⟩
  dsimp only
  split
  · refine ⟨rfl, fun made => ?_⟩
    cases made with
    | waitSet waitSet => exact attach_asksRoutine q waitSet c
    | _ => trivial
  · trivial

end Bridge.Watch

theorem waitOn_tells (q : Bridge.Watch) (reply : Reply) :
    Within (World.Tells P) (Bridge.waitOn q reply : BridgeAction (Body C) Unit) := by
  cases reply with
  | condition c => exact runClient_tells _ (q.enable_asksRoutine c)
  | _ => exact runClient_tells _ trivial

/-! ## Calls of the bridge -/

section Calls

open Proxies

/-- The operations of the host, if the host code that they run does what belongs to stories. -/
theorem acts_of_nested (hnested : Nested AnyName (World.Tells P) inner invoke) :
    (host inner invoke).Acts AnyName (World.Tells P) :=
  hnested.acts ((tells_steady P).mono fun _ hplain => hplain.isNoCapsule) fun _ _ => trivial

theorem giveSample_tells {h : Host (Body C)} (hh : h.Acts AnyName (World.Tells P))
    (coding : SampleCoding) (s : StructType) (reader : Handle) (taken : Except ReturnCode Sample) :
    Within (World.Tells P) (Bridge.giveSample h coding s reader taken) := by
  unfold Bridge.giveSample
  split
  · exact .raise (tells_steady P) _
  · exact .raise (tells_steady P) _
  · split
    · split
      · exact Marshal.toHost_within (tells_steady P) hh .bridge s.type _ s.type.namesFree_any
      · exact .raise (tells_steady P) _
    · exact .pure (tells_steady P) _

theorem init_tells (isFile : String → Bool) (options : InitOptions) :
    Within (World.Tells P) (Bridge.init isFile options : BridgeAction (Body C) Unit) := by
  have hR := tells_steady (C := C) P
  have hinstalled : Within (World.Tells P) (Action.change fun w : World (Body C) =>
      { w with bridge := { w.bridge with initialized := true } } : BridgeAction (Body C) Unit) :=
    .change fun w => hR.quiet (.beside rfl rfl rfl rfl rfl rfl rfl rfl rfl)
  refine .bind hR (.ofExcept hR _) fun args => ?_
  have hinit : (Operation.init args).method? = some .init := rfl
  have hrtps : Operation.installRtps.method? = some .installDefaultRtps := rfl
  -- the transport is installed even if the service was there already
  have htransport : Within (World.Tells P) (Bridge.installTransport options.defaultRtps :
      BridgeAction (Body C) Unit) := by
    unfold Bridge.installTransport
    split
    · refine .bind hR (run_tells isFile hrtps (fun _ => rfl) rfl) fun code => ?_
      split
      · exact .pure hR ()
      · exact .raise hR _
    · exact .pure hR ()
  refine .bind hR (fetch_tells isFile hinit (fun _ => rfl) rfl) fun result => ?_
  refine .bind hR ?_ fun _ => .bind hR htransport fun _ => hinstalled
  cases result with
  | ok => exact .pure hR ()
  | error code => exact .raise hR _

/-- Looking for the entity of a proxy runs no host code. -/
theorem resolveAs_trails (proxy : Ref) (kind : EntityKind) (role : String) :
    Within World.Trails (resolveAs (host inner invoke) proxy kind role) := by
  have hplain := trails_steady (C := C).mono fun _ hplain => Body.IsPlain.isNoCapsule hplain
  have hstuck : Nested AnyName World.Trails stuck fun (_ : C) _ => Action.never :=
    .stuck fun w _ _ _ => Within.never w
  have hreads := (hstuck.acts hplain fun _ _ => trivial).toReads
  exact resolveAs_within trails_steady hreads proxy kind role

/-- A call that looks for the entity of a proxy first. -/
theorem resolved_marks {proxy : Ref} {kind : EntityKind} {role : String}
    {p : Relay.Moment C → Prop} {k : Handle → BridgeAction (Body C) Unit}
    (hk : ∀ e, StandsFor w proxy kind e → (k e).Marks p w) :
    (resolveAs (host inner invoke) proxy kind role >>= k).Marks p w := by
  have htrails : (resolveAs (host inner invoke) proxy kind role).WithinAt World.Trails w :=
    resolveAs_trails proxy kind role w
  unfold Action.Marks
  rw [Action.apply_bind]
  unfold WithinAt at htrails
  rcases hrun : (resolveAs (host inner invoke) proxy kind role).apply w with
    ⟨(error | _) | e, w₁⟩ <;> rw [hrun] at htrails
  · exact htrails (by simp)
  · trivial
  · obtain ⟨rfl, hstands⟩ := resolveAs_eq_ok_iff.mp hrun
    exact hk e hstands

/-- A callback is set for the reader of a proxy. -/
theorem setCallback_marks (w : World (Body C)) (reader callback : Ref) :
    (Bridge.Call.act (host inner invoke) (.setCallback reader callback)).Marks
      (fun m => ∃ r heard, StandsFor w reader .reader r ∧ m.event = .set r heard ∧
        m.after.world.bridge.callbacks.get? r = some ⟨reader, callback⟩) w := by
  rw [Bridge.Call.act_eq rfl]
  simp only [bind_assoc, pure_bind]
  refine resolved_marks fun r hstands => ?_
  obtain ⟨wrapped, -, hcapsule, halive⟩ := id hstands
  have hmethod : (Operation.setListener r (some .channel) (.ofKind .dataAvailable)).method? =
      some .setListener := rfl
  refine grant_marks (f := fun w => w.bridge.callbacks.insert r ⟨reader, callback⟩) hmethod
    (fun _ => rfl) (fun code => w.provider.setListener_keeps _ _ _ code) (fun code hfails => ?_)
    (fun w call => by rw [World.deliver_callbacks]) fun heard y hgrants => ?_
  · exact State.proceed_get_ne_ok hfails fun _ hdone => by cases hdone
  · exact ⟨_, .set hcapsule halive hgrants, r, heard, hstands, rfl,
      by simp [World.withCallbacks, Table.get?_insert]⟩

/-- The callback of the reader of a proxy is cleared. -/
theorem clearCallback_marks (w : World (Body C)) (reader : Ref) :
    (Bridge.Call.act (host inner invoke) (.clearCallback reader)).Marks
      (fun m => ∃ r heard, StandsFor w reader .reader r ∧ m.event = .cleared r heard) w := by
  rw [Bridge.Call.act_eq rfl]
  simp only [bind_assoc, pure_bind]
  refine resolved_marks fun r hstands => ?_
  refine grant_marks (f := fun w => w.bridge.callbacks.erase r) rfl (fun _ => rfl)
    (fun code => w.provider.setListener_keeps _ _ _ code) (fun code hfails => ?_)
    (fun w call => by rw [World.deliver_callbacks])
    fun heard y hgrants => ⟨_, .cleared hgrants, r, heard, hstands, rfl⟩
  exact State.proceed_get_ne_ok hfails fun _ hdone => by cases hdone

/-- The participant of a proxy is cleaned up. -/
theorem cleanup_marks (w : World (Body C)) (proxy : Ref) :
    (Bridge.Call.act (host inner invoke) (.cleanup proxy)).Marks
      (fun m => ∃ p heard gone, StandsFor w proxy .participant p ∧
        m.event = .cleaned p heard gone) w := by
  rw [Bridge.Call.act_eq rfl]
  simp only [bind_assoc, pure_bind]
  refine resolved_marks fun p hstands => ?_
  refine grant_marks
    (f := fun w => w.bridge.callbacks.filter fun reader _ => w.provider.isAlive reader) rfl
    (fun _ => rfl) (fun code => w.provider.deleteContained_keeps _ code) (fun code hfails => ?_)
    (fun w call => by rw [World.deliver_callbacks, World.deliver_provider])
    fun heard y hgrants => ⟨_, .cleaned hgrants, p, heard, _, hstands, rfl⟩
  exact State.proceed_get_ne_ok hfails fun _ hdone => by cases hdone

/-- A dispatch tells of the notifications that it consumes, and of what its callbacks did. -/
theorem dispatch_tells {h : Host (Body C)} (hh : h.Acts AnyName (World.Tells P)) {wait : Bool}
    (hsort : P (.dispatch wait)) : Within (World.Tells P) (Bridge.dispatch h wait) := by
  intro w hends
  have hconsumes : ∀ m : Relay.Moment C, m.event.consumes ≠ none → m.Comes P := by
    rintro ⟨_, event, _⟩ hconsumes
    cases event <;> first | exact ⟨wait, hsort⟩ | exact absurd rfl hconsumes
  have hrun : (Bridge.dispatchUpTo h Bridge.drainLimit wait).apply w =
      (Bridge.dispatch h wait).apply w := rfl
  obtain ⟨past, hdrained⟩ := Bridge.dispatch_drained (Relay.admits_comes P) hh hrun hends
  refine World.TellsOf.trans ?_ (hdrained.tells (Relay.admits_comes P) hconsumes)
  unfold World.awaited
  split
  · exact (tells_steady P).quiet (.beside rfl rfl rfl rfl rfl rfl rfl rfl rfl)
  · exact (tells_steady P).refl w

/-- What a call does makes a story of what it brings about, if the host code that it runs makes
such stories. -/
theorem call_tells (hnested : Nested AnyName (World.Tells P) inner invoke) {call : Bridge.Call}
    (hsort : P call) : (call.act (host inner invoke)).Within (World.Tells P) := by
  have hR := tells_steady (C := C) P
  have hh := acts_of_nested hnested
  have hreads := hh.toReads
  have hany : ∀ name, AnyName name := fun _ => trivial
  have hseals : (host inner invoke).Seals := fun _ => .inr ⟨_, rfl, rfl⟩
  -- each call is what it prepares, what it asks and what it makes of the answer
  cases call with
  | init isFile options => exact init_tells isFile options
  | registerTopicType s =>
      have hregister : ∀ (w : World (Body C)) registry,
          w.Tells P { w with bridge := { w.bridge with registry } } :=
        fun w _ => tells_quiet (Relay.admits_comes P) (.beside rfl rfl rfl rfl rfl rfl) rfl rfl
      exact .bind hR (Registry.registerTopicType_within hR hreads hregister s)
        fun _ => .pure hR ()
  | createParticipant proxy domain =>
      have hask := Gate.fetch_entity (B := Body C) (ε := Error) (fun _ => false)
        (.createParticipant domain) rfl fun _ => rfl
      simp only [Bridge.Call.act, Bridge.createParticipant, hask, bind_assoc, pure_bind]
      exact .bind hR (Bridge.requireInit_within hR _) fun _ =>
        create_tells rfl rfl (fun _ => rfl) (fun s => s.createParticipant_makes ..)
          (Bridge.bindEntity_settles hR hh hany hseals proxy _)
  | createTopic proxy participant name type =>
      rw [Bridge.Call.act_eq rfl]
      simp only [bind_assoc, pure_bind]
      exact .bind hR (Bridge.requireInit_within hR _) fun _ =>
        .bind hR (resolveAs_within hR hreads participant _ _) fun p =>
          create_tells rfl rfl (fun _ => rfl) (fun s => s.createTopic_makes ..) fun e =>
            (Bridge.bindEntity_settles hR hh hany hseals proxy _ e).bind hR fun _ =>
              Bridge.linkType_within hR hh (hany _) proxy type
  | createPublisher proxy participant =>
      rw [Bridge.Call.act_eq rfl]
      simp only [bind_assoc, pure_bind]
      exact .bind hR (Bridge.requireInit_within hR _) fun _ =>
        .bind hR (resolveAs_within hR hreads participant _ _) fun p =>
          create_tells rfl rfl (fun _ => rfl) (fun s => s.createPublisher_makes ..)
            (Bridge.bindEntity_settles hR hh hany hseals proxy _)
  | createSubscriber proxy participant =>
      rw [Bridge.Call.act_eq rfl]
      simp only [bind_assoc, pure_bind]
      exact .bind hR (Bridge.requireInit_within hR _) fun _ =>
        .bind hR (resolveAs_within hR hreads participant _ _) fun p =>
          create_tells rfl rfl (fun _ => rfl) (fun s => s.createSubscriber_makes ..)
            (Bridge.bindEntity_settles hR hh hany hseals proxy _)
  | createWriter proxy publisher topic qos =>
      rw [Bridge.Call.act_eq rfl]
      simp only [bind_assoc, pure_bind]
      exact .bind hR (Bridge.requireInit_within hR _) fun _ =>
        .bind hR (resolveAs_within hR hreads publisher _ _) fun g =>
          .bind hR (resolveAs_within hR hreads topic _ _) fun t =>
            .bind hR (Policies.endpointQos_within hR hreads _ qos) fun offered =>
              create_tells rfl rfl (fun _ => rfl) (fun s => s.createWriter_makes ..) fun e =>
                Bridge.bindEndpoint_settles hR hh hany hseals proxy _ e topic
  | createReader proxy subscriber topic qos =>
      rw [Bridge.Call.act_eq rfl]
      simp only [bind_assoc, pure_bind]
      exact .bind hR (Bridge.requireInit_within hR _) fun _ =>
        .bind hR (resolveAs_within hR hreads subscriber _ _) fun g =>
          .bind hR (resolveAs_within hR hreads topic _ _) fun t =>
            .bind hR (Policies.endpointQos_within hR hreads _ qos) fun requested =>
              create_tells rfl rfl (fun _ => rfl) (fun s => s.createReader_makes ..) fun e =>
                Bridge.bindEndpoint_settles hR hh hany hseals proxy _ e topic
  | registerType participant cls =>
      rw [Bridge.Call.act_eq rfl]
      simp only [bind_assoc, pure_bind]
      exact .bind hR (Bridge.requireInit_within hR _) fun _ =>
        .bind hR (resolveAs_within hR hreads participant _ _) fun p =>
          .bind hR (Registry.lookupType_within hR hreads cls) fun s =>
            ask_tells rfl fun reply => .bind hR (Gate.check_within hR _ _) fun _ =>
              Bridge.listRegisteredType_within hR hh (hany _) participant cls
  | typeName cls => exact .bind hR (Bridge.typeName_within hR hh cls) fun _ => .pure hR ()
  | cleanup proxy =>
      refine fun w => (cleanup_marks w proxy).tells fun event y hmoment => ?_
      obtain ⟨p, heard, gone, hstands, rfl⟩ := hmoment
      exact ⟨proxy, hsort, hstands⟩
  | write coding writer sample =>
      rw [Bridge.Call.act_eq rfl]
      simp only [bind_assoc, pure_bind]
      exact .bind hR (resolveAs_within hR hreads writer _ _) fun e =>
        .bind hR (Registry.topicTypeOf_within hR hreads writer) fun s =>
          .bind hR (Marshal.fromHost_within hR hreads .bridge s.type sample) fun v =>
            .bind hR (.ofExcept hR _) fun payload =>
              ask_tells rfl fun reply => Gate.check_within hR _ _
  | take coding reader =>
      rw [Bridge.Call.act_eq rfl]
      simp only [bind_assoc, pure_bind]
      exact .bind hR (resolveAs_within hR hreads reader _ _) fun e =>
        .bind hR (Registry.topicTypeOf_within hR hreads reader) fun s =>
          ask_tells rfl fun reply =>
            .bind hR (giveSample_tells hh coding s e _) fun _ => .pure hR ()
  | waitFor proxy mask limit =>
      rw [Bridge.Call.act_eq rfl]
      simp only [bind_assoc, pure_bind]
      exact .bind hR (resolve_within hR hreads proxy _) fun held =>
        ask_tells rfl (waitOn_tells _)
  | setCallback reader callback =>
      refine fun w => (setCallback_marks w reader callback).tells fun event y hmoment => ?_
      obtain ⟨r, heard, hstands, rfl, -⟩ := hmoment
      exact ⟨reader, callback, hsort, hstands⟩
  | clearCallback reader =>
      refine fun w => (clearCallback_marks w reader).tells fun event y hmoment => ?_
      obtain ⟨r, heard, hstands, rfl⟩ := hmoment
      exact ⟨reader, hsort, hstands⟩
  | dispatch wait => exact .bind hR (dispatch_tells hh hsort) fun _ => .pure hR ()

end Calls

/-! ## Activities -/

/-- What the bridge and its host do makes a story of what the calls bring about. -/
theorem Bridge.ActivityOf.tells (h : Bridge.ActivityOf P w w') : w.Tells P w' := by
  induction h with
  | host h => exact (tells_steady P).quiet h
  | discard w r => exact tells_discard (Relay.admits_comes P) w r
  | provider w isFile hroutine => exact tells_performed P w isFile hroutine
  | call _ _ _ _ hsort hends hcall hstr hset hinvoke =>
      exact call_tells ⟨hcall, hstr, fun obj {_} value _ => hset obj _ value, hinvoke⟩ hsort _ hends
  | trans _ _ ih ih' => exact ih.trans ih'

/-- Host code that does nothing but what is described here, and makes calls of a sort. -/
abbrev Bridge.ObeysOf (P : Bridge.Call → Prop) (inner : Host (Body C))
    (invoke : C → List Ref → MemoryAction C Ref) : Prop :=
  Nested AnyName (Bridge.ActivityOf P) inner invoke

/-- Host code that does nothing but what is described here. -/
abbrev Bridge.Obeys (inner : Host (Body C)) (invoke : C → List Ref → MemoryAction C Ref) : Prop :=
  Nested AnyName Bridge.Activity inner invoke

/-- The operations of the host, if the host code that they run makes calls of a sort. -/
theorem Bridge.ObeysOf.acts (hobeys : Bridge.ObeysOf P inner invoke) :
    (Memory.host inner invoke).Acts AnyName (World.Tells P) :=
  acts_of_nested ⟨fun _ _ w hends => (hobeys.call _ _ w hends).tells,
    fun _ w hends => (hobeys.strOf _ w hends).tells,
    fun _ _ _ hfree w hends => (hobeys.setAttr _ _ hfree w hends).tells,
    fun w code args hcode hends => (hobeys.invoke w code args hcode hends).tells⟩

/-- A call is an activity. -/
theorem Bridge.ActivityOf.ofCall (hobeys : Bridge.ObeysOf P inner invoke) {call : Bridge.Call}
    (hsort : P call) (hends : ((call.act (Memory.host inner invoke)).apply w).1 ≠ .error .endless) :
    Bridge.ActivityOf P w ((call.act (Memory.host inner invoke)).apply w).2 :=
  .call hobeys.call hobeys.strOf (fun obj _ value => hobeys.setAttr obj value trivial) hobeys.invoke
    hsort hends

end DdsBridge
