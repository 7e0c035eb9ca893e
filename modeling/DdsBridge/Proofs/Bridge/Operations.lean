import DdsBridge.Bridge.Callbacks
import DdsBridge.Bridge.Creation
import DdsBridge.Bridge.Samples
import DdsBridge.Proofs.Bridge.Gate
import DdsBridge.Proofs.Bridge.Holds
import DdsBridge.Proofs.Bridge.Within
import DdsBridge.Proofs.Provider.TypeNames

/-!
# What the operations of the bridge stay within

A relation that also allows for what the provider does on behalf of the bridge bounds the operations
of the bridge. The one place that needs care is the creation of an entity: between the provider's
answer and the object for the capsule nothing else happens.

* **`World.Turning`**, **`World.Lawful`**, **`World.Makes`** — relations that allow for the
  provider's part.
* **`Host.Seals`** — the host makes an object for a capsule without doing anything else.
* **`Action.Settles`** — an action that makes the capsule for an entity before anything else.
* **`Bridge.createParticipant_within`**, … — the operations of the bridge.
-/

namespace DdsBridge

open DdsBridge.Action (Within)
open Provider (Method State)

variable {B : Type} [ObjectBody B] {Plain : B → Prop} {Free : String → Prop}
variable {R : World B → World B → Prop} {h : Host B}

/-- The provider goes on, and the bridge keeps its topic types. -/
structure World.Passes {B : Type} (w w' : World B) : Prop extends w.Turns w' where
  goes : w.provider.Goes w'.provider
  registry : w'.bridge.registry = w.bridge.registry

/-- A relation to which it belongs that the provider goes on, and to which callbacks and
notifications do not matter. -/
structure World.Turning {B : Type} (R : World B → World B → Prop) : Prop where
  turn : ∀ {w w'}, w.Passes w' → R w w'
  noted : World.Noted R

/-- A relation to which it belongs that the provider goes on, that topic types are registered and
that a bridge is built. -/
structure World.Lawful {B : Type} (R : World B → World B → Prop) : Prop
    extends World.Turning R where
  register : ∀ (w : World B) registry, R w { w with bridge := { w.bridge with registry } }
  rebuild : ∀ {w w'}, w.Rebuilds w' → R w w'

/-- The provider goes on and makes a new entity of a capsule's kind, and the capsule is not an object
yet. -/
structure World.Adds {B : Type} (w : World B) (capsule : Capsule) (w' : World B) : Prop
    extends w.Owes capsule w' where
  goes : w.provider.Goes w'.provider
  kinded : w'.provider.Kinded capsule.handle capsule.kind

/-- A relation to which it belongs that a new entity gets its capsule. -/
def World.Makes {B : Type} [ObjectBody B] (R : World B → World B → Prop) : Prop :=
  ∀ (w w' : World B) (capsule : Capsule) (node : Node B), w.Adds capsule w' →
    ObjectBody.capsule? node.body = some capsule →
      R w { w' with heap := (w'.heap.alloc node).2 }

/-- The host makes an object for a capsule and does nothing else, or does not come to an end. -/
def Host.Seals {B : Type} [ObjectBody B] (h : Host B) : Prop :=
  ∀ capsule, h.newCapsule capsule = Action.never ∨
    ∃ body, ObjectBody.capsule? body = some capsule ∧ h.newCapsule capsule = Action.alloc body

/-- An action that makes the object for the capsule of an entity before it does anything else. -/
def Action.Settles {B ε α : Type} [ObjectBody B] (R : World B → World B → Prop) (kind : EntityKind)
    (e : Handle) (x : Action B ε α) : Prop :=
  ∀ w : World B, (x.apply w).1 ≠ .error .endless → ∃ body : B,
    ObjectBody.capsule? body = some ⟨kind, e, .bridge w.bridge.generation w.bridge.observed⟩ ∧
      R { w with heap := (w.heap.alloc ⟨.empty, body⟩).2 } (x.apply w).2

/-! ## Calls of the provider -/

omit [ObjectBody B] in
/-- The provider's next state changes neither the objects nor what was told. -/
theorem World.sameObjects_advance (w : World B) (s : State) :
    w.SameObjects (w.advance s) ∧ (w.advance s).bridge.generation = w.bridge.generation := by
  obtain ⟨_, _, _, _, heq⟩ := w.advance_eq s
  rw [heq]
  exact ⟨⟨rfl, rfl, rfl⟩, rfl⟩

omit [ObjectBody B] in
theorem World.advance_registry (w : World B) (s : State) :
    (w.advance s).bridge.registry = w.bridge.registry := by
  obtain ⟨_, _, _, _, heq⟩ := w.advance_eq s
  rw [heq]

omit [ObjectBody B] in
/-- The provider's next state is taken over with its entities and numbers. -/
theorem World.advance_provider (w : World B) (s : State) :
    (w.advance s).provider.entities = s.entities ∧ (w.advance s).provider.lastId = s.lastId := by
  obtain ⟨_, _, ended, _, heq⟩ := w.advance_eq s
  rw [heq]
  exact ⟨State.leaveAll_entities _ ended, State.leaveAll_lastId _ ended⟩

omit [ObjectBody B] in
theorem World.advance_calm (w : World B) (s : State) : s.Calm (w.advance s).provider :=
  .of_entities (w.advance_provider s).1 (Nat.le_of_eq (w.advance_provider s).2.symm)

omit [ObjectBody B] in
theorem World.advance_goes {w : World B} {s : State} (h : w.provider.Goes s) :
    w.provider.Goes (w.advance s).provider :=
  h.trans (w.advance_calm s).goes

omit [ObjectBody B] in
theorem World.passes_advance {w : World B} {s : State} (h : w.provider.Calm s) :
    w.Passes (w.advance s) where
  toSameObjects := (w.sameObjects_advance s).1
  generation := (w.sameObjects_advance s).2
  provider := (h.trans (w.advance_calm s)).toRests
  goes := (h.trans (w.advance_calm s)).goes
  registry := w.advance_registry s

omit [ObjectBody B] in
/-- The provider's next state, with a new entity. -/
theorem World.adds_advance {w : World B} {s : State} {kind : EntityKind} {e : Handle}
    (h : w.provider.Adds kind e s) (observed : Bool) :
    w.Adds ⟨kind, e, .bridge w.bridge.generation observed⟩ (w.advance s) := by
  obtain ⟨hentities, hlast⟩ := w.advance_provider s
  exact
    { toSameObjects := (w.sameObjects_advance s).1
      generation := (w.sameObjects_advance s).2
      owner := ⟨observed, rfl⟩
      provider := h.toGains.rests (w.advance_calm s).toRests (by rw [hentities])
      goes := h.goes.trans (w.advance_calm s).goes
      kinded := h.kinded.mono (.of_entities hentities (Nat.le_of_eq hlast.symm)) }

namespace Gate

variable {ε α : Type} (hR : World.Steady Plain Free R) (hL : World.Turning R)
include hR

theorem nextFault_within (method : Method) :
    Within R (nextFault method : Action B ε (Option ReturnCode)) := by
  refine .world fun w => ?_
  split
  · exact fun _ => hR.refl w
  · exact fun _ => hR.quiet (.beside rfl rfl rfl rfl rfl rfl rfl rfl rfl)

theorem check_within (operation : String) (code : ReturnCode) :
    Within R (check operation code : BridgeAction B Unit) := by
  unfold check
  split
  · exact .pure hR ()
  · exact .raise hR _

theorem expect_within (operation : String) (result : Except ReturnCode α) :
    Within R (expect operation result : BridgeAction B α) := by
  cases result with
  | ok a => exact .pure hR a
  | error code => exact .raise hR _

/-- A creation is refused, or the provider makes an entity, with which something is done. -/
theorem create_withinAt {w : World B} {method : Method} {op : State → Provider.Result Handle}
    {name : String} {f : Handle → BridgeAction B α} (hkeeps : w.provider.Keeps (op w.provider))
    (hrefused : R w (w.advance w.provider))
    (hmade : ∀ e s, op w.provider = (.ok e, s) → ((f e).apply (w.advance s)).1 ≠ .error .endless →
      R w ((f e).apply (w.advance s)).2) :
    Action.WithinAt R (do
      let result ← fetch method op
      let e ← expect name result
      f e) w := by
  unfold Action.WithinAt
  rw [Action.apply_bind, fetch_apply]
  cases takeFault method w.faults with
  | some fault => exact fun _ => hR.quiet (.beside rfl rfl rfl rfl rfl rfl rfl rfl rfl)
  | none =>
      rcases hs : op w.provider with ⟨code | e, s⟩
      · obtain rfl : s = w.provider := by simpa [hs] using hkeeps code (congrArg Prod.fst hs)
        exact fun _ => hrefused
      · exact hmade e s hs

include hL

theorem fetch_within {method : Method} {op : State → Provider.Result α}
    (hop : ∀ s : State, s.Calm (op s).2) :
    Within R (fetch method op : Action B ε (Except ReturnCode α)) := by
  refine .bind hR (nextFault_within hR method) fun fault => ?_
  cases fault with
  | some code => exact .pure hR _
  | none => exact .world fun w _ => hL.turn (World.passes_advance (hop w.provider))

theorem run_within {method : Method} {op : State → Provider.Result Unit}
    (hop : ∀ s : State, s.Calm (op s).2) :
    Within R (run method op : Action B ε ReturnCode) := by
  refine .bind hR (fetch_within hR hL hop) fun result => ?_
  cases result with
  | ok => exact .pure hR _
  | error code => exact .pure hR _

theorem perform_within {operation : Provider.Operation} (hcreates : operation.creates = false)
    (hgives : operation.givesBack = false) (isFile : String → Bool) :
    Within R (perform isFile operation : Action B ε Provider.Reply) := by
  have hgo : Within R (do
      let performed := (← Action.world).provider.perform isFile operation
      Action.change fun w => w.advance performed.2
      return performed.1 : Action B ε Provider.Reply) :=
    .world fun w _ =>
      hL.turn (World.passes_advance (State.perform_calm hcreates hgives isFile w.provider))
  unfold perform
  cases operation.method? with
  | none => exact hgo
  | some method =>
      refine .bind hR (nextFault_within hR method) fun fault => ?_
      cases fault with
      | none => exact hgo
      | some code => exact .pure hR _

theorem wait_within (waitSet : WaitSetId) (limit : Duration) :
    Within R (wait waitSet limit : Action B ε ReturnCode) := by
  refine .bind hR (nextFault_within hR _) fun fault => ?_
  cases fault with
  | some code => exact .pure hR _
  | none =>
      refine .world fun w => ?_
      refine Action.WithinAt.bind hR (fun _ => hL.turn (World.passes_advance
        (State.waitAlone_calm w.provider waitSet limit))) fun _ w _ => ?_
      split
      · exact fun _ => hR.refl w
      · exact fun hends => absurd rfl hends

/-- A creation: the provider's answer, and then the capsule for the new entity. -/
theorem create_within (hmakes : World.Makes R) {method : Method}
    {op : State → Provider.Result Handle} {kind : EntityKind} {name : String}
    {f : Handle → BridgeAction B α} (hop : ∀ s : State, s.Makes kind (op s))
    (hf : ∀ e, (f e).Settles R kind e) :
    Within R (do
      let result ← fetch method op
      let e ← expect name result
      f e) := by
  refine fun w => create_withinAt hR (hop w.provider).keeps
    (hL.turn (World.passes_advance (.refl w.provider))) ?_
  intro e s hs hends
  obtain ⟨body, hbody, hrest⟩ := hf e (w.advance s) hends
  rw [(w.sameObjects_advance s).2] at hbody
  exact hR.trans (hmakes w _ _ ⟨.empty, body⟩ (World.adds_advance ((hop _).adds hs) _) hbody) hrest

end Gate

/-! ## The capsule of a new entity -/

namespace Action.Settles

variable {ε α β : Type} {kind : EntityKind} {e : Handle}

/-- What follows once the capsule is made. -/
theorem bind (hR : World.Steady Plain Free R) {x : Action B ε α} {f : α → Action B ε β}
    (hx : x.Settles R kind e) (hf : ∀ a, Within R (f a)) : (x >>= f).Settles R kind e := by
  intro w
  have hw := hx w
  rw [apply_bind]
  rcases hrun : x.apply w with ⟨stop | a, w₁⟩ <;> rw [hrun] at hw
  · intro hends
    exact hw fun h => hends (by rw [Except.error.inj h])
  · intro hends
    obtain ⟨body, hbody, hmade⟩ := hw (by simp)
    exact ⟨body, hbody, hR.trans hmade (hf a w₁ hends)⟩

/-- The capsule for a new entity, and what is done with it. -/
theorem capsule (hseals : h.Seals) {f : Ref → BridgeAction B α}
    (hf : ∀ r, Within R (f r)) :
    (do
      let capsule ← Bridge.capsuleFor kind e
      let wrapped ← (h.newCapsule capsule : HostAction B Ref)
      f wrapped : BridgeAction B α).Settles R kind e := by
  intro w
  rw [Bridge.capsuleFor, bind_assoc, apply_bind_of_ok (apply_world w), pure_bind]
  rcases hseals ⟨kind, e, .bridge w.bridge.generation w.bridge.observed⟩ with
    hnever | ⟨body, hbody, halloc⟩
  · rw [hnever]
    exact fun hends => absurd rfl hends
  · rw [halloc]
    exact fun hends => ⟨body, hbody, hf _ _ hends⟩

end Action.Settles

namespace Bridge

section Operations

variable (hR : World.Steady Plain Free R) (hh : h.Acts Free R)
include hR

/-! ## Setting up -/

theorem requireInit_within (operation : String) :
    Within R (requireInit operation : BridgeAction B Unit) := by
  refine .world fun w => ?_
  show Action.WithinAt R (if w.bridge.initialized then pure () else Action.raise _) w
  split
  · exact fun _ => hR.refl w
  · exact fun _ => hR.refl w

theorem installTransport_within (hL : World.Turning R) (wanted : Bool) :
    Within R (installTransport wanted : BridgeAction B Unit) := by
  unfold installTransport
  split
  · refine .bind hR (Gate.run_within hR hL fun s => ?_) fun code => ?_
    · exact State.calm_after .installRtps rfl rfl s
    · split
      · exact .pure hR ()
      · exact .raise hR _
  · exact .pure hR ()

theorem init_within (hL : World.Turning R) (isFile : String → Bool) (options : InitOptions) :
    Within R (init isFile options : BridgeAction B Unit) := by
  have hinstalled : Within R (Action.change fun w : World B =>
      { w with bridge := { w.bridge with initialized := true } } : BridgeAction B Unit) :=
    .change fun w => hR.quiet (.beside rfl rfl rfl rfl rfl rfl rfl rfl rfl)
  refine .bind hR (.ofExcept hR _) fun args => ?_
  refine .bind hR (Gate.fetch_within hR hL fun s => ?_) fun result => ?_
  · exact State.perform_calm (show (Provider.Operation.init args).creates = false from rfl) rfl
      isFile s
  · refine .bind hR ?_ fun _ => .bind hR (installTransport_within hR hL _) fun _ => hinstalled
    cases result with
    | ok => exact .pure hR ()
    | error code => exact .raise hR _

include hh

theorem build_within (hL : World.Lawful R) (moduleName : String) (maxSamples : Nat)
    (observed : Bool) : Within R (build h moduleName maxSamples observed) :=
  .bind hR (.lift (createExceptions_within hR hh moduleName)) fun _ =>
    .change fun _ => hL.rebuild ⟨⟨rfl, rfl, rfl⟩, rfl, fun _ => rfl⟩

/-! ## Creating entities -/

section Creation

theorem restoreTopic_within (hname : Free Registry.topicAttr) (proxy : Ref) (previous : Option Ref) :
    Within R (restoreTopic h proxy previous) := by
  refine .bind hR (.attempt ?_) fun _ => .pure hR ()
  cases previous with
  | none => exact hh.delAttr proxy _
  | some topic => exact hh.setAttr proxy topic hname

theorem linkType_within (hname : Free Registry.typeAttr) (proxy : Ref) (typeName : String) :
    Within R (linkType h proxy typeName) := by
  refine .bind hR (.attempt (hh.getAttr proxy _)) fun found => ?_
  cases found with
  | ok => exact .pure hR ()
  | error error =>
      refine .world fun w => ?_
      split
      · exact fun _ => hR.refl w
      · exact Within.lift (hh.setAttr proxy _ hname) w

variable (hname : ∀ name, Free name)
include hname

variable (hseals : h.Seals)
include hseals

theorem bindEntity_settles (proxy : Ref) (kind : EntityKind) (e : Handle) :
    (bindEntity h proxy kind e).Settles R kind e := by
  have hstore : ∀ wrapped : Ref, Within R (do
      let store : HostAction B Unit := h.setAttr proxy Proxies.capsuleAttr wrapped
      Action.holding [wrapped] (store : BridgeAction B Unit)
      return () : BridgeAction B Unit) := fun wrapped =>
    .bind hR (.holding hR (.lift (hh.setAttr proxy wrapped (hname _)))) fun _ =>
      .pure hR ()
  have hsettles : Action.Settles R kind e _ := .capsule hseals hstore
  simpa only [bindEntity, Proxies.bind, bind_assoc, pure_bind] using hsettles

theorem bindEndpoint_settles (proxy : Ref) (kind : EntityKind) (e : Handle) (topic : Ref) :
    (bindEndpoint h proxy kind e topic).Settles R kind e := by
  refine .capsule hseals fun wrapped => ?_
  refine .bind hR (.attempt (hh.getAttr proxy _)) fun previous => ?_
  refine .holding hR (.bind hR (.lift (hh.setAttr proxy topic (hname _))) fun _ => ?_)
  refine .bind hR (.attempt (hh.setAttr proxy wrapped (hname _))) fun stored => ?_
  cases stored with
  | ok => exact .pure hR ()
  | error error =>
      exact .bind hR (restoreTopic_within hR hh (hname _) proxy _) fun _ =>
        .raise hR _

theorem createParticipant_within (hmakes : World.Makes R) (hL : World.Turning R) (proxy : Ref)
    (domain : DomainId) :
    Within R (createParticipant h proxy domain) :=
  .bind hR (requireInit_within hR _) fun _ =>
    Gate.create_within hR hL hmakes (fun s => s.createParticipant_makes ..)
      (bindEntity_settles hR hh hname hseals proxy .participant)

theorem createTopic_within (hmakes : World.Makes R) (hL : World.Turning R)
    (proxy participant : Ref) (name typeName : String) :
    Within R (createTopic h proxy participant name typeName) :=
  .bind hR (requireInit_within hR _) fun _ =>
    .bind hR (Proxies.resolveAs_within hR hh.toReads participant _ _) fun _ =>
      Gate.create_within hR hL hmakes (fun s => s.createTopic_makes ..) fun e =>
        (bindEntity_settles hR hh hname hseals proxy .topic e).bind hR fun _ =>
          linkType_within hR hh (hname _) proxy typeName

theorem createPublisher_within (hmakes : World.Makes R) (hL : World.Turning R)
    (proxy participant : Ref) :
    Within R (createPublisher h proxy participant) :=
  .bind hR (requireInit_within hR _) fun _ =>
    .bind hR (Proxies.resolveAs_within hR hh.toReads participant _ _) fun _ =>
      Gate.create_within hR hL hmakes (fun s => s.createPublisher_makes ..)
        (bindEntity_settles hR hh hname hseals proxy .publisher)

theorem createSubscriber_within (hmakes : World.Makes R) (hL : World.Turning R)
    (proxy participant : Ref) :
    Within R (createSubscriber h proxy participant) :=
  .bind hR (requireInit_within hR _) fun _ =>
    .bind hR (Proxies.resolveAs_within hR hh.toReads participant _ _) fun _ =>
      Gate.create_within hR hL hmakes (fun s => s.createSubscriber_makes ..)
        (bindEntity_settles hR hh hname hseals proxy .subscriber)

theorem createWriter_within (hmakes : World.Makes R) (hL : World.Turning R)
    (proxy publisher topic : Ref) (qos : Option Ref) :
    Within R (createWriter h proxy publisher topic qos) :=
  .bind hR (requireInit_within hR _) fun _ =>
    .bind hR (Proxies.resolveAs_within hR hh.toReads publisher _ _) fun _ =>
      .bind hR (Proxies.resolveAs_within hR hh.toReads topic _ _) fun _ =>
        .bind hR (Policies.endpointQos_within hR hh.toReads _ qos) fun _ =>
          Gate.create_within hR hL hmakes (fun s => s.createWriter_makes ..) fun e =>
            bindEndpoint_settles hR hh hname hseals proxy .writer e topic

theorem createReader_within (hmakes : World.Makes R) (hL : World.Turning R)
    (proxy subscriber topic : Ref) (qos : Option Ref) :
    Within R (createReader h proxy subscriber topic qos) :=
  .bind hR (requireInit_within hR _) fun _ =>
    .bind hR (Proxies.resolveAs_within hR hh.toReads subscriber _ _) fun _ =>
      .bind hR (Proxies.resolveAs_within hR hh.toReads topic _ _) fun _ =>
        .bind hR (Policies.endpointQos_within hR hh.toReads _ qos) fun _ =>
          Gate.create_within hR hL hmakes (fun s => s.createReader_makes ..) fun e =>
            bindEndpoint_settles hR hh hname hseals proxy .reader e topic

end Creation

/-! ## Types and clean-up -/

theorem listRegisteredType_within (hname : Free registeredTypesAttr) (participant cls : Ref) :
    Within R (listRegisteredType h participant cls) := by
  have hlist : ∀ items, Within R (do
      let list ← (h.newList items : HostAction B Ref)
      h.setAttr participant registeredTypesAttr list : BridgeAction B Unit) := fun items =>
    .bind hR (.lift (hh.newList items)) fun list => .lift (hh.setAttr participant list hname)
  refine .bind hR (.attempt (hh.getAttr participant _)) fun listed => ?_
  cases listed with
  | ok listed =>
      refine .bind hR (.lift (hh.listItems listed)) fun items => ?_
      split
      · exact hlist _
      · exact .pure hR ()
  | error error =>
      dsimp only
      split
      · exact hlist _
      · exact .raise hR _

theorem registerType_within (hL : World.Turning R) (hname : Free registeredTypesAttr)
    (participant cls : Ref) : Within R (registerType h participant cls) :=
  .bind hR (requireInit_within hR _) fun _ =>
    .bind hR (Proxies.resolveAs_within hR hh.toReads participant _ _) fun _ =>
      .bind hR (Registry.lookupType_within hR hh.toReads cls) fun _ =>
        .bind hR (Gate.run_within hR hL fun s => s.registerType_calm ..)
          fun code =>
            .bind hR (Gate.check_within hR _ code) fun _ =>
              listRegisteredType_within hR hh hname participant cls

theorem typeName_within (cls : Ref) : Within R (typeName h cls) :=
  .bind hR (Registry.lookupType_within hR hh.toReads cls) fun _ =>
    .pure hR _

omit hh in
theorem pruneCallbacks_lawful (hN : World.Noted R) (w : World B) : R w (pruneCallbacks w) :=
  hR.trans (hN w _ w.bridge.pending) (hR.collect _)

omit hh in
theorem setCallback_lawful (hN : World.Noted R) (w : World B) (reader : Handle)
    (registration : Registration) : R w (World.setCallback w reader registration) :=
  hR.trans (hN w _ w.bridge.pending) (hR.collect _)

omit hh in
theorem dropCallback_lawful (hN : World.Noted R) (w : World B) (reader : Handle) :
    R w (World.dropCallback w reader) :=
  hR.trans (hN w _ w.bridge.pending) (hR.collect _)

theorem cleanup_within (hL : World.Turning R) (proxy : Ref) : Within R (cleanup h proxy) :=
  .bind hR (Proxies.resolveAs_within hR hh.toReads proxy _ _) fun _ =>
    .bind hR (Gate.run_within hR hL fun s => s.deleteContained_calm ..)
      fun code =>
        .bind hR (Gate.check_within hR _ code) fun _ =>
          .change fun w => pruneCallbacks_lawful hR hL.noted w

/-! ## Callbacks -/

theorem setCallback_within (hL : World.Turning R) (reader callback : Ref) :
    Within R (setCallback h reader callback) :=
  .bind hR (Proxies.resolveAs_within hR hh.toReads reader _ _) fun _ =>
    .bind hR (.lift (hh.checkWeak reader)) fun _ =>
      .bind hR (Gate.run_within hR hL fun s => s.setListener_calm ..)
        fun code =>
          .bind hR (Gate.check_within hR _ code) fun _ =>
            .change fun w => setCallback_lawful hR hL.noted w _ _

theorem clearCallback_within (hL : World.Turning R) (reader : Ref) :
    Within R (clearCallback h reader) :=
  .bind hR (Proxies.resolveAs_within hR hh.toReads reader _ _) fun _ =>
    .bind hR (Gate.run_within hR hL fun s => s.setListener_calm ..)
      fun code =>
        .bind hR (Gate.check_within hR _ code) fun _ =>
          .change fun w => dropCallback_lawful hR hL.noted w _

omit hh in
theorem nextNotification_within (hN : World.Noted R) {ε : Type} :
    Within R (nextNotification : Action B ε (Option Notification)) := by
  refine .world fun w => ?_
  split
  · exact fun _ => hR.refl w
  · exact fun _ => hN w w.bridge.callbacks _

theorem consume_within (hN : World.Noted R) (notification : Notification) :
    Within R (consume h notification) := by
  refine .world fun w => ?_
  split
  · exact fun _ => hR.refl w
  · rename_i registration _
    split
    · refine Within.holding hR (.bind hR ?_ fun _ => .pure hR _) w
      exact .bind hR (.change fun _ => hR.quiet (.beside rfl rfl rfl rfl rfl rfl rfl rfl rfl))
        fun _ => hh.call _ _
    · exact fun _ => dropCallback_lawful hR hN w _

theorem drain_within (hN : World.Noted R) (limit ran : Nat) :
    Within R (drain h limit ran) := by
  induction limit generalizing ran with
  | zero => exact .never
  | succ limit ih =>
      refine .bind hR (nextNotification_within hR hN) fun notification => ?_
      cases notification with
      | none => exact .pure hR ran
      | some notification =>
          exact .bind hR (consume_within hR hh hN notification) fun _ => ih _

theorem dispatch_within (hN : World.Noted R) (wait : Bool) : Within R (dispatch h wait) := by
  refine .world fun w => ?_
  refine Within.ite_bind hR ?_ (fun _ => .lift (drain_within hR hh hN _ _)) w
  exact .bind hR (.change fun _ => hR.quiet (.beside rfl rfl rfl rfl rfl rfl rfl rfl rfl)) fun _ =>
    .pure hR _

/-! ## Samples and waits -/

omit hh in
theorem writeSample_within (hL : World.Turning R) (hh : h.Reads R) (coding : SampleCoding)
    (s : StructType) (writer : Handle) (sample : Ref) :
    Within R (writeSample h coding s writer sample) :=
  .bind hR (Marshal.fromHost_within hR hh .bridge s.type sample) fun _ =>
    .bind hR (.ofExcept hR _) fun _ =>
      .bind hR (Gate.run_within hR hL fun s => s.write_calm ..)
        (Gate.check_within hR _)

theorem write_within (hL : World.Turning R) (coding : SampleCoding) (writer sample : Ref) :
    Within R (write h coding writer sample) :=
  .bind hR (Proxies.resolveAs_within hR hh.toReads writer _ _) fun _ =>
    .bind hR (Registry.topicTypeOf_within hR hh.toReads writer) fun _ =>
      writeSample_within hR hL hh.toReads coding _ _ sample

theorem takeSample_within (hL : World.Turning R) (coding : SampleCoding) {s : StructType}
    (hfree : s.type.NamesFree Free) (reader : Handle) :
    Within R (takeSample h coding s reader) := by
  refine .bind hR (Gate.fetch_within hR hL fun state => state.take_calm reader)
    fun result => ?_
  split
  · exact .raise hR _
  · exact .raise hR _
  · split
    · split
      · exact Marshal.toHost_within hR hh .bridge s.type _ hfree
      · exact .raise hR _
    · exact .pure hR _

/-- A sample is taken as an object of a registered type, of which the relation asks nothing unless
its attributes have free names. -/
theorem take_within (hL : World.Turning R) (hwild : ∀ w w' : World B, ¬w.TypesFree Free → R w w')
    (coding : SampleCoding) (reader : Ref) : Within R (take h coding reader) := by
  refine .bind hR (Proxies.resolveAs_within hR hh.toReads reader _ _) fun _ => ?_
  refine fun w => .bind hR (Registry.topicTypeOf_within hR hh.toReads reader w) fun s w₁ hs => ?_
  by_cases hfree : w₁.TypesFree Free
  · obtain ⟨cls, hcls⟩ := Registry.topicTypeOf_registered hs
    exact takeSample_within hR hh hL coding (hfree cls s hcls) _ w₁
  · exact fun _ => hwild w₁ _ hfree

omit hh in
theorem attachCondition_within (hL : World.Turning R) (entity : Handle) (mask : StatusMask) :
    Within R (attachCondition entity mask : BridgeAction B (WaitSetId × ConditionId)) := by
  refine .bind hR (Gate.fetch_within hR hL fun s => s.statusCondition_calm ..)
    fun result => ?_
  refine .bind hR (Gate.expect_within hR _ result) fun condition => ?_
  refine .bind hR (Gate.run_within hR hL fun s => s.setEnabled_calm ..)
    fun code => ?_
  refine .bind hR (Gate.check_within hR _ code) fun _ => .world fun w => ?_
  refine Action.WithinAt.bind hR (fun _ => hL.turn (World.passes_advance
    (State.createWaitSet_calm w.provider))) fun _ w₁ _ => ?_
  refine Within.bind hR (Gate.run_within hR hL fun s => s.attach_calm ..)
    (fun code => ?_) w₁
  have hdone : Within R (do
      Gate.check "attach_condition" code
      return (w.provider.createWaitSet.1, condition) :
        BridgeAction B (WaitSetId × ConditionId)) :=
    .bind hR (Gate.check_within hR _ code) fun _ => .pure hR _
  dsimp only
  split
  · exact .bind hR (Gate.run_within hR hL fun s => s.deleteWaitSet_calm ..)
      fun _ => hdone
  · exact hdone

omit hh in
theorem detachCondition_within (hL : World.Turning R) (waitSet : WaitSetId)
    (condition : ConditionId) : Within R (detachCondition waitSet condition : BridgeAction B Unit) :=
  .bind hR (Gate.run_within hR hL fun s => s.detach_calm ..) fun _ =>
    .bind hR (Gate.run_within hR hL fun s => s.deleteWaitSet_calm ..) fun _ =>
      .pure hR ()

theorem waitFor_within (hL : World.Turning R) (proxy : Ref) (mask : StatusMask) (limit : Duration) :
    Within R (waitFor h proxy mask limit) := by
  refine .bind hR (Proxies.resolve_within hR hh.toReads proxy _) fun held => ?_
  refine .bind hR (attachCondition_within hR hL held.2 mask) fun attached => ?_
  have hwait : Within R (unlocked (Gate.wait attached.1 limit) : BridgeAction B ReturnCode) :=
    .bind hR (.change fun _ => hR.quiet (.beside rfl rfl rfl rfl rfl rfl rfl rfl rfl)) fun _ =>
      Gate.wait_within hR hL attached.1 limit
  refine .bind hR hwait fun code => ?_
  refine .bind hR (detachCondition_within hR hL attached.1 attached.2) fun _ => ?_
  split
  · exact .pure hR ()
  · exact .raise hR _
  · exact .raise hR _

end Operations

end Bridge

end DdsBridge
