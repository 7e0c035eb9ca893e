import DdsBridge.Proofs.Bridge.Account
import DdsBridge.Proofs.Bridge.Binding
import DdsBridge.Proofs.Bridge.Policies
import DdsBridge.Proofs.Host.Memory.Assignment
import DdsBridge.Proofs.Provider.Coherence

/-!
# Creating a reader or a writer

A reader or writer proxy gets its capsule and the link to its topic proxy together or not at all. The
link is assigned first. If the proxy refuses it, or takes it and then refuses the capsule, the
look-ups on the proxy are as they were before, and the new entity, which nobody holds any more, was
given back once.

Everything that can fail before that leaves the proxy alone. Only the failure to read a quality of
service can run host code, which can do anything to the proxy.

* **`Bridge.EndpointCreation`** — what such a creation is about.
* **`EndpointCreation.Bound`**, **`EndpointCreation.Undone`** — how it ends.
* **`linkEndpoint_cases`**, **`bindEndpoint_cases`** — the two assignments, and the capsule that is
  let go.
* **`Bridge.endpoint_bound_or_undone`** — it always ends in one of the two ways.
* **`Bridge.text_moves_topic`** — a number whose text changes the proxy.
-/

namespace DdsBridge

open Memory Proxies Registry

/-- What the creation of a reader or writer is about: the proxy for the new entity, the kind of the
entity, the proxies of its subscriber or publisher and of its topic, and the quality of service. -/
structure Bridge.EndpointCreation where
  proxy : Ref
  kind : EntityKind
  parent : Ref
  topic : Ref
  qos : Option Ref

/-- The creations of readers and writers. -/
def Bridge.Call.endpoint? : Call → Option EndpointCreation
  | .createWriter proxy publisher topic qos => some ⟨proxy, .writer, publisher, topic, qos⟩
  | .createReader proxy subscriber topic qos => some ⟨proxy, .reader, subscriber, topic, qos⟩
  | _ => none

/-- What is not there yet is not known: nothing refers to the object that is made next, and no capsule
is a hold on an entity that is created later. -/
structure World.Unforeseen {B : Type} [ObjectBody B] (w : World B) : Prop where
  permanent_le : w.permanent ≤ w.heap.size
  object : (⟨w.heap.size⟩ : Ref) ∉ w.references
  entity : ∀ {k r}, w.Holds k r → k.generation = w.bridge.generation →
    k.entity.id ≤ w.provider.lastId

/-- Where the books balance, it is enough that nothing refers to the object that is made next. -/
theorem World.Balanced.unforeseen {B : Type} [ObjectBody B] {w : World B} {deals : List Deal}
    (h : w.Balanced deals) (hobject : (⟨w.heap.size⟩ : Ref) ∉ w.references) : w.Unforeseen where
  permanent_le := h.permanent_le
  object := hobject
  entity := fun {k r} hk hgeneration => by
    obtain ⟨deal, hdeal, htakes⟩ := h.taken ⟨r, hk⟩
    rcases h.known hdeal htakes with hearlier | ⟨-, hle⟩
    · omega
    · exact hle

namespace Bridge.EndpointCreation

variable {C : Type} {w w' : World (Body C)}

/-- The proxy is linked to the topic proxy, and its capsule is the hold on a new live entity. -/
structure Bound (creation : EndpointCreation) (w w' : World (Body C)) : Prop where
  topic : lookup w' creation.proxy topicAttr = some creation.topic
  capsule : ∃ wrapped e record, lookup w' creation.proxy capsuleAttr = some wrapped ∧
    body? w' wrapped = some
      (.capsule ⟨creation.kind, e, .bridge w.bridge.generation w.bridge.observed⟩) ∧
    w.provider.lastId < e.id ∧ w'.provider.entities.get? e = some record ∧
    record.kind = creation.kind ∧ record.refs = 1

variable [HostCode C]

/-- Every look-up on the proxy finds what it found before, and the capsule that the proxy had is still
there. Whatever entity came was taken hold of, and whatever was taken hold of was given up. -/
structure Undone (creation : EndpointCreation) (w w' : World (Body C)) : Prop where
  lookup_eq : ∀ name, lookup w' creation.proxy name = lookup w creation.proxy name
  capsule : ∀ wrapped body, lookup w creation.proxy capsuleAttr = some wrapped →
    body? w wrapped = some body → body? w' wrapped = some body
  returned : ∃ deals, w.Trail deals w' ∧ w'.releases = w.releases ++ deals.flatMap Deal.note ∧
    (∀ e record, w'.provider.entities.get? e = some record →
      (∃ before, w.provider.entities.get? e = some before) ∨
        ∃ deal ∈ deals, deal.takes ⟨w'.bridge.generation, e⟩ = true) ∧
    ∀ k deal, deal ∈ deals → deal.takes k = true → w'.GivenUp deals k

/-- How a creation ends: the proxy is bound, or the creation fails and nothing is left of it. -/
inductive Ends (creation : EndpointCreation) (w : World (Body C)) :
    Except (Stop Error) Unit × World (Body C) → Prop where
  | bound {w' : World (Body C)} : creation.Bound w w' → Ends creation w (.ok (), w')
  | undone {error : Error} {w' : World (Body C)} :
    creation.Undone w w' → Ends creation w (.error (.raised error), w')

end Bridge.EndpointCreation

variable {C : Type} [HostCode C] {inner : Host (Body C)} {invoke : C → List Ref → MemoryAction C Ref}
variable {refuses : String → Option HostError} {P : Ref → Prop} {w w' : World (Body C)}
variable {proxy parent topic : Ref} {kind : EntityKind}

/-! ## Before the entity is bound -/

/-- Capsules went, and nothing happened to the objects of a set. -/
structure World.Aside {B : Type} [ObjectBody B] (P : Ref → Prop) (w w' : World B) : Prop where
  sheds : w.Sheds w'
  upholds : w.Supported P → w.Upholds P World.NoChange w'

omit [HostCode C] in
theorem World.Aside.refl {B : Type} [ObjectBody B] (w : World B) : w.Aside P w :=
  ⟨World.sheds_steady.refl w, fun _ => .refl w⟩

/-- A proxy that is not of the set was looked up, and may have lost a stale capsule. -/
theorem World.Aside.of_lookUp (hparent : ¬P parent) (h : w' = w ∨ Loses parent w w') :
    w.Aside P w' := by
  rcases h with rfl | hloses
  · exact .refl w'
  · refine ⟨?_, fun hs => hloses.upholds hs hparent⟩
    rcases hloses with rfl | ⟨-, rfl⟩
    · exact World.sheds_steady.removeAttr w parent capsuleAttr
    · exact World.sheds_steady.refl w'

namespace Gate

omit [HostCode C] in
/-- The provider makes an entity, or refuses to, or a fault is in store; without an entity nothing
happened but that. -/
theorem create_cases {B : Type} [ObjectBody B] {α : Type} {w : World B} {method : Provider.Method}
    {op : Provider.State → Provider.Result Handle} {name : String}
    {f : Handle → BridgeAction B α} {K : Except (Stop Error) α × World B → Prop}
    (hkeeps : w.provider.Keeps (op w.provider))
    (hfails : ∀ error w₁, w.Aside P w₁ → K (.error (.raised error), w₁))
    (hmade : ∀ e s, op w.provider = (.ok e, s) → K ((f e).apply (w.advance s))) :
    K ((do
      let result ← fetch method op
      let e ← expect name result
      f e : BridgeAction B α).apply w) := by
  rw [Action.apply_bind, fetch_apply]
  cases takeFault method w.faults with
  | some fault =>
      have hfault : w.Aside P { w with faults := fault.2 } :=
        ⟨World.sheds_steady.quiet (.beside rfl rfl rfl rfl rfl rfl rfl rfl rfl),
          fun _ => .beside rfl rfl rfl rfl rfl⟩
      exact hfails _ _ hfault
  | none =>
      rcases hs : op w.provider with ⟨code | e, s⟩
      · obtain rfl : s = w.provider := by simpa [hs] using hkeeps code (congrArg Prod.fst hs)
        have hturn : w.Aside P (w.advance w.provider) :=
          ⟨.turn (World.passes_advance (.refl w.provider)).toTurns, fun _ => .advance w _⟩
        exact hfails _ _ hturn
      · exact hmade e s hs

end Gate

namespace Bridge

/-- A creation of a reader or writer, with the provider's operation as a parameter. -/
theorem createEndpoint_cases {operation role : String} {parentKind : EntityKind}
    {default : EndpointQos} {method : Provider.Method} {qos : Option Ref}
    (op : Handle → Handle → EndpointQos → Provider.State → Provider.Result Handle)
    {K : Except (Stop Error) Unit × World (Body C) → Prop}
    (hparent : ¬P parent) (htopic : ¬P topic) (hlegible : ∀ obj ∈ qos, Policies.Legible w obj)
    (hop : ∀ g t qos (s : Provider.State), s.Makes kind (op g t qos s))
    (hfails : ∀ error w₁, w.Aside P w₁ → K (.error (.raised error), w₁))
    (hmade : ∀ e s, w.provider.Adds kind e s → topic.id < w.heap.size →
      K ((bindEndpoint (host inner invoke) proxy kind e topic).apply (w.advance s))) :
    K ((do
      requireInit operation
      let g ← resolveAs (host inner invoke) parent parentKind role
      let t ← resolveAs (host inner invoke) topic .topic "topic"
      let asked ← Policies.endpointQos (host inner invoke) default qos
      let result ← Gate.fetch method fun s => op g t asked s
      let e ← Gate.expect operation result
      bindEndpoint (host inner invoke) proxy kind e topic :
        BridgeAction (Body C) Unit).apply w) := by
  have hready : (requireInit operation : BridgeAction (Body C) Unit).TestsAt Eq w := by
    refine .bind (.of_ok (a := w.bridge.initialized) rfl) fun _ _ => ?_
    split
    · exact .of_ok rfl
    · exact .of_error rfl
  refine (hready.mono fun h => h ▸ .refl w).followed (fun _ _ => ?_) hfails
  refine ((resolveAs_tests parentKind role).mono (.of_lookUp hparent)).followed (fun g _ => ?_)
    hfails
  refine ((resolveAs_tests .topic "topic").mono (.of_lookUp htopic)).followed (fun t ht => ?_)
    hfails
  have hthere : topic.id < w.heap.size := by
    obtain ⟨wrapped, hwrapped, -⟩ := (resolveAs_eq_ok_iff.mp ht).2
    exact lt_size_of_lookup hwrapped (by decide)
  refine ((Policies.endpointQos_tests default qos hlegible).mono fun h => h ▸ .refl w).followed
    (fun asked _ => ?_) hfails
  have hmakes := hop g t asked
  exact Gate.create_cases (hmakes _).keeps hfails fun e s hs => hmade e s ((hmakes _).adds hs) hthere

/-! ## The two assignments -/

omit [HostCode C] in
/-- The assignments on the proxy of a new reader or writer, and what follows if the second one is
refused. -/
def linkEndpoint {B : Type} (h : Host B) (proxy topic wrapped : Ref) (previous : Option Ref) :
    BridgeAction B Unit := do
  h.setAttr proxy topicAttr topic
  let store : HostAction B Unit := h.setAttr proxy capsuleAttr wrapped
  match ← store.attempt with
  | .ok () => return
  | .error error =>
    restoreTopic h proxy previous
    Action.raise (.host error)

/-- The capsule of a new entity of the bridge. -/
def newHold (w : World (Body C)) (kind : EntityKind) (e : Handle) : Capsule :=
  ⟨kind, e, .bridge w.bridge.generation w.bridge.observed⟩

/-- The world with the object for this capsule, which nothing refers to. -/
def withCapsule (w : World (Body C)) (kind : EntityKind) (e : Handle) : World (Body C) :=
  { w with heap := (w.heap.alloc ⟨.empty, .capsule (newHold w kind e)⟩).2 }

/-- The world in which this capsule and the link that the proxy had are held. -/
def holdingCapsule (w : World (Body C)) (kind : EntityKind) (e : Handle) (previous : Option Ref) :
    World (Body C) :=
  { withCapsule w kind e with pinned := (⟨w.heap.size⟩ :: previous.toList) ++ w.pinned }

/-- The capsule is made first, and let go of last. -/
theorem bindEndpoint_apply {proxy topic : Ref} {kind : EntityKind} {e : Handle}
    {previous : Option Ref} {result : Except (Stop Error) Unit} {w w₁ : World (Body C)}
    (hprevious : previous = lookup (withCapsule w kind e) proxy topicAttr)
    (hlink : (linkEndpoint (host inner invoke) proxy topic ⟨w.heap.size⟩ previous).apply
      (holdingCapsule w kind e previous) = (result, w₁)) :
    (bindEndpoint (host inner invoke) proxy kind e topic).apply w =
      (result, World.collectAll { w₁ with pinned := w.pinned }) := by
  have hfor : (capsuleFor kind e : BridgeAction (Body C) Capsule).apply w =
      (.ok (newHold w kind e), w) := rfl
  have hnew : (liftM ((host inner invoke).newCapsule (newHold w kind e)) :
      BridgeAction (Body C) Ref).apply w = (.ok ⟨w.heap.size⟩, withCapsule w kind e) := rfl
  have hbind : (bindEndpoint (host inner invoke) proxy kind e topic).apply w = _ :=
    (Action.apply_bind_of_ok hfor).trans (Action.apply_bind_of_ok hnew)
  -- the old link is read before anything is stored, and may be missing
  have hread : ∃ found, (((host inner invoke).getAttr proxy topicAttr).attempt :
      BridgeAction (Body C) _).apply (withCapsule w kind e) = (.ok found, withCapsule w kind e) ∧
        found.toOption = previous := by
    rw [hprevious]
    cases hfound : lookup (withCapsule w kind e) proxy topicAttr with
    | some previous => exact ⟨_, getAttr_attempt_of_found hfound, rfl⟩
    | none => exact ⟨_, getAttr_attempt_of_missing hfound, rfl⟩
  obtain ⟨found, hget, rfl⟩ := hread
  have hheld : (bindEndpoint (host inner invoke) proxy kind e topic).apply w =
      (Action.holding (⟨w.heap.size⟩ :: found.toOption.toList)
        (linkEndpoint (host inner invoke) proxy topic ⟨w.heap.size⟩ found.toOption)).apply
          (withCapsule w kind e) := by
    rw [hbind, Action.apply_bind_of_ok hget]
    rfl
  rw [hheld, Action.holding, Action.apply_andThen, Action.apply_pinning]
  exact congrArg (fun out => (out.1, World.collectAll { out.2 with pinned := w.pinned })) hlink

/-- What is steady sees nothing in the capsule being held and let go of. -/
theorem steadily_of_holding {e : Handle} {previous : Option Ref} {w₁ : World (Body C)}
    (h : (holdingCapsule w kind e previous).Steadily w₁) :
    (withCapsule w kind e).Steadily (World.collectAll { w₁ with pinned := w.pinned }) := by
  intro R hR
  refine hR.trans (hR.handling (withCapsule w kind e) _ _ _) (hR.trans (h R hR) ?_)
  exact hR.trans (hR.handling w₁ _ _ _) (hR.collectAll _)

/-- While the capsule is held, it is one of the objects that stay. -/
theorem poised_holding (hp : Poised inner refuses P proxy w) (e : Handle) (previous : Option Ref) :
    Poised inner refuses (fun r => P r ∨ r = ⟨w.heap.size⟩) proxy
      (holdingCapsule w kind e previous) := by
  have hmade : w.Upholds P World.NoChange (withCapsule w kind e) := hp.supported.alloc _
  have hp₀ : Poised inner refuses P proxy (withCapsule w kind e) := hp.upheld hmade fun _ _ => id
  have hp' := Creation.poised_pinning hp₀ (⟨w.heap.size⟩ :: previous.toList)
  refine ⟨⟨?_, ?_⟩, fun x hx => .inl (hp'.footing x hx), hp'.guarded⟩
  · rintro r (hr | rfl)
    · exact hp'.supported.there hr
    · exact ⟨_, congrArg (Option.map Node.body)
        (Heap.get?_alloc_self w.heap ⟨.empty, .capsule (newHold w kind e)⟩)⟩
  · rintro r (hr | rfl)
    · exact (hp'.supported.held hr).imp_right fun h => h.imp_right fun h => h.imp_right
        fun ⟨holder, body, hholder, hrest⟩ => ⟨holder, body, .inl hholder, hrest⟩
    · exact .inr (.inl List.mem_cons_self)

/-- A proxy that took a link takes back the link that it had before, or none. -/
theorem restoreTopic_apply (hp : Poised inner refuses P proxy w)
    (haccepts : Accepts refuses w proxy topicAttr) (hown : w.attrAt proxy topicAttr = some topic)
    (previous : Option Ref) :
    ∃ w', (restoreTopic (host inner invoke) proxy previous).apply w = (.ok (), w') ∧
      w.Upholds P (Only proxy topicAttr) w' ∧ w'.attrAt proxy topicAttr = previous ∧
      w.Steadily w' ∧ ∀ {x}, previous ≠ some x → w.Unnamed x → w'.Unnamed x := by
  cases previous with
  | some before =>
      obtain ⟨w', hok, hstored⟩ := setAttr_of_accepts hp before haccepts
      refine ⟨w', ?_, hstored.upholds, hstored.attr, hstored.steadily,
        fun hne => hstored.unnamed fun h => hne (congrArg some h.symm)⟩
      exact Action.apply_bind_of_ok (Action.apply_attempt_of_ok hok)
  | none =>
      have hdel : ((host inner invoke).delAttr proxy topicAttr).apply w =
          (.ok (), w.removeAttr proxy topicAttr) := by
        show (delAttr proxy topicAttr : MemoryAction C Unit).apply w = _
        rw [delAttr, Action.apply_bind_of_ok (Action.apply_world w),
          show ownAttr? w proxy topicAttr = some topic from hown]
        rfl
      refine ⟨w.removeAttr proxy topicAttr, ?_, hp.supported.removeAttr fun _ => ⟨rfl, rfl⟩,
        w.removeAttr_attrAt proxy topicAttr, fun _ hR => hR.removeAttr w proxy topicAttr,
        fun _ hx => hx.removeAttr proxy topicAttr⟩
      exact Action.apply_bind_of_ok (Action.apply_attempt_of_ok hdel)

/-- Either both assignments are accepted, or what was assigned is taken back. -/
theorem linkEndpoint_cases (hp : Poised inner refuses P proxy w) (topic wrapped : Ref) :
    (∃ w', (linkEndpoint (host inner invoke) proxy topic wrapped (lookup w proxy topicAttr)).apply w =
        (.ok (), w') ∧
      w.Upholds P (fun r name => Only proxy topicAttr r name ∨ Only proxy capsuleAttr r name) w' ∧
      w'.attrAt proxy topicAttr = some topic ∧ w'.attrAt proxy capsuleAttr = some wrapped ∧
      w.Steadily w') ∨
    ∃ error w', (linkEndpoint (host inner invoke) proxy topic wrapped
        (lookup w proxy topicAttr)).apply w = (.error (.raised error), w') ∧
      w.Upholds P (Only proxy topicAttr) w' ∧
      (∀ name, lookup w' proxy name = lookup w proxy name) ∧ w.Steadily w' ∧
      ∀ {x}, x ≠ topic → lookup w proxy topicAttr ≠ some x → w.Unnamed x → w'.Unnamed x := by
  have hproxy : P proxy := hp.footing proxy (.inl rfl)
  by_cases haccepts : Accepts refuses w proxy topicAttr
  · obtain ⟨w₁, hok, hlinked⟩ := setAttr_of_accepts hp topic haccepts
    have hkept : ∀ c, P c → ¬Only proxy topicAttr c "__setattr__" := fun _ _ =>
      not_only (by decide)
    have hp₁ := hp.upheld hlinked.upholds hkept
    have hrun : (linkEndpoint (host inner invoke) proxy topic wrapped
        (lookup w proxy topicAttr)).apply w = _ :=
      Action.apply_bind_of_ok (Action.apply_lift_of_ok hok)
    by_cases haccepts' : Accepts refuses w₁ proxy capsuleAttr
    · -- the proxy takes the capsule, too
      obtain ⟨w', hok', hbound⟩ := setAttr_of_accepts hp₁ wrapped haccepts'
      refine .inl ⟨w', ?_, ?_, ?_, hbound.attr, hlinked.steadily.trans hbound.steadily⟩
      · exact hrun.trans (Action.apply_bind_of_ok (Action.apply_attempt_of_ok hok'))
      · exact (hlinked.upholds.mono .inl).trans (hbound.upholds.mono .inr)
      · exact (hbound.upholds.attr hproxy (not_only (by decide))).trans hlinked.attr
    · -- it refuses the capsule, and takes back the link that it had
      obtain ⟨error, w₂, hfails, hidle⟩ := setAttr_of_not_accepts hp₁ wrapped haccepts'
      have hp₂ := hp₁.upheld hidle.upholds fun _ _ => id
      have haccepts₂ : Accepts refuses w₂ proxy topicAttr :=
        (accepts_of_upheld hidle.upholds hp₁.footing fun _ _ => id).mpr
          ((accepts_of_upheld hlinked.upholds hp.footing hkept).mpr haccepts)
      have hown₂ : w₂.attrAt proxy topicAttr = some topic :=
        (hidle.upholds.attr hproxy id).trans hlinked.attr
      obtain ⟨w', hrestored, hupholds, hback, hsteadily, hunnamed⟩ :=
        restoreTopic_apply hp₂ haccepts₂ hown₂ (lookup w proxy topicAttr)
      have hall : w.Upholds P (Only proxy topicAttr) w' :=
        hlinked.upholds.trans (hidle.upholds.of_noChange.trans hupholds)
      refine .inr ⟨.host error, w', ?_, hall, lookup_restored hall hp.footing hback,
        hlinked.steadily.trans (hidle.steadily.trans hsteadily), fun hne hprevious hx =>
          hunnamed hprevious (hidle.unnamed (hlinked.unnamed hne hx))⟩
      exact hrun.trans ((Action.apply_bind_of_ok (Action.apply_attempt_of_error hfails)).trans
        (Action.apply_bind_of_ok hrestored))
  · obtain ⟨error, w', hfails, hidle⟩ := setAttr_of_not_accepts hp topic haccepts
    refine .inr ⟨.host error, w', ?_, hidle.upholds.of_noChange, fun name => ?_, hidle.steadily,
      fun _ _ => hidle.unnamed⟩
    · exact Action.apply_bind_of_error (Action.apply_lift_of_error hfails)
    · exact lookup_of_upheld hidle.upholds hp.footing fun _ _ => id

variable (invoke) in
/-- The capsule goes to the proxy, or it goes at once and the proxy is as it was. -/
theorem bindEndpoint_cases (hp : Poised inner refuses P proxy w)
    (hpermanent : w.permanent ≤ w.heap.size) (hobject : (⟨w.heap.size⟩ : Ref) ∉ w.references)
    (htopic : topic.id < w.heap.size) (kind : EntityKind) (e : Handle) :
    (∃ w', (bindEndpoint (host inner invoke) proxy kind e topic).apply w = (.ok (), w') ∧
      lookup w' proxy topicAttr = some topic ∧
      lookup w' proxy capsuleAttr = some ⟨w.heap.size⟩ ∧
      body? w' ⟨w.heap.size⟩ = some (.capsule (newHold w kind e)) ∧
      (withCapsule w kind e).Steadily w') ∨
    ∃ error w', (bindEndpoint (host inner invoke) proxy kind e topic).apply w =
        (.error (.raised error), w') ∧
      w.Upholds P (Only proxy topicAttr) w' ∧
      (∀ name, lookup w' proxy name = lookup w proxy name) ∧
      w'.heap.get? ⟨w.heap.size⟩ = none ∧ (withCapsule w kind e).Steadily w' := by
  let w₀ : World (Body C) := withCapsule w kind e
  let previous : Option Ref := lookup w₀ proxy topicAttr
  have hproxy : P proxy := hp.footing proxy (.inl rfl)
  have hmade : w.Upholds P World.NoChange w₀ := hp.supported.alloc _
  have hp₀ : Poised inner refuses P proxy w₀ := hp.upheld hmade fun _ _ => id
  -- the new capsule and the old link are held while the proxy is linked
  rcases linkEndpoint_cases (poised_holding hp e previous) topic ⟨w.heap.size⟩ with
    ⟨w₁, hok, hupholds, htopic₁, hcapsule₁, hsteady⟩ |
    ⟨error, w₁, hfails, hupholds, hlookup, hsteady, hunnamed⟩
  · -- the proxy names the capsule, which stays when it is let go of
    have hp₁ : World.Supported { w₁ with pinned := w.pinned } P :=
      hp₀.supported.upheld (hupholds.anti .inl).pinning
    have hswept : World.Upholds { w₁ with pinned := w.pinned } P World.NoChange
        (World.collectAll { w₁ with pinned := w.pinned }) := hp₁.collectAll
    have hbody : w₁.bodyAt ⟨w.heap.size⟩ = some (.capsule (newHold w kind e)) :=
      (hupholds.body (.inr rfl)).trans (congrArg (Option.map Node.body)
        (Heap.get?_alloc_self w.heap ⟨.empty, .capsule (newHold w kind e)⟩))
    refine .inl ⟨_, bindEndpoint_apply rfl hok, ?_, ?_, ?_, steadily_of_holding hsteady⟩
    · exact lookup_of_own ((hswept.attr hproxy id).trans htopic₁)
    · exact lookup_of_own ((hswept.attr hproxy id).trans hcapsule₁)
    · exact hswept.value hproxy id hcapsule₁ hbody
  · -- nothing refers to the capsule, so it goes when it is let go of
    have hall : w.Upholds P (Only proxy topicAttr)
        (World.collectAll { w₁ with pinned := w.pinned }) :=
      hmade.of_noChange.trans (hp₀.supported.letGo (hupholds.anti .inl))
    have hp₁ : Poised inner refuses P proxy { w₁ with pinned := w.pinned } :=
      hp₀.upheld (hupholds.anti .inl).pinning fun _ _ => not_only (by decide)
    have hswept : World.Upholds { w₁ with pinned := w.pinned } P World.NoChange
        (World.collectAll { w₁ with pinned := w.pinned }) := hp₁.supported.collectAll
    have hprevious : previous = lookup w proxy topicAttr :=
      lookup_of_upheld hmade hp.footing fun _ _ => id
    refine .inr ⟨error, _, bindEndpoint_apply rfl hfails, hall, fun name => ?_, ?_,
      steadily_of_holding hsteady⟩
    · calc lookup (World.collectAll { w₁ with pinned := w.pinned }) proxy name
          = lookup w₁ proxy name := lookup_of_upheld hswept hp₁.footing fun _ _ => id
        _ = lookup w₀ proxy name := hlookup name
        _ = lookup w proxy name := lookup_of_upheld hmade hp.footing fun _ _ => id
    · have hfree : w₀.Unnamed ⟨w.heap.size⟩ :=
        (World.Unnamed.of_not_mem hobject).alloc (by rintro ⟨⟩)
      have hold : previous ≠ some ⟨w.heap.size⟩ := by
        intro hsome
        obtain ⟨c, -, hown⟩ := found_on_footing (hprevious.symm.trans hsome) (by decide)
        exact hobject (World.Supported.value_referenced hown)
      have hnew : (⟨w.heap.size⟩ : Ref) ≠ topic := by
        rintro rfl
        exact Nat.lt_irrefl _ htopic
      refine ((hunnamed hnew hold (hfree.pinning _)).pinning _).gone (fun hpinned => ?_) ?_
      · exact hobject (World.mem_references_iff.mpr (.inl (World.mem_roots_iff.mpr (.inl hpinned))))
      · show w₁.permanent ≤ _
        rw [hupholds.permanent]
        exact hpermanent

/-! ## Creations -/

/-- What becomes of the hold on a new entity, which no object was before, is known from then on. -/
theorem account_of_adds (hw : w.Unforeseen) {s : Provider.State} {e : Handle}
    (hadds : w.provider.Adds kind e s) (hkind : kind ≠ .participant)
    (hsteadily : (withCapsule (w.advance s) kind e).Steadily w') :
    ∃ gone : List Capsule,
      w.Trail (.made (newHold (w.advance s) kind e) :: gone.map Deal.gone) w' ∧
        w'.Account kind ⟨w.bridge.generation, e⟩ ⟨w.heap.size⟩
          (.made (newHold (w.advance s) kind e) :: gone.map Deal.gone) := by
  let capsule := newHold (w.advance s) kind e
  have hcapsule : capsule = ⟨kind, e, .bridge w.bridge.generation (w.advance s).bridge.observed⟩ :=
    congrArg (fun n => Capsule.mk kind e (.bridge n _)) (w.sameObjects_advance s).2
  have howes : w.Owes capsule (w.advance s) := by
    rw [hcapsule]
    exact (World.adds_advance hadds _).toOwes
  -- nothing was a hold on the entity before there was the entity
  have hfresh : ¬w.Held ⟨w.bridge.generation, e⟩ := by
    rintro ⟨r, hr⟩
    have hle := hw.entity hr rfl
    have hlt := hadds.fresh
    dsimp only at hle
    omega
  have hrecords : ∀ record, (w.advance s).provider.entities.get? e = some record →
      record.kind = kind := by
    intro record hrecord
    rw [(w.advance_provider s).1] at hrecord
    exact hadds.sorted hrecord
  have hmade : w.Trail [.made capsule] (withCapsule (w.advance s) kind e) := .made .start howes rfl
  have haccount : World.Account kind ⟨w.bridge.generation, e⟩ ⟨w.heap.size⟩ [.made capsule]
      (withCapsule (w.advance s) kind e) := howes.account rfl hfresh hrecords
  obtain ⟨gone, htrail, hlast⟩ := hsteadily _ (World.accounts_steady hkind) _ haccount
  exact ⟨gone, hmade.append htrail, hlast⟩

/-- What went before the provider made an entity. -/
theorem EndpointCreation.undone_of_aside {creation : EndpointCreation}
    (hheld : w.Supported (Footing w creation.proxy))
    (h : w.Aside (Footing w creation.proxy) w') : creation.Undone w w' := by
  have hupholds := h.upholds hheld
  obtain ⟨gone, htrail⟩ := h.sheds
  refine ⟨fun name => lookup_of_upheld hupholds (fun _ hx => hx) fun _ _ => id,
    fun wrapped body hfound hbody => found_of_upheld hupholds (fun _ hx => hx) hfound (by decide)
      (fun _ _ => id) hbody,
    gone.map Deal.gone, htrail, htrail.releases, fun e record hrecord => .inl ?_,
    fun k deal hdeal htaken => ?_⟩
  · exact h.sheds.before hrecord
  · exact absurd htaken (by rw [Deal.not_takes_gone hdeal]; decide)

/-- What followed once the provider had made an entity. -/
theorem bindEndpoint_ends {creation : EndpointCreation} {s : Provider.State} {e : Handle}
    (hw : w.Unforeseen) (hp : Poised inner refuses (Footing w creation.proxy) creation.proxy w)
    (hadds : w.provider.Adds creation.kind e s) (hkind : creation.kind ≠ .participant)
    (htopic : creation.topic.id < w.heap.size) :
    creation.Ends w ((bindEndpoint (host inner invoke) creation.proxy creation.kind e
      creation.topic).apply (w.advance s)) := by
  -- the provider acts first, which leaves the objects as they are
  have hadvance : w.Upholds (Footing w creation.proxy) World.NoChange (w.advance s) := .advance w s
  have hpₐ := hp.upheld hadvance fun _ _ => id
  obtain ⟨_, _, _, _, hshape⟩ := w.advance_eq s
  have hheap : (w.advance s).heap = w.heap := by rw [hshape]
  have hreferences : (w.advance s).references = w.references := by rw [hshape]; rfl
  have hhold : newHold (w.advance s) creation.kind e =
      ⟨creation.kind, e, .bridge w.bridge.generation w.bridge.observed⟩ := by rw [hshape]; rfl
  have hpermanent : (w.advance s).permanent ≤ (w.advance s).heap.size := by
    rw [hshape]
    exact hw.permanent_le
  have hobject : (⟨(w.advance s).heap.size⟩ : Ref) ∉ (w.advance s).references := by
    rw [hheap, hreferences]
    exact hw.object
  rcases bindEndpoint_cases invoke hpₐ hpermanent hobject (hheap ▸ htopic) creation.kind e with
    ⟨w', hok, hlinked, hcapsule, hbody, hsteadily⟩ |
    ⟨error, w', hfails, hupholds, hlookup, hgone, hsteadily⟩
  · obtain ⟨_, -, haccount⟩ := account_of_adds hw hadds hkind hsteadily
    rw [hheap] at hcapsule hbody
    rw [hhold] at hbody
    obtain ⟨record, hrecord, hrecordKind, hrefs, -⟩ := haccount.entity
    have hholds : w'.Holds ⟨w.bridge.generation, e⟩ ⟨w.heap.size⟩ := by
      rw [World.Holds, World.capsuleAt, show w'.bodyAt _ = _ from hbody]
      rfl
    rw [hok]
    exact .bound ⟨hlinked, ⟨w.heap.size⟩, e, record, hcapsule, hbody, hadds.fresh, hrecord,
      hrecordKind, hrefs hholds⟩
  · obtain ⟨gone, htrail, haccount⟩ := account_of_adds hw hadds hkind hsteadily
    have hall : w.Upholds (Footing w creation.proxy) (Only creation.proxy topicAttr) w' :=
      hadvance.of_noChange.trans hupholds
    rw [hfails]
    refine .undone ⟨fun name => ?_, fun wrapped body hfound hbody => ?_, _, htrail, htrail.releases,
      fun _ _ => htrail.comes, fun k deal hdeal htaken => ?_⟩
    · exact (hlookup name).trans (lookup_of_upheld hadvance hp.footing fun _ _ => id)
    · exact found_of_upheld hall hp.footing hfound (by decide) (fun _ _ => not_only (by decide)) hbody
    · -- the capsule for the new entity is the only one that was made, and it is gone
      have hmade : (newHold (w.advance s) creation.kind e).hold? =
          some ⟨w.bridge.generation, e⟩ := by
        rw [hhold]
        rfl
      have hfree : ¬w'.Holds ⟨w.bridge.generation, e⟩ ⟨w.heap.size⟩ := by
        rw [hheap] at hgone
        rw [World.Holds, World.capsuleAt, World.bodyAt, hgone]
        simp
      cases Deal.takes_made_only hmade hdeal htaken
      exact haccount.givenUp hmade hfree

/-- The creation of a reader or writer always ends: either the proxy is linked to the topic proxy and
stands for the new entity, or nothing is left of the creation. The proxy is one that its caller
holds, and that holds its class and through it the classes above; it inherits neither from the parent
proxy nor from the topic proxy, and its guard goes by the name of the attribute. No number of the
quality of service that is beyond the host's native numbers has a text that is host code's. -/
theorem endpoint_bound_or_undone {call : Call} {creation : EndpointCreation}
    (hcreation : call.endpoint? = some creation) (hw : w.Unforeseen)
    (hheld : w.Supported (Footing w creation.proxy))
    (hparent : ¬Footing w creation.proxy creation.parent)
    (htopic : ¬Footing w creation.proxy creation.topic)
    (hguard : Guarded inner refuses w creation.proxy)
    (hlegible : ∀ obj ∈ creation.qos, Policies.Legible w obj) :
    creation.Ends w ((call.act (host inner invoke)).apply w) := by
  have hp : Poised inner refuses (Footing w creation.proxy) creation.proxy w :=
    ⟨hheld, fun _ hx => hx, hguard⟩
  have hfails : ∀ error w₁, w.Aside (Footing w creation.proxy) w₁ →
      creation.Ends w (.error (.raised error), w₁) := fun _ _ haside =>
    .undone (EndpointCreation.undone_of_aside hheld haside)
  cases call with
  | createWriter proxy publisher topic qos =>
      cases hcreation
      exact createEndpoint_cases (fun g t qos s => s.createWriter g t qos) hparent htopic hlegible
        (fun g t qos s => s.createWriter_makes g t qos) hfails
        fun e s hadds => bindEndpoint_ends hw hp hadds nofun
  | createReader proxy subscriber topic qos =>
      cases hcreation
      exact createEndpoint_cases (fun g t qos s => s.createReader g t qos) hparent htopic hlegible
        (fun g t qos s => s.createReader_makes g t qos) hfails
        fun e s hadds => bindEndpoint_ends hw hp hadds nofun
  | _ => cases hcreation

/-! ## A writer with a guard -/

/-- A text that changes the link of the writer. -/
def relinkingText : Session.Code :=
  .script [⟨.host (.setAttr (.register "writer") "topic" .none), none⟩]

/-- The built-in objects; a class whose guard refuses capsules; a publisher and a topic, with their
capsules; the guard; a writer of that class with its capsule and its link; a class of numbers with a
text of its own, and that text; and a number of that class in a policy of a quality of service. -/
def guardedWriterObjects : List (Node (Memory.Body Session.Code)) :=
  Builtin.all.map (fun b => ⟨.empty, b.body⟩) ++
    [⟨attrsOf [("__setattr__", ⟨21⟩)],
        .cls ⟨"app.DataWriter", [Builtin.object.ref], [Builtin.object.ref], none⟩⟩,
      ⟨.empty, .capsule ⟨.publisher, ⟨3⟩, .bridge 1 true⟩⟩,
      ⟨attrsOf [("_cpp_object", ⟨17⟩)], .instance Builtin.object.ref none⟩,
      ⟨.empty, .capsule ⟨.topic, ⟨2⟩, .bridge 1 true⟩⟩,
      ⟨attrsOf [("_cpp_object", ⟨19⟩)], .instance Builtin.object.ref none⟩,
      ⟨.empty, .function (.guard "_cpp_object" readOnly)⟩,
      ⟨attrsOf [("_cpp_object", ⟨23⟩), ("topic", ⟨24⟩)], .instance ⟨16⟩ none⟩,
      ⟨.empty, .capsule ⟨.writer, ⟨5⟩, .bridge 1 true⟩⟩,
      ⟨.empty, .instance Builtin.object.ref none⟩,
      ⟨attrsOf [("__str__", ⟨26⟩)],
        .cls ⟨"app.Big", [Builtin.int.ref], [Builtin.int.ref, Builtin.object.ref], none⟩⟩,
      ⟨.empty, .function relinkingText⟩,
      ⟨.empty, .instance ⟨25⟩ (some (-1))⟩,
      ⟨attrsOf [("kind", ⟨27⟩)], .instance Builtin.object.ref none⟩,
      ⟨attrsOf [("durability", ⟨28⟩)], .instance Builtin.object.ref none⟩]

/-- The world with these objects, in which the proxies and the quality of service are in registers. -/
def guardedWriterWorld : World (Memory.Body Session.Code) :=
  { (World.empty : World (Memory.Body Session.Code)) with
    heap := ⟨(guardedWriterObjects.map some).toArray⟩
    permanent := Builtin.all.length
    registers :=
      attrsOf [("publisher", ⟨18⟩), ("topic", ⟨20⟩), ("writer", ⟨22⟩), ("qos", ⟨29⟩)]
    provider := Provider.State.new.run (fun _ => false) Provider.State.chatRun
    bridge :=
      { BridgeState.unbuilt with generation := 1, observed := true, initialized := true } }

theorem unforeseen_guardedWriter : guardedWriterWorld.Unforeseen where
  permanent_le := by decide
  object := by decide +kernel
  entity := fun {k r} hk _ => by
    have hall : ∀ i < 30, ∀ capsule ∈ guardedWriterWorld.capsuleAt ⟨i⟩,
        capsule.handle.id ≤ guardedWriterWorld.provider.lastId := by decide +kernel
    obtain ⟨capsule, hcapsule, hhold⟩ := Option.bind_eq_some_iff.mp hk
    obtain ⟨_, hbody, -⟩ := Option.bind_eq_some_iff.mp hcapsule
    rw [← (Capsule.hold?_eq_some_iff.mp hhold).2]
    exact hall r.id (World.lt_size_of_bodyAt hbody) capsule hcapsule

/-- The writer's proxy is in a register, its class is held by the proxy, and the class above that is
built in. -/
theorem supported_guardedWriter :
    guardedWriterWorld.Supported (Footing guardedWriterWorld ⟨22⟩) := by
  refine supported_footing rfl ?_ rfl fun c hc => ?_
  · have hregister : (⟨22⟩ : Ref) ∈ guardedWriterWorld.registers.values := by decide
    simp only [World.anchors, List.mem_append]
    exact .inl (.inl (.inr hregister))
  · rw [List.mem_singleton.mp hc]
    exact ⟨by decide, _, rfl⟩

/-- Neither of the other proxies is among the objects on which the writer's attributes are found. -/
theorem apart_guardedWriter {r : Ref} (h : r ∈ [(⟨18⟩ : Ref), ⟨20⟩]) :
    ¬Footing guardedWriterWorld ⟨22⟩ r := by
  have hinherits : inherits guardedWriterWorld ⟨22⟩ = [⟨16⟩, Builtin.object.ref] := rfl
  rw [Footing, hinherits]
  revert r
  decide

/-- The guard of the writer's class goes by the name of the attribute. -/
theorem guarded_guardedWriter (isFile : String → Bool) (level : Nat) :
    Guarded (Session.hostAt isFile (level + 2))
      (fun name => if name = "_cpp_object" then some readOnly else none) guardedWriterWorld ⟨22⟩ := by
  intro guard hguard
  have hplace : guardOf guardedWriterWorld ⟨22⟩ = some ⟨21⟩ := rfl
  cases hplace.symm.trans hguard
  exact ⟨_, rfl, judges_guard isFile level ⟨21⟩ "_cpp_object" readOnly⟩

/-- The creation of a writer in place of the one that the guarded proxy stands for. -/
def renewalCall (qos : Option Ref) : Call := .createWriter ⟨22⟩ ⟨18⟩ ⟨20⟩ qos

/-- What the creation leaves, if it fails: its failure, the link and the capsule of the proxy, and
what was given back. -/
def renewalFailure (qos : Option Ref) : Option (Error × Option Ref × Option Ref × List Release) :=
  match ((renewalCall qos).act (Session.hostAt (fun _ => false) 5)).apply guardedWriterWorld with
  | (.error (.raised error), w) =>
    some (error, lookup w ⟨22⟩ topicAttr, lookup w ⟨22⟩ capsuleAttr, w.releases)
  | _ => none

theorem renewalFailure_eq_some {qos : Option Ref}
    {found : Error × Option Ref × Option Ref × List Release} (h : renewalFailure qos = some found) :
    ∃ w', ((renewalCall qos).act (Session.hostAt (fun _ => false) 5)).apply guardedWriterWorld =
        (.error (.raised found.1), w') ∧ lookup w' ⟨22⟩ topicAttr = found.2.1 ∧
      lookup w' ⟨22⟩ capsuleAttr = found.2.2.1 ∧ w'.releases = found.2.2.2 := by
  unfold renewalFailure at h
  split at h
  · rename_i error w' hrun
    cases h
    exact ⟨w', hrun, rfl, rfl, rfl⟩
  · cases h

/-- The guard accepts the link and refuses the capsule: the proxy has the link that it had, and the
new writer is given back. -/
theorem refused_capsule_undone : ∃ w',
    ((renewalCall none).act (Session.hostAt (fun _ => false) 5)).apply guardedWriterWorld =
        (.error (.raised (.host readOnly)), w') ∧
      EndpointCreation.Undone ⟨⟨22⟩, .writer, ⟨18⟩, ⟨20⟩, none⟩ guardedWriterWorld w' ∧
      lookup w' ⟨22⟩ topicAttr = some ⟨24⟩ ∧ w'.releases = [.toProvider .writer ⟨7⟩] := by
  have hfailure : renewalFailure none = some (.host readOnly, some ⟨24⟩, some ⟨23⟩,
      [.toProvider .writer ⟨7⟩]) := by decide +kernel
  obtain ⟨w', hfails, htopic, -, hreleases⟩ := renewalFailure_eq_some hfailure
  have hcreation : (renewalCall none).endpoint? = some ⟨⟨22⟩, .writer, ⟨18⟩, ⟨20⟩, none⟩ := rfl
  have hparent : ¬Footing guardedWriterWorld ⟨22⟩ ⟨18⟩ := apart_guardedWriter (by decide)
  have htopicProxy : ¬Footing guardedWriterWorld ⟨22⟩ ⟨20⟩ := apart_guardedWriter (by decide)
  have hends : EndpointCreation.Ends ⟨⟨22⟩, .writer, ⟨18⟩, ⟨20⟩, none⟩ guardedWriterWorld
      (((renewalCall none).act (Session.hostAt (fun _ => false) 5)).apply guardedWriterWorld) :=
    endpoint_bound_or_undone hcreation unforeseen_guardedWriter supported_guardedWriter hparent
      htopicProxy (guarded_guardedWriter (fun _ => false) 2) nofun
  rw [hfails] at hends
  cases hends with
  | undone hundone => exact ⟨w', hfails, hundone, htopic, hreleases⟩

/-- A number that is too small for the policy, and whose text is host code's, changes the link while
the creation fails. -/
theorem text_moves_topic :
    guardedWriterWorld.bridge.initialized = true ∧ guardedWriterWorld.Unforeseen ∧
      guardedWriterWorld.Supported (Footing guardedWriterWorld ⟨22⟩) ∧
      ¬Footing guardedWriterWorld ⟨22⟩ ⟨18⟩ ∧ ¬Footing guardedWriterWorld ⟨22⟩ ⟨20⟩ ∧
      Guarded (Session.hostAt (fun _ => false) 4)
        (fun name => if name = "_cpp_object" then some readOnly else none) guardedWriterWorld ⟨22⟩ ∧
      lookup guardedWriterWorld ⟨22⟩ topicAttr = some ⟨24⟩ ∧
      ∃ error w', ((renewalCall (some ⟨29⟩)).act (Session.hostAt (fun _ => false) 5)).apply
          guardedWriterWorld = (.error (.raised error), w') ∧
        lookup w' ⟨22⟩ topicAttr = some Builtin.none.ref := by
  refine ⟨rfl, unforeseen_guardedWriter, supported_guardedWriter, apart_guardedWriter (by decide),
    apart_guardedWriter (by decide), guarded_guardedWriter _ 2, rfl, ?_⟩
  have hfailure : renewalFailure (some ⟨29⟩) = some (.range ⟨"u32", "<int>"⟩,
      some Builtin.none.ref, some ⟨23⟩, []) := by decide +kernel
  obtain ⟨w', hfails, htopic, -⟩ := renewalFailure_eq_some hfailure
  exact ⟨_, w', hfails, htopic⟩

end Bridge

end DdsBridge
