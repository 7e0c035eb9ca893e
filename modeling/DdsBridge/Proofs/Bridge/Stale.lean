import DdsBridge.Proofs.Bridge.Handover
import DdsBridge.Proofs.Bridge.Lookups
import DdsBridge.Proofs.Bridge.Resolution
import DdsBridge.Proofs.Host.Memory.Footing

/-!
# Stale proxies

A clean-up deletes entities and leaves their proxies as they are, with capsules that name nothing
alive. Numbers are not issued again, so such a capsule names nothing for good; and if only the
bridge's creations store capsules, a proxy gets another one only if an entity is created on it, or
on an object from which it inherits. Until then every call that looks the proxy up fails, with one
exception: the first such call takes the capsule from the proxy, and one that the proxy inherits may
come to light.

* **`Provider.State.Gone`** — entities that were handed out and are gone.
* **`World.Since`** — worlds that come after a certain world, and **`World.since_steady`**,
  **`World.since_turning`** for what leads from one of them to another.
* **`Rules.since`** — runs in which only creations store capsules, and none is made on a spared
  object; **`since_allows`** and **`Run.since`** say that they stay among such worlds.
* **`Proxies.Unusable`** — proxies that every look-up misses.
* **`World.Since.proxy_cases`**, **`Bridge.cleanup_leaves_stale`** — what becomes of the proxies of
  entities that are gone.
-/

namespace DdsBridge

open Memory Proxies
open DdsBridge.Action (Within WithinAt)
open Provider (Method State)

/-- The names under which no capsule is stored. -/
def Unreserved (name : String) : Prop := name ≠ capsuleAttr

instance : DecidablePred Unreserved := fun _ => inferInstanceAs (Decidable (_ ≠ _))

/-- An entity was handed out and is not there any more. -/
structure Provider.State.Gone (s : State) (e : Handle) : Prop where
  issued : e.id ≤ s.lastId
  gone : s.isAlive e = false

variable {C : Type} {base w w' w₀ w₁ w₂ : World (Body C)} {spared : Ref → Prop}

/-- A world that comes after a base: entities and objects are what they were in it, if they were
there. A proxy has the capsule it had, or one that was made since, and then the proxy is not spared;
such a capsule names an entity that was handed out since. -/
structure World.Since (base : World (Body C)) (spared : Ref → Prop) (w : World (Body C)) : Prop where
  wellFormed : w.provider.WellFormed
  types : w.TypesFree Unreserved
  onward : base.Onward w
  capsules : ∀ {c wrapped}, w.attrAt c capsuleAttr = some wrapped →
    base.attrAt c capsuleAttr = some wrapped ∨ base.heap.size ≤ wrapped.id ∧ ¬spared c
  handed : ∀ {r capsule}, base.heap.size ≤ r.id → w.bodyAt r = some (.capsule capsule) →
    base.provider.lastId < capsule.handle.id

/-- A world that comes after the base still does. -/
def World.StaysSince (base : World (Body C)) (spared : Ref → Prop) (w w' : World (Body C)) : Prop :=
  base.Since spared w → base.Since spared w'

namespace Provider.State

variable {s s' : State} {e : Handle}

/-- What is gone does not come back. -/
theorem Gone.mono (h : s.Gone e) (hs : s.Precedes s') : s'.Gone e where
  issued := Nat.le_trans h.issued hs.lastId_le
  gone := Bool.eq_false_iff.mpr fun halive => by
    obtain ⟨p, hp⟩ := isAlive_iff_profile.mp halive
    exact absurd (isAlive_iff_profile.mpr ⟨p, hs.profile h.issued hp⟩) (by simp [h.gone])

/-- A clean-up deletes what the participant contains. -/
theorem gone_of_deleteContained (hwf : s.WellFormed) {p : Handle} (hok : s.deleteContained p = (.ok (), s'))
    (he : e ∈ s.contained p) : s'.Gone e := by
  obtain ⟨-, profile, hprofile, -⟩ := mem_contained.mp he
  obtain ⟨_, -, rfl⟩ := deleteContained_eq_ok hok
  refine ⟨Nat.le_trans (hwf.issued hprofile) (deleteAll_lastId s _),
    Bool.eq_false_iff.mpr fun halive => ?_⟩
  obtain ⟨found, hfound⟩ := isAlive_iff_profile.mp halive
  rw [deleteAll_profile, if_pos he] at hfound
  exact absurd hfound (by simp)

/-- A clean-up does not fail with the code of a success. -/
theorem deleteContained_ne_ok {p : Handle} : (s.deleteContained p).1 ≠ .error .ok := by
  intro h
  cases hget : s.get p .participant with
  | ok record =>
      rw [deleteContained, hget] at h
      cases h
  | error code =>
      rw [deleteContained, hget] at h
      cases h
      unfold get at hget
      split at hget
      · split at hget <;> cases hget
      · have hmissing : s.missing p = .ok := Except.error.inj hget
        unfold missing at hmissing
        split at hmissing <;> cases hmissing

end Provider.State

/-! ## Worlds that come after a base -/

namespace World.Since

theorem refl (hwf : base.provider.WellFormed) (htypes : base.TypesFree Unreserved) :
    base.Since spared base where
  wellFormed := hwf
  types := htypes
  onward := .refl base
  capsules := .inl
  handed := fun hnew hbody => absurd (World.lt_size_of_bodyAt hbody) (Nat.not_lt.mpr hnew)

/-- No capsule comes and none is stored. -/
theorem of_onward (h : base.Since spared w) (ho : w.Onward w') (hwf : w'.provider.WellFormed)
    (hregistry : w'.bridge.registry = w.bridge.registry)
    (hattrs : ∀ {c wrapped}, w'.attrAt c capsuleAttr = some wrapped →
      w.attrAt c capsuleAttr = some wrapped)
    (hbodies : ∀ {r capsule}, w'.bodyAt r = some (.capsule capsule) →
      w.bodyAt r = some (.capsule capsule)) : base.Since spared w' where
  wellFormed := hwf
  types := fun cls s hcls => h.types cls s (hregistry ▸ hcls)
  onward := h.onward.trans ho
  capsules := fun hattr => h.capsules (hattrs hattr)
  handed := fun hnew hbody => h.handed hnew (hbodies hbody)

end World.Since

namespace World

/-- The objects stay, and the provider goes on. -/
theorem staysSince_of_goes (hheap : w'.heap = w.heap) (hgoes : w.provider.Goes w'.provider)
    (hregistry : w'.bridge.registry = w.bridge.registry) : base.StaysSince spared w w' := by
  intro h
  obtain ⟨hwf, hprecedes⟩ := hgoes h.wellFormed
  have ho : w.Onward w' :=
    { size_le := Nat.le_of_eq (congrArg Heap.size hheap.symm)
      body := fun _ hbody => by rwa [bodyAt, hheap] at hbody
      provider := hprecedes }
  refine h.of_onward ho hwf hregistry (fun hattr => ?_) fun hbody => ?_
  · rwa [attrAt, hheap] at hattr
  · rwa [bodyAt, hheap] at hbody

theorem staysSince_advance {s : State} (hgoes : w.provider.Goes s) :
    base.StaysSince spared w (w.advance s) :=
  staysSince_of_goes (w.sameObjects_advance s).1.heap (advance_goes hgoes) (w.advance_registry s)

theorem staysSince_discard [HostCode C] (w : World (Body C)) (r : Ref) :
    base.StaysSince spared w (w.discard r) := by
  intro h
  obtain ⟨hwf, hprecedes⟩ := (w.discard_idles r).goes h.wellFormed
  have ho : w.Onward (w.discard r) :=
    { size_le := by simp [discard_heap, Heap.size, Heap.erase]
      body := fun _ hbody => bodyAt_of_discard hbody
      provider := hprecedes }
  obtain ⟨_, _, _, _, _, _, heq, -⟩ := w.discard_eq r
  exact h.of_onward ho hwf (by rw [heq]) attrAt_of_discard bodyAt_of_discard

theorem since_steady [HostCode C] : World.Steady Body.IsNoCapsule Unreserved
    (base.StaysSince spared : World (Body C) → World (Body C) → Prop) where
  trans h h' hs := h' (h hs)
  quiet {w w'} h hs := by
    refine hs.of_onward (Naming.onward_of_hushed h.toHushed) (h.provider ▸ hs.wellFormed) h.registry
      (h.attrs _ _ _ fun hname => hname rfl) fun {r capsule} hbody => ?_
    rcases h.new r _ hbody with hold | hplain
    · exact hold
    · exact absurd rfl (hplain capsule)
  discard _ _ := staysSince_discard _ _

theorem since_turning :
    World.Turning (base.StaysSince spared : World (Body C) → World (Body C) → Prop) where
  turn h := staysSince_of_goes h.heap h.goes h.registry
  noted _ _ _ := staysSince_of_goes rfl (.refl _) rfl

/-- A type is registered that has no field under the name of capsules. -/
theorem staysSince_register {s : StructType} (hfree : s.type.NamesFree Unreserved) (cls : Ref) :
    base.StaysSince spared w
      { w with bridge := { w.bridge with registry := w.bridge.registry.insert cls s } } := by
  intro h
  refine ⟨h.wellFormed, fun found t ht => ?_, ⟨h.onward.size_le, h.onward.body, h.onward.provider⟩,
    h.capsules, h.handed⟩
  have ht : (w.bridge.registry.insert cls s).get? found = some t := ht
  rw [Table.get?_insert] at ht
  split at ht
  · cases ht
    exact hfree
  · exact h.types found t ht

/-! ## Capsules that are made since -/

/-- A capsule comes that names an entity handed out since. -/
theorem staysSince_alloc [HostCode C] (w : World (Body C)) {capsule : Capsule}
    (hnew : base.provider.lastId < capsule.handle.id) :
    base.StaysSince spared w
      { w with heap := (w.heap.alloc ⟨.empty, .capsule capsule⟩).2 } := by
  intro h
  have hcomes : w.Hushed (fun body => body = .capsule capsule) AnyName
      { w with heap := (w.heap.alloc ⟨.empty, .capsule capsule⟩).2 } := .alloc w rfl
  refine ⟨h.wellFormed, h.types, h.onward.trans (Naming.onward_of_hushed hcomes), fun hattr => ?_,
    fun {r found} hlate hbody => ?_⟩
  · rcases alloc_attrAt w _ hattr with hold | ⟨-, hnone⟩
    · exact h.capsules hold
    · exact absurd hnone (by simp)
  · rcases hcomes.new r _ hbody with hold | hsame
    · exact h.handed hlate hold
    · cases hsame
      exact hnew

/-- A capsule that was made since is stored on an object that is not spared. -/
theorem staysSince_storeAttr [HostCode C] (w : World (Body C)) {obj value : Ref}
    (hvalue : base.heap.size ≤ value.id) (hobj : ¬spared obj) :
    base.StaysSince spared w (w.storeAttr obj capsuleAttr value) := by
  refine since_steady.storeAttr_of_insert fun node hnode h => ?_
  have hchange : w.Hushed (fun _ => False) AnyName
      { w with heap :=
          w.heap.set obj { node with attrs := node.attrs.insert capsuleAttr value } } :=
    .insert hnode (show AnyName capsuleAttr from trivial) value
  refine ⟨h.wellFormed, h.types, h.onward.trans (Naming.onward_of_hushed hchange),
    fun {c wrapped} hattr => ?_, fun {r capsule} hlate hbody => ?_⟩
  · rcases attrAt_of_insert hnode hattr with ⟨rfl, -, rfl⟩ | hold
    · exact .inr ⟨hvalue, hobj⟩
    · exact h.capsules hold
  · rcases hchange.new r _ hbody with hold | hfalse
    · exact h.handed hlate hold
    · exact hfalse.elim

end World

/-! ## Creations -/

section Creations

open Bridge

variable [HostCode C] {inner : Host (Body C)} {invoke : C → List Ref → MemoryAction C Ref}
variable {α : Type} {kind : EntityKind} {e : Handle} {proxy : Ref}

/-- The capsule of an entity that was handed out since, and what is done with it. -/
theorem capsule_staysSince (hnew : base.provider.lastId < e.id) {f : Ref → BridgeAction (Body C) α}
    (hf : ∀ wrapped, base.heap.size ≤ wrapped.id → (f wrapped).Within (base.StaysSince spared)) :
    (do
      let capsule ← capsuleFor kind e
      let wrapped ← ((host inner invoke).newCapsule capsule : HostAction (Body C) Ref)
      f wrapped).Within (base.StaysSince spared) := by
  intro w
  unfold WithinAt
  rw [Naming.capsule_apply]
  intro hends h
  -- the new object comes after all that were there
  have hlate : base.heap.size ≤ (w.heap.alloc ⟨.empty, .capsule ⟨kind, e,
      .bridge w.bridge.generation w.bridge.observed⟩⟩).1.id := h.onward.size_le
  exact hf _ hlate _ hends (World.staysSince_alloc w hnew h)

/-- The provider's answer to a creation, and what is done with the new entity. -/
theorem create_staysSince {method : Method} {op : State → Provider.Result Handle}
    {name : String} {f : Handle → BridgeAction (Body C) α} (hop : ∀ s : State, s.Makes kind (op s))
    (hf : ∀ e, base.provider.lastId < e.id → (f e).Within (base.StaysSince spared)) :
    (do
      let result ← Gate.fetch method op
      let e ← Gate.expect name result
      f e).Within (base.StaysSince spared) := by
  refine fun w => Gate.create_withinAt World.since_steady (hop w.provider).keeps
    (World.staysSince_advance (.refl w.provider)) ?_
  intro e s hs hends h
  have hadds := (hop _).adds hs
  have hnew : base.provider.lastId < e.id :=
    Nat.lt_of_le_of_lt h.onward.provider.lastId_le hadds.fresh
  exact hf e hnew _ hends (World.staysSince_advance hadds.goes h)

variable (hcall : ∀ callable args, (inner.call callable args).Within (base.StaysSince spared))
variable (hproxy : ¬spared proxy)
include hcall hproxy

/-- A capsule that was made since is assigned. -/
theorem setAttr_staysSince {wrapped : Ref} (hlate : base.heap.size ≤ wrapped.id) :
    ((host inner invoke).setAttr proxy capsuleAttr wrapped).Within (base.StaysSince spared) := by
  have hR : World.Steady Body.IsPlain Unreserved (base.StaysSince spared) :=
    World.since_steady.mono fun _ hplain => hplain.isNoCapsule
  exact setAttr_within_of_store hR hcall fun w => World.staysSince_storeAttr w hlate hproxy

/-- A new entity is bound to its proxy. -/
theorem bindEntity_staysSince (hnew : base.provider.lastId < e.id) :
    (bindEntity (host inner invoke) proxy kind e).Within (base.StaysSince spared) := by
  have hR : World.Steady Body.IsNoCapsule Unreserved (base.StaysSince spared) := World.since_steady
  have hbind : (do
      let capsule ← capsuleFor kind e
      let wrapped ← ((host inner invoke).newCapsule capsule : HostAction (Body C) Ref)
      let store : HostAction (Body C) Unit := (host inner invoke).setAttr proxy capsuleAttr wrapped
      Action.holding [wrapped] (store : BridgeAction (Body C) Unit)
      return ()).Within (base.StaysSince spared) :=
    capsule_staysSince hnew fun wrapped hlate =>
      .bind hR (.holding hR (.lift (setAttr_staysSince hcall hproxy hlate))) fun _ => .pure hR ()
  simpa only [bindEntity, Proxies.bind, bind_assoc, pure_bind] using hbind

/-- A new writer or reader is bound to its proxy, with the link to its topic proxy. -/
theorem bindEndpoint_staysSince (hh : (host inner invoke).Acts Unreserved (base.StaysSince spared))
    (hnew : base.provider.lastId < e.id) (topic : Ref) :
    (bindEndpoint (host inner invoke) proxy kind e topic).Within (base.StaysSince spared) := by
  have hR : World.Steady Body.IsNoCapsule Unreserved (base.StaysSince spared) := World.since_steady
  refine capsule_staysSince hnew fun wrapped hlate => ?_
  refine .bind hR (.attempt (hh.getAttr proxy _)) fun previous => ?_
  refine .holding hR (.bind hR (.lift (hh.setAttr proxy topic (by decide))) fun _ => ?_)
  refine .bind hR (.attempt (setAttr_staysSince hcall hproxy hlate)) fun stored => ?_
  cases stored with
  | ok => exact .pure hR ()
  | error error =>
      exact .bind hR (restoreTopic_within hR hh (by decide) proxy _) fun _ => .raise hR _

/-- A new entity is made and bound to its proxy. -/
theorem createEntity_staysSince {method : Method} {op : State → Provider.Result Handle}
    {name : String} (hop : ∀ s : State, s.Makes kind (op s)) :
    (do
      let result ← Gate.fetch method op
      let e ← Gate.expect name result
      bindEntity (host inner invoke) proxy kind e).Within (base.StaysSince spared) :=
  create_staysSince hop fun _ hnew => bindEntity_staysSince hcall hproxy hnew

/-- A new writer or reader is made and bound to its proxy. -/
theorem createEndpoint_staysSince (hh : (host inner invoke).Acts Unreserved (base.StaysSince spared))
    {method : Method} {operation role : String} {groupKind : EntityKind} {default : EndpointQos}
    (op : Handle → Handle → EndpointQos → State → Provider.Result Handle)
    (hop : ∀ g t qos (s : State), s.Makes kind (op g t qos s))
    (group topic : Ref) (qos : Option Ref) :
    (do
      requireInit operation
      let g ← resolveAs (host inner invoke) group groupKind role
      let t ← resolveAs (host inner invoke) topic .topic "topic"
      let qos ← Policies.endpointQos (host inner invoke) default qos
      let result ← Gate.fetch method (op g t qos)
      let e ← Gate.expect operation result
      bindEndpoint (host inner invoke) proxy kind e topic).Within (base.StaysSince spared) := by
  have hR : World.Steady Body.IsNoCapsule Unreserved (base.StaysSince spared) := World.since_steady
  refine .bind hR (requireInit_within hR _) fun _ => ?_
  refine .bind hR (resolveAs_within hR hh.toReads group _ _) fun g => ?_
  refine .bind hR (resolveAs_within hR hh.toReads topic _ _) fun t => ?_
  refine .bind hR (Policies.endpointQos_within hR hh.toReads _ qos) fun qos => ?_
  exact create_staysSince (hop g t qos) fun _ hnew => bindEndpoint_staysSince hcall hproxy hh hnew topic

/-- A new entity of a participant is made and bound to its proxy. -/
theorem createPart_staysSince (hh : (host inner invoke).Acts Unreserved (base.StaysSince spared))
    {method : Method} {operation : String} (op : Handle → State → Provider.Result Handle)
    (hop : ∀ p (s : State), s.Makes kind (op p s)) (participant : Ref) :
    (do
      requireInit operation
      let p ← resolveAs (host inner invoke) participant .participant "participant"
      let result ← Gate.fetch method (op p)
      let e ← Gate.expect operation result
      bindEntity (host inner invoke) proxy kind e).Within (base.StaysSince spared) := by
  have hR : World.Steady Body.IsNoCapsule Unreserved (base.StaysSince spared) := World.since_steady
  refine .bind hR (requireInit_within hR _) fun _ => ?_
  refine .bind hR (resolveAs_within hR hh.toReads participant _ _) fun p => ?_
  exact createEntity_staysSince hcall hproxy (hop p)

end Creations

/-! ## Runs in which only creations store capsules -/

section Runs

variable [HostCode C] {inner : Host (Body C)} {invoke : C → List Ref → MemoryAction C Ref}

/-- The host neither forges capsules nor stores them, no topic type has a field under their name, and
nothing is created on a spared object. -/
def Rules.since (base : World (Body C)) (spared : Ref → Prop) : Rules C where
  Plain := Body.IsNoCapsule
  Free := Unreserved
  Fits _ _ call := (∀ s, call = .registerTopicType s → s.type.NamesFree Unreserved) ∧
    ∀ proxy ∈ call.target?, ¬spared proxy
  Agrees := base.Since spared

theorem call_staysSince (hnested : Nested Unreserved (base.StaysSince spared) inner invoke)
    {call : Bridge.Call} (hfits : (Rules.since base spared).Fits (host inner invoke) w call) :
    (call.act (host inner invoke)).Within (base.StaysSince spared) := by
  have hR : World.Steady Body.IsNoCapsule Unreserved (base.StaysSince spared) := World.since_steady
  have hh : (host inner invoke).Acts Unreserved (base.StaysSince spared) :=
    hnested.acts (hR.mono fun _ hplain => hplain.isNoCapsule) (by decide)
  have hcall := hnested.call
  have hproxy := hfits.2
  cases call with
  | registerTopicType s =>
      refine .bind hR (.bind hR (.lift (classOf_within hR hh.toReads _ _ _)) fun cls => ?_)
        fun _ => .pure hR ()
      exact .bind hR (.change fun _ => World.staysSince_register (hfits.1 s rfl) cls)
        fun _ => .pure hR cls
  | createParticipant proxy domain =>
      exact .bind hR (Bridge.requireInit_within hR _) fun _ =>
        createEntity_staysSince hcall (hproxy proxy rfl) (·.createParticipant_makes domain)
  | createTopic proxy participant name type =>
      refine .bind hR (Bridge.requireInit_within hR _) fun _ => ?_
      refine .bind hR (resolveAs_within hR hh.toReads participant _ _) fun p => ?_
      refine create_staysSince (·.createTopic_makes p name type) fun e hnew => ?_
      -- the new handle is above all that the base had issued
      exact .bind hR (bindEntity_staysSince hcall (hproxy proxy rfl) hnew) fun _ =>
        Bridge.linkType_within hR hh (by decide) proxy type
  | createPublisher proxy participant =>
      exact createPart_staysSince hcall (hproxy proxy rfl) hh (fun p s => s.createPublisher p [])
        (fun p s => s.createPublisher_makes p []) participant
  | createSubscriber proxy participant =>
      exact createPart_staysSince hcall (hproxy proxy rfl) hh (fun p s => s.createSubscriber p [])
        (fun p s => s.createSubscriber_makes p []) participant
  | createWriter proxy publisher topic qos =>
      exact createEndpoint_staysSince hcall (hproxy proxy rfl) hh
        (fun g t qos s => s.createWriter g t qos) (fun g t qos s => s.createWriter_makes g t qos)
        publisher topic qos
  | createReader proxy subscriber topic qos =>
      exact createEndpoint_staysSince hcall (hproxy proxy rfl) hh
        (fun g t qos s => s.createReader g t qos) (fun g t qos s => s.createReader_makes g t qos)
        subscriber topic qos
  | _ =>
      refine Bridge.Call.within_of_settled hR hh World.since_turning (by decide) ?_ rfl
        fun _ => by simp
      exact fun w _ hwild h => absurd h.types hwild

/-- The steps of such a run lead from worlds that come after the base to worlds that do. -/
theorem since_allows : (Rules.since base spared).Allows
    (base.StaysSince spared : World (Body C) → World (Body C) → Prop) where
  steady := World.since_steady
  noted := World.since_turning.noted
  discard := World.staysSince_discard
  provider w isFile operation :=
    World.staysSince_advance (State.perform_goes isFile operation w.provider)
  agrees h hsince := h hsince hsince
  call {_ _ w _} hnested hfits := call_staysSince hnested hfits w

/-- Every world that such a run reaches comes after the base. -/
theorem Run.since (hwf : base.provider.WellFormed) (htypes : base.TypesFree Unreserved)
    (h : (Rules.since base spared).Run base w) : base.Since spared w :=
  h.within since_allows (.refl hwf htypes)

end Runs

/-! ## What a clean-up leaves behind -/

section CleanUp

variable [HostCode C] {inner : Host (Body C)} {invoke : C → List Ref → MemoryAction C Ref}
variable {r proxy : Ref} {kind : EntityKind} {e : Handle}

/-- The objects on which the capsule of a proxy is found are there, and so are their capsules. -/
structure Proxies.Rooted (w : World (Body C)) (r : Ref) : Prop where
  there : ∀ c, Footing w r c → c.id < w.heap.size
  capsules : ∀ c wrapped, Footing w r c → w.attrAt c capsuleAttr = some wrapped →
    wrapped.id < w.heap.size

/-- A proxy stands for an entity that was handed out since a world was. -/
def Proxies.BoundSince (base w : World (Body C)) (r : Ref) : Prop :=
  ∃ kind e, StandsFor w r kind e ∧ base.provider.lastId < e.id

/-- A proxy has no capsule of its own any more and stands for a live entity with a capsule that it
inherited all along. -/
structure Proxies.Uncovers (base w : World (Body C)) (r : Ref) : Prop where
  bare : w.attrAt r capsuleAttr = none
  inherited : ∃ c ∈ inherits base r, ∃ wrapped kind e, base.attrAt c capsuleAttr = some wrapped ∧
    capsuleHandle base wrapped = some (kind, e) ∧ StandsFor w r kind e

/-- Every call that looks a proxy up fails with a missing handle. If the look-ups before find what they
look for, it is the proxy that is missed; and if the kind of what the proxy names was right, the
proxy has no capsule of its own afterwards. -/
def Proxies.Unusable (w : World (Body C)) (r : Ref) : Prop :=
  ∀ (inner : Host (Body C)) (invoke : C → List Ref → MemoryAction C Ref) (call : Bridge.Call)
    (l : Bridge.Lookup), l ∈ call.lookups → l.proxy = r → call.Admitted w →
    (∃ role expected w', (call.act (host inner invoke)).apply w =
      (.error (.raised (.handleMissing role expected)), w')) ∧
    ∀ before after, call.lookups = before ++ l :: after → (∀ found ∈ before, found.Finds w) →
      ∃ expected w', (call.act (host inner invoke)).apply w =
          (.error (.raised (.handleMissing l.role expected)), w') ∧
        ∀ kind e, Names w r kind e → l.Accepts kind → w'.attrAt r capsuleAttr = none

omit [HostCode C] in
/-- In later worlds an object inherits from no other objects than before. -/
theorem World.Onward.footing (ho : w.Onward w') (hthere : ∀ c, Footing w r c → c.id < w.heap.size)
    {c : Ref} (h : Footing w' r c) : Footing w r c := by
  rcases h with rfl | hc
  · exact .inl rfl
  · refine .inr ?_
    unfold inherits at hc
    cases hbody' : body? w' r with
    | none =>
        rw [hbody'] at hc
        exact absurd hc List.not_mem_nil
    | some body =>
        have hbody : body? w r = some body := ho.body (hthere r (.inl rfl)) hbody'
        rw [hbody'] at hc
        rw [inherits_of_body hbody]
        cases body with
        | «instance» owner value =>
            have howner : Footing w r owner := .inr <| by
              rw [inherits_of_body hbody]
              exact List.mem_cons_self
            exact ho.lineage (hthere owner howner) hc
        | _ => exact hc

omit [HostCode C] in
/-- A proxy's capsule that is not late is the one that was there, and names what it named. -/
theorem World.Since.capsule_cases (h : base.Since spared w) (hrooted : Rooted base r) {c wrapped : Ref}
    (hc : Footing base r c) (hown : w.attrAt c capsuleAttr = some wrapped)
    (hheld : capsuleHandle w wrapped = some (kind, e)) :
    (base.attrAt c capsuleAttr = some wrapped ∧ capsuleHandle base wrapped = some (kind, e)) ∨
      base.provider.lastId < e.id ∧ ¬spared c := by
  rcases h.capsules hown with hold | ⟨hlate, hcreated⟩
  · exact .inl ⟨hold, Naming.capsuleHandle_onward h.onward (hrooted.capsules c wrapped hc hold) hheld⟩
  · refine .inr ⟨?_, hcreated⟩
    unfold capsuleHandle at hheld
    split at hheld
    · rename_i capsule hbody
      cases hheld
      exact h.handed hlate hbody
    · exact absurd hheld (by simp)

/-- A proxy that stands for no live entity is of no use. -/
theorem Proxies.unusable_of_stale (h : ∀ kind e, ¬StandsFor w r kind e) : Unusable w r := by
  rintro inner invoke call l hl rfl hadmitted
  have hstale : ¬l.Finds w := fun ⟨kind, e, _, hstands⟩ => h kind e hstands
  exact ⟨Bridge.Call.misses hadmitted hl hstale, fun before after hlookups hbefore =>
    Bridge.Call.misses_at hadmitted hlookups hbefore hstale⟩

/-- A proxy named what is gone. In later worlds it is of no use, unless something was created since on
it or on an object from which it inherits, or it inherits a capsule and lost its own. -/
theorem World.Since.proxy_cases (h : base.Since spared w) (hrooted : Rooted base r)
    (hnames : Names base r kind e) (hgone : base.provider.Gone e) :
    Unusable w r ∨ (BoundSince base w r ∧ ∃ c, Footing base r c ∧ ¬spared c) ∨ Uncovers base w r := by
  by_cases hlive : ∃ kind e, StandsFor w r kind e
  case neg => exact .inl (unusable_of_stale fun kind e hstands => hlive ⟨kind, e, hstands⟩)
  obtain ⟨kind', e', hstands⟩ := hlive
  obtain ⟨wrapped, hfound, hheld, halive⟩ := id hstands
  cases hbare : w.attrAt r capsuleAttr with
  | some own =>
      obtain rfl : own = wrapped := by
        have hfirst : lookup w r capsuleAttr = some own := by
          rw [lookup_eq, show ownAttr? w r capsuleAttr = some own from hbare]
          rfl
        exact Option.some.inj (hfirst.symm.trans hfound)
      rcases h.capsule_cases hrooted (.inl rfl) hbare hheld with ⟨hold, hheld'⟩ | ⟨hnew, hcreated⟩
      · -- the proxy still has the capsule that it had, and what that names is gone
        have hsame : Names base r kind' e' := by
          refine ⟨own, ?_, hheld'⟩
          rw [lookup_eq, show ownAttr? base r capsuleAttr = some own from hold]
          rfl
        obtain ⟨-, rfl⟩ := hnames.unique hsame
        exact absurd halive (by simp [(hgone.mono h.onward.provider).gone])
      · exact .inr (.inl ⟨⟨kind', e', hstands, hnew⟩, r, .inl rfl, hcreated⟩)
  | none =>
      obtain ⟨c, hc, hown⟩ := found_on_footing hfound (by decide)
      have hc : Footing base r c := h.onward.footing hrooted.there hc
      rcases h.capsule_cases hrooted hc hown hheld with ⟨hold, hheld'⟩ | ⟨hnew, hcreated⟩
      · rcases hc with rfl | hc
        · exact absurd (hbare.symm.trans hown) (by simp)
        · exact .inr (.inr ⟨hbare, c, hc, wrapped, kind', e', hold, hheld', hstands⟩)
      · exact .inr (.inl ⟨⟨kind', e', hstands, hnew⟩, c, hc, hcreated⟩)

/-- A clean-up that succeeds deletes what the participant contains, unless the provider's answer was
a false success. -/
theorem Bridge.cleanup_eq_ok
    (hfaults : ∀ left, Gate.takeFault .deleteContainedEntities w.faults ≠ some (.ok, left))
    (h : (Bridge.cleanup (host inner invoke) proxy).apply w = (.ok (), w')) :
    ∃ p s, StandsFor w proxy .participant p ∧ w.provider.deleteContained p = (.ok (), s) ∧
      w' = pruneCallbacks (w.advance s) := by
  obtain ⟨p, hstands, hrest⟩ := resolveAs_bind_eq_ok h
  obtain ⟨code, w₁, hrun, hrest⟩ := Action.apply_bind_eq_ok_iff.mp hrest
  obtain ⟨_, w₂, hcheck, hprune⟩ := Action.apply_bind_eq_ok_iff.mp hrest
  -- no code but the one for success passes the check
  have hcode : code = .ok ∧ w₂ = w₁ := by
    unfold Gate.check at hcheck
    split at hcheck
    · rename_i hok
      cases hcheck
      exact ⟨by simpa [ReturnCode.isOk] using hok, rfl⟩
    · exact absurd (congrArg Prod.fst hcheck) (by simp)
  obtain ⟨rfl, rfl⟩ := hcode
  cases hprune
  rw [Gate.run_apply] at hrun
  split at hrun
  · rcases hcleaned : w.provider.deleteContained p with ⟨code | _, s⟩
    · rw [hcleaned] at hrun
      cases hrun
      exact absurd (congrArg Prod.fst hcleaned) State.deleteContained_ne_ok
    · rw [hcleaned] at hrun
      cases hrun
      exact ⟨p, s, hstands, hcleaned, rfl⟩
  · rename_i left hfault
    cases hrun
    exact absurd hfault (hfaults _)

/-- After a clean-up that succeeded, everything that the participant contained is gone. -/
theorem Bridge.gone_of_cleanup (hwf : w.provider.WellFormed) (htypes : w.TypesFree Unreserved)
    (hfaults : ∀ left, Gate.takeFault .deleteContainedEntities w.faults ≠ some (.ok, left))
    (h : (Bridge.cleanup (host inner invoke) proxy).apply w = (.ok (), w')) :
    w.Since spared w' ∧ ∃ p, StandsFor w proxy .participant p ∧
      ∀ e ∈ w.provider.contained p, w'.provider.Gone e := by
  obtain ⟨p, s, hstands, hcleaned, rfl⟩ := Bridge.cleanup_eq_ok hfaults h
  have hgoes := (w.provider.deleteContained_calm p).goes
  rw [hcleaned] at hgoes
  have hdeleted : w.Since spared (w.advance s) := World.staysSince_advance hgoes (.refl hwf htypes)
  -- callbacks that are forgotten revive nothing
  have hpruned : ∀ {base : World (Body C)}, base.StaysSince spared (w.advance s)
      (pruneCallbacks (w.advance s)) := fun {_} =>
    Bridge.pruneCallbacks_lawful World.since_steady World.since_turning.noted (w.advance s)
  refine ⟨hpruned hdeleted, p, hstands, fun e he => ?_⟩
  have hgone : (w.advance s).provider.Gone e := by
    obtain ⟨hentities, hlast⟩ := w.advance_provider s
    obtain ⟨hissued, hdead⟩ := State.gone_of_deleteContained hwf hcleaned he
    exact ⟨hlast ▸ hissued, by rwa [State.isAlive, hentities]⟩
  have hlater : (w.advance s).Since spared (pruneCallbacks (w.advance s)) :=
    hpruned (.refl hdeleted.wellFormed hdeleted.types)
  exact hgone.mono hlater.onward.provider

/-- Once a clean-up has deleted what a participant contained, it is gone for good, and no entity that
the provider makes gets a number that was handed out before. In every later world, a proxy that named
some of it is of no use, unless it stands for an entity that was handed out since, and then something
was created since on it or on an object from which it inherits; or it inherits a capsule that came to
light when it lost its own. -/
theorem Bridge.cleanup_leaves_stale (hwf : w₀.provider.WellFormed) (htypes : w₀.TypesFree Unreserved)
    (hbefore : (Rules.since w₀ fun _ => False).Run w₀ w₁)
    (hfaults : ∀ left, Gate.takeFault .deleteContainedEntities w₁.faults ≠ some (.ok, left))
    (hcleanup : (Bridge.cleanup (host inner invoke) proxy).apply w₁ = (.ok (), w₂))
    (hafter : (Rules.since w₂ spared).Run w₂ w) :
    ∃ p, StandsFor w₁ proxy .participant p ∧
      (∀ e ∈ w₁.provider.contained p, e.id ≤ w₂.provider.lastId ∧ w.provider.isAlive e = false) ∧
      (∀ isFile operation e s, w.provider.perform isFile operation = (.entity e, s) →
        w₂.provider.lastId < e.id) ∧
      ∀ r kind e, Rooted w₂ r → Names w₂ r kind e → e ∈ w₁.provider.contained p →
        Unusable w r ∨ (BoundSince w₂ w r ∧ ∃ c, Footing w₂ r c ∧ ¬spared c) ∨ Uncovers w₂ w r := by
  have hstart := Run.since hwf htypes hbefore
  obtain ⟨hcleaned, p, hstands, hgone⟩ : w₁.Since (fun _ => False) w₂ ∧ _ :=
    Bridge.gone_of_cleanup hstart.wellFormed hstart.types hfaults hcleanup
  have hsince := Run.since hcleaned.wellFormed hcleaned.types hafter
  have hprecedes := hsince.onward.provider
  refine ⟨p, hstands, fun e he => ⟨(hgone e he).issued, ((hgone e he).mono hprecedes).gone⟩, ?_, ?_⟩
  · intro isFile operation e s hperform
    obtain ⟨_, -, hadds⟩ := State.perform_adds hperform
    exact Nat.lt_of_le_of_lt hprecedes.lastId_le hadds.fresh
  · exact fun r kind e hrooted hnames he => hsince.proxy_cases hrooted hnames (hgone e he)

end CleanUp

namespace Bridge

/-! A participant with two publishers is cleaned up; the class of one of their proxies is a proxy for
a publisher of another participant. -/

theorem obeyed_since (base : World (Memory.Body Session.Code)) (spared : Ref → Prop) :
    (Rules.since base spared).Obeyed (host stuck Naming.onlyValue) Naming.onlyValue := by
  have hsteady : World.Steady Body.IsNoCapsule Unreserved
      fun w w' => base.Since spared w → (Rules.since base spared).Run w w' :=
    Rules.Run.steady fun hsince hrun => hrun.within since_allows hsince
  have hown : ∀ name ∈ ownNames, Unreserved name := by decide
  exact Naming.nested_onlyValue hsteady (fun _ hplain => hplain.isNoCapsule) hown

/-- The calls that make the entities. -/
def makingCalls : List Call :=
  [.registerTopicType pointType, .init (fun _ => false) {}, .createParticipant ⟨20⟩ 7,
    .createParticipant ⟨21⟩ 7, .registerType ⟨21⟩ ⟨17⟩, .createTopic ⟨22⟩ ⟨21⟩ "points" "Message",
    .createPublisher ⟨23⟩ ⟨20⟩, .createPublisher ⟨24⟩ ⟨20⟩, .createPublisher ⟨19⟩ ⟨21⟩]

/-- The world with the entities. -/
def madeWorld : World (Memory.Body Session.Code) :=
  ((makingCalls.forM (Call.act Naming.onlyHost)).apply Naming.proxyWorld).2

/-- The world in which the first participant is cleaned up. -/
def cleanedWorld : World (Memory.Body Session.Code) :=
  ((Bridge.cleanup Naming.onlyHost ⟨20⟩).apply madeWorld).2

/-- A writer on the proxy that inherits from a class with a capsule. -/
def heirCall : Call := .createWriter ⟨23⟩ ⟨24⟩ ⟨22⟩ none

/-- The world in which this was tried once. -/
def missedWorld : World (Memory.Body Session.Code) :=
  ((heirCall.act Naming.onlyHost).apply cleanedWorld).2

theorem free_proxyWorld : Naming.proxyWorld.TypesFree Unreserved := by
  intro cls s hcls
  rw [Naming.unused_proxyWorld.registry] at hcls
  exact absurd hcls (by simp)

/-- The entities are made, and the first participant is cleaned up. -/
theorem run_cleanedWorld :
    (Rules.since Naming.proxyWorld fun _ => False).Run Naming.proxyWorld madeWorld ∧
    (∀ left, Gate.takeFault .deleteContainedEntities madeWorld.faults ≠ some (.ok, left)) ∧
    (Bridge.cleanup Naming.onlyHost ⟨20⟩).apply madeWorld = (.ok (), cleanedWorld) := by
  have hfacts : ((makingCalls.forM (Call.act Naming.onlyHost)).apply Naming.proxyWorld).1.isOk = true ∧
      madeWorld.faults = [] ∧
      ((Bridge.cleanup Naming.onlyHost ⟨20⟩).apply madeWorld).1.isOk = true := by
    decide +kernel
  obtain ⟨hmade, hfaults, hcleaned⟩ := hfacts
  refine ⟨?_, fun left => by rw [hfaults]; simp [Gate.takeFault], ?_⟩
  · refine Rules.run_of_calls (obeyed_since _ _)
      (fun call hmem w _ => ⟨fun s hs => ?_, fun _ _ => id⟩) hmade
    have htypes : ∀ call ∈ makingCalls, ∀ s, call = .registerTopicType s → s = pointType := by
      simp only [makingCalls, List.forall_mem_cons]
      simp
    rw [htypes call hmem s hs]
    exact pointType_namesFree (by decide) (by decide)
  · rcases hrun : (Bridge.cleanup Naming.onlyHost ⟨20⟩).apply madeWorld with ⟨stop | _, w⟩
    · rw [hrun] at hcleaned
      exact absurd hcleaned (by simp [Except.isOk, Except.toBool])
    · rw [cleanedWorld, hrun]

/-- What is there after the clean-up: each publisher proxy has the capsule of a publisher that the first
participant contained, and one of them inherits another. -/
theorem proxies_cleanedWorld :
    StandsFor madeWorld ⟨20⟩ .participant ⟨1⟩ ∧
    (⟨4⟩ : Handle) ∈ madeWorld.provider.contained ⟨1⟩ ∧
    (⟨5⟩ : Handle) ∈ madeWorld.provider.contained ⟨1⟩ ∧
    Names cleanedWorld ⟨23⟩ .publisher ⟨4⟩ ∧ Names cleanedWorld ⟨24⟩ .publisher ⟨5⟩ ∧
    inherits cleanedWorld ⟨23⟩ = [Builtin.object.ref] ∧
    inherits cleanedWorld ⟨24⟩ = [⟨19⟩, Builtin.object.ref] := by
  decide +kernel

/-- The other proxy gets a subscriber of the participant that is left. -/
def laterCalls : List Call := [.createSubscriber ⟨24⟩ ⟨21⟩]

/-- The world after that. -/
def laterWorld : World (Memory.Body Session.Code) :=
  ((laterCalls.forM (Call.act Naming.onlyHost)).apply cleanedWorld).2

theorem footing_cleanedWorld {c : Ref} (h : Footing cleanedWorld ⟨23⟩ c) :
    c = ⟨23⟩ ∨ c = Builtin.object.ref := by
  obtain ⟨-, -, -, -, -, hup, -⟩ := proxies_cleanedWorld
  rcases h with rfl | hc
  · exact .inl rfl
  · rw [hup] at hc
    exact .inr (List.mem_singleton.mp hc)

theorem run_laterWorld :
    (Rules.since cleanedWorld (Footing cleanedWorld ⟨23⟩)).Run cleanedWorld laterWorld := by
  have hok : ((laterCalls.forM (Call.act Naming.onlyHost)).apply cleanedWorld).1.isOk = true := by
    decide +kernel
  refine Rules.run_of_calls (obeyed_since _ _) (fun call hmem w _ => ?_) hok
  obtain rfl := List.mem_singleton.mp hmem
  refine ⟨nofun, fun proxy hproxy hfooting => ?_⟩
  cases hproxy
  exact absurd (footing_cleanedWorld hfooting) (by decide)

/-- A writer on the publisher proxy without a capsule to inherit fails later on. -/
theorem cleanup_leaves_stale_publisher : ∃ expected w',
    ((Call.createWriter ⟨24⟩ ⟨23⟩ ⟨22⟩ none).act Naming.onlyHost).apply laterWorld =
      (.error (.raised (.handleMissing "publisher" expected)), w') ∧
    w'.attrAt ⟨23⟩ capsuleAttr = none := by
  obtain ⟨hbefore, hfaults, hcleanup⟩ := run_cleanedWorld
  obtain ⟨hparticipant, hmem, -, hnames, -, hup, -⟩ := proxies_cleanedWorld
  have hfacts : cleanedWorld.attrAt Builtin.object.ref capsuleAttr = none ∧
      ((cleanedWorld.attrAt ⟨23⟩ capsuleAttr).all fun r => r.id < cleanedWorld.heap.size) = true ∧
      23 < cleanedWorld.heap.size ∧ laterWorld.bridge.initialized = true ∧
      Names laterWorld ⟨23⟩ .publisher ⟨4⟩ := by
    decide +kernel
  obtain ⟨hnone, hthere, hlt, hinit, hnamed⟩ := hfacts
  obtain ⟨p, hstands, -, -, hproxies⟩ := cleanup_leaves_stale Naming.unused_proxyWorld.wellFormed
    free_proxyWorld hbefore hfaults hcleanup run_laterWorld
  obtain ⟨-, rfl⟩ := (standsFor_iff.mp hparticipant).1.unique (standsFor_iff.mp hstands).1
  have hrooted : Rooted cleanedWorld ⟨23⟩ := by
    refine ⟨fun c hc => ?_, fun c wrapped hc hattr => ?_⟩
    · rcases footing_cleanedWorld hc with rfl | rfl
      · exact hlt
      · exact Nat.lt_trans (by decide) hlt
    · rcases footing_cleanedWorld hc with rfl | rfl
      · rw [hattr] at hthere
        simpa using hthere
      · exact absurd (hnone.symm.trans hattr) (by simp)
  rcases hproxies ⟨23⟩ .publisher ⟨4⟩ hrooted hnames hmem with hunusable | ⟨-, c, hc, hnot⟩ | huncovers
  · obtain ⟨-, hmisses⟩ := hunusable _ _ (.createWriter ⟨24⟩ ⟨23⟩ ⟨22⟩ none)
      ⟨⟨23⟩, some .publisher, "publisher"⟩ List.mem_cons_self rfl fun _ => hinit
    obtain ⟨expected, w', hrun, hlost⟩ := hmisses [] _ rfl (by simp)
    exact ⟨expected, w', hrun, hlost .publisher ⟨4⟩ hnamed fun _ hkind => Option.some.inj hkind⟩
  · exact absurd hc hnot
  · obtain ⟨c, hc, wrapped, _, _, hattr, -⟩ := huncovers.inherited
    rw [hup] at hc
    obtain rfl := List.mem_singleton.mp hc
    exact absurd (hnone.symm.trans hattr) (by simp)

/-- A publisher proxy whose class is a proxy for a live publisher is missed once. Then it has lost its
capsule, and though nothing was created meanwhile on it or on what it inherits from, it is of use. -/
theorem stale_proxy_uncovers :
    (Rules.since Naming.proxyWorld fun _ => False).Run Naming.proxyWorld madeWorld ∧
    (Bridge.cleanup Naming.onlyHost ⟨20⟩).apply madeWorld = (.ok (), cleanedWorld) ∧
    (∃ p e, StandsFor madeWorld ⟨20⟩ .participant p ∧ e ∈ madeWorld.provider.contained p ∧
      Names cleanedWorld ⟨24⟩ .publisher e) ∧
    (Rules.since cleanedWorld (Footing cleanedWorld ⟨24⟩)).Run cleanedWorld missedWorld ∧
    ¬Unusable missedWorld ⟨24⟩ := by
  obtain ⟨hbefore, -, hcleanup⟩ := run_cleanedWorld
  obtain ⟨hparticipant, -, hmem, -, hnames, -, hup⟩ := proxies_cleanedWorld
  have hfacts :
      (((heirCall.act Naming.onlyHost).attempt : Action _ Error _).apply cleanedWorld).1.isOk = true ∧
      missedWorld.bridge.initialized = true ∧
      ((heirCall.act Naming.onlyHost).apply missedWorld).1.isOk = true := by
    decide +kernel
  obtain ⟨hcomplete, hinit, hok⟩ := hfacts
  refine ⟨hbefore, hcleanup, ⟨⟨1⟩, ⟨5⟩, hparticipant, hmem, hnames⟩, ?_,
    fun hunusable => ?_⟩
  · refine .ofCall (obeyed_since _ _) ⟨nofun, fun proxy hproxy hfooting => ?_⟩
      (Action.ne_endless_of_attempt hcomplete)
    cases hproxy
    rcases hfooting with hsame | hc
    · exact absurd hsame (by decide)
    · rw [hup] at hc
      exact absurd hc (by decide)
  · obtain ⟨⟨role, expected, w', hrun⟩, -⟩ := hunusable (host stuck Naming.onlyValue) Naming.onlyValue
      heirCall ⟨⟨24⟩, some .publisher, "publisher"⟩ List.mem_cons_self rfl fun _ => hinit
    have hrun : (heirCall.act Naming.onlyHost).apply missedWorld = _ := hrun
    rw [hrun] at hok
    exact absurd hok (by simp [Except.isOk, Except.toBool])

end Bridge

end DdsBridge
