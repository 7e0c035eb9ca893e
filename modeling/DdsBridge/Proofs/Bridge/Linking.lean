import DdsBridge.Proofs.Bridge.Endpoints
import DdsBridge.Proofs.Bridge.Naming
import DdsBridge.Proofs.Host.Memory.Unguarded

/-!
# Creations that keep to type names

Each operation that creates an entity stores some of the three attributes that the bridge keeps on
proxies. It keeps to a naming if the host asked for the type name that the topic proxy has in it, in
every later world, since host code can run before the entity is made and between two assignments.

A writer or reader proxy that is created again on a topic of another type gets its link before its
capsule, so it serves for no type name in between. Where no guard watches over the proxy, nothing
runs there, and the two assignments are one step.

* **`Naming.create_keeps`** — the provider's answer, with the type name of the new entity.
* **`Naming.bindEntity_keeping`**, **`Naming.linkType_keeping`** — single assignments.
* **`Naming.bindEndpoint_keeping`** — the two assignments on a proxy that keeps to a type name.
* **`Naming.bindEndpoint_unguarded`** — the two assignments on a proxy without a guard.
* **`Naming.createTopic_keeping`**, **`Naming.createEndpoint_keeps`**, … — the operations.
-/

namespace DdsBridge.Naming

open Memory
open DdsBridge.Action (Within WithinAt)
open Provider (Method State)

variable {C : Type} [HostCode C] {n : Naming} {w w' : World (Body C)}
variable {inner : Host (Body C)} {invoke : C → List Ref → MemoryAction C Ref}
variable {α : Type} {kind : EntityKind} {e : Handle} {proxy topic wrapped : Ref} {typeName : String}

omit [HostCode C] in
/-- What follows an action that keeps to the naming begins in a world that agrees with it. -/
theorem Kept.after {ε : Type} {x : Action (Body C) ε α} {a : α} (hkept : n.Kept w)
    (hx : x.WithinAt n.Keeps w) (hrun : x.apply w = (.ok a, w')) : n.Kept w' ∧ w.Onward w' := by
  unfold WithinAt at hx
  rw [hrun] at hx
  exact hx (by simp) hkept

/-- A creation: the provider's answer, and what is done with the new entity, which has the type names
that the provider made it with. -/
theorem create_keeps (hkept : n.Kept w) {method : Method} {op : State → Provider.Result Handle}
    {name : String} {f : Handle → BridgeAction (Body C) α}
    (hmakes : w.provider.Makes kind (op w.provider))
    (hf : ∀ e s, op w.provider = (.ok e, s) → w.Onward (w.advance s) → n.Kept (w.advance s) →
      (∀ typeName, s.Typed e kind typeName → (w.advance s).provider.Typed e kind typeName) →
        (f e).WithinAt n.Keeps (w.advance s)) :
    WithinAt n.Keeps (do
      let result ← Gate.fetch method op
      let e ← Gate.expect name result
      f e) w := by
  refine Gate.create_withinAt keeps_steady hmakes.keeps (keeps_advance (.refl _)) ?_
  intro e s hs hends
  have hgoes := (hmakes.adds hs).goes
  obtain ⟨hwf, -⟩ := hgoes hkept.wellFormed
  obtain ⟨hkept', ho⟩ := keeps_advance hgoes hkept
  obtain ⟨hentities, hlast⟩ := w.advance_provider s
  have hsettled : s.Goes (w.advance s).provider :=
    .of_entities hentities (Nat.le_of_eq hlast.symm)
  refine keeps_steady.trans (keeps_advance hgoes) (hf e s hs ho hkept' (fun typeName htyped => ?_) hends)
  exact htyped.mono hwf (hsettled hwf).2

section Assignments

variable (hh : (host inner invoke).Acts HostName n.Keeps)
  (hcall : ∀ callable args, (inner.call callable args).Within n.Keeps) (hkept : n.Kept w)
include hcall hkept

/-- The capsule of an entity that is no writer or reader on its proxy. -/
theorem bindEntity_keeping (habove : ¬n.above proxy) (hkind : ¬kind.IsEndpoint)
    (htyped : ∀ typeName, n.topicName proxy = some typeName → kind = .topic →
      w.provider.Typed e kind typeName) :
    n.Keeping w (Bridge.bindEntity (host inner invoke) proxy kind e) := by
  have hbind : n.Keeping w (do
      let capsule ← Bridge.capsuleFor kind e
      let wrapped ← ((host inner invoke).newCapsule capsule : HostAction (Body C) Ref)
      let store : HostAction (Body C) Unit :=
        (host inner invoke).setAttr proxy Proxies.capsuleAttr wrapped
      Action.holding [wrapped] (store : BridgeAction (Body C) Unit)
      return ()) := by
    refine capsule_keeping hkept fun wrapped w₁ ho hkept₁ hwraps => ?_
    have hallows : n.Allows w₁ proxy Proxies.capsuleAttr wrapped :=
      { not_above := habove
        topic := fun hnamed => .ofCapsule (hwraps _ _ (htyped _ hnamed))
        endpoint := fun _ => .inr fun typeName =>
          .ofCapsule (hwraps _ typeName fun hendpoint => absurd hendpoint hkind) }
    have hstore : n.Keeping w₁ ((host inner invoke).setAttr proxy Proxies.capsuleAttr wrapped) :=
      setAttr_keeping hcall hkept₁ not_hostName_capsule hallows
    exact .bind (.holding (.lift hstore)) fun _ _ _ _ _ _ => .of_within (.pure keeps_steady ())
  simpa only [Bridge.bindEntity, Proxies.bind, bind_assoc, pure_bind] using hbind

include hh

theorem restoreTopic_keeping {previous : Option Ref}
    (hallows : ∀ topic, previous = some topic → n.Allows w proxy Registry.topicAttr topic) :
    n.Keeping w (Bridge.restoreTopic (host inner invoke) proxy previous) := by
  refine .bind (.attempt ?_) fun _ _ _ _ _ _ => .of_within (.pure keeps_steady ())
  cases previous with
  | none => exact .of_within (hh.delAttr proxy _)
  | some topic => exact setAttr_keeping hcall hkept not_hostName_topic (hallows topic rfl)

omit hkept in
/-- The class of a topic proxy is that of the type name for which the proxy serves. -/
theorem linkType_keeping (habove : ¬n.above proxy)
    (hfit : ∀ found, n.topicName proxy = some found → found = typeName) :
    n.Keeping w (Bridge.linkType (host inner invoke) proxy typeName) := by
  refine .bind (.of_within (.attempt (hh.getAttr proxy _))) fun found _ w₁ _ ho hkept₁ => ?_
  cases found with
  | ok => exact .of_within (.pure keeps_steady ())
  | error error =>
      refine .world fun w₂ ho' hkept₂ => ?_
      split
      · exact .of_within (.pure keeps_steady ())
      · rename_i cls s hfound
        -- the registered class has the type name, and so the naming has it for the class
        have hentry := List.mem_of_find?_eq_some hfound
        have hname : s.head.typeName = typeName := by simpa using List.find?_some hfound
        have hclass := (hkept₂.registered (Table.mem_entries_iff.mp hentry)).1
        have hallows : n.Allows w₂ proxy Registry.typeAttr cls :=
          { not_above := habove
            topic := fun hnamed => .ofType (by rw [← hclass, hname, hfit _ hnamed])
            endpoint := fun _ => .inr fun _ => .ofType }
        exact .lift (setAttr_keeping hcall hkept₂ not_hostName_type hallows)

/-- The link to the topic proxy and the capsule of a new endpoint, which both suit a proxy that keeps to
a type name, or the link that the proxy had. -/
theorem bindEndpoint_keeping (habove : ¬n.above proxy) (hkind : kind.IsEndpoint)
    (hsettled : n.endpoint proxy → ∃ typeName ∈ n.keptName proxy, n.Proxy w proxy ∧ n.Proxy w topic ∧
      n.topicName topic = some typeName ∧ w.provider.Typed e kind typeName) :
    n.Keeping w (Bridge.bindEndpoint (host inner invoke) proxy kind e topic) := by
  refine capsule_keeping hkept fun wrapped w₁ ho hkept₁ hwraps => ?_
  refine .bind (.of_within (.attempt (hh.getAttr proxy _)))
    fun previous w₀ w₂ hprevious ho₂ hkept₂ => ?_
  obtain ⟨rfl, hfound⟩ := getAttr_attempt_eq_ok hprevious
  have ho' := ho.trans ho₂
  have hnoTopic : kind ≠ .topic := by rcases hkind with rfl | rfl <;> decide
  -- all three values suit the proxy
  have hcapsule : n.Allows w₂ proxy Proxies.capsuleAttr wrapped :=
    { not_above := habove
      topic := fun {typeName} _ => .ofCapsule
        ((hwraps _ typeName fun h => absurd h hnoTopic).mono hkept₁.wellFormed ho₂)
      endpoint := fun hproxy => by
        obtain ⟨typeName, hname, -, -, -, htyped⟩ := hsettled hproxy
        exact .inl ⟨typeName, hname,
          .ofCapsule ((hwraps _ typeName fun _ => htyped).mono hkept₁.wellFormed ho₂)⟩ }
  have htopic : n.Allows w₂ proxy Registry.topicAttr topic :=
    { not_above := habove
      topic := fun _ => .ofTopic
      endpoint := fun hproxy => by
        obtain ⟨typeName, hname, -, htopic, hnamed, -⟩ := hsettled hproxy
        exact .inl ⟨typeName, hname, .ofTopic hnamed (htopic.mono ho')⟩ }
  have hrestored : ∀ topic, previous.toOption = some topic →
      n.Allows w₂ proxy Registry.topicAttr topic := by
    refine fun topic hsome => ⟨habove, fun _ => .ofTopic, fun hproxy => ?_⟩
    obtain ⟨typeName, hname, hthere, -⟩ := hsettled hproxy
    obtain ⟨served, hkeeps, hserves⟩ := hkept₂.endpoint hproxy
    rw [hsome, hkept₂.lookup_eq (hthere.mono ho') not_hostName_topic] at hfound
    exact .inl ⟨typeName, hname, hkeeps typeName hname ▸ hserves _ _ not_hostName_topic hfound.symm⟩
  refine .holding (.bind (.lift (setAttr_keeping hcall hkept₂ not_hostName_topic htopic))
    fun _ _ w₃ _ ho₃ hkept₃ => ?_)
  refine .bind (.attempt (setAttr_keeping hcall hkept₃ not_hostName_capsule
    (hcapsule.mono hkept₂ ho₃))) fun stored _ w₄ _ ho₄ hkept₄ => ?_
  cases stored with
  | ok => exact .of_within (.pure keeps_steady ())
  | error error =>
      have hrestore : n.Keeping w₄
          (Bridge.restoreTopic (host inner invoke) proxy previous.toOption) :=
        restoreTopic_keeping hh hcall hkept₄ fun topic hsome =>
          (hrestored topic hsome).mono hkept₂ (ho₃.trans ho₄)
      exact .bind hrestore fun _ _ _ _ _ _ => .of_within (.raise keeps_steady _)

end Assignments

/-! ## Two assignments without a guard -/

/-- The naming that leaves one proxy out of account. -/
def without (n : Naming) (proxy : Ref) : Naming :=
  { n with endpoint := fun r => n.endpoint r ∧ r ≠ proxy }

omit [HostCode C] in
theorem Proxy.of_above {m : Naming} {r : Ref} (h : n.Proxy w r) (habove : m.above = n.above) :
    m.Proxy w r where
  there := h.there
  not_above := habove ▸ h.not_above
  not_class := h.not_class
  lineage := habove ▸ h.lineage

omit [HostCode C] in
theorem Serves.of_same {m : Naming} {r : Ref} (h : n.Serves w r typeName)
    (htopicName : m.topicName = n.topicName) (habove : m.above = n.above) :
    m.Serves w r typeName := fun name value hname hattr =>
  { topic := fun hn => by
      obtain ⟨hnamed, hproxy⟩ := (h name value hname hattr).topic hn
      exact ⟨htopicName ▸ hnamed, hproxy.of_above habove⟩
    capsule := (h name value hname hattr).capsule }

omit [HostCode C] in
/-- Namings that differ only in what they say of writer and reader proxies. -/
theorem Kept.of_same {m : Naming} (h : n.Kept w) (htopicName : m.topicName = n.topicName)
    (hclassName : m.className = n.className) (habove : m.above = n.above)
    (hendpoint : ∀ {r}, m.endpoint r →
      ∃ typeName, (∀ kept ∈ m.keptName r, kept = typeName) ∧ n.Serves w r typeName) : m.Kept w where
  wellFormed := h.wellFormed
  registered := hclassName ▸ h.registered
  above := habove ▸ h.above
  topic := fun hnamed hname hattr =>
    let hsuits := h.topic (htopicName ▸ hnamed) hname hattr
    ⟨hclassName ▸ hsuits.type, hsuits.capsule⟩
  endpoint := fun hr =>
    let ⟨typeName, hkeeps, hserves⟩ := hendpoint hr
    ⟨typeName, hkeeps, hserves.of_same htopicName habove⟩

omit [HostCode C] in
theorem Kept.without (h : n.Kept w) (proxy : Ref) : (n.without proxy).Kept w :=
  h.of_same rfl rfl rfl fun hr => h.endpoint hr.1

omit [HostCode C] in
/-- The proxy that was left out of account serves for a type name again. -/
theorem Kept.of_without (h : (n.without proxy).Kept w)
    (hserves : ∃ typeName, (∀ kept ∈ n.keptName proxy, kept = typeName) ∧ n.Serves w proxy typeName) :
    n.Kept w := by
  refine h.of_same rfl rfl rfl fun {r} hr => ?_
  by_cases hsame : r = proxy
  · obtain ⟨typeName, hkeeps, hserves⟩ := hserves
    subst hsame
    exact ⟨typeName, hkeeps, hserves.of_same rfl rfl⟩
  · exact h.endpoint ⟨hr, hsame⟩

omit [HostCode C] in
/-- No guard comes for a proxy unless one is assigned. -/
theorem Proxy.noGuard (hproxy : n.Proxy w proxy) (ho : w.Onward w')
    (hback : ∀ c x, w'.attrAt c "__setattr__" = some x → w.attrAt c "__setattr__" = some x)
    (hguard : guardOf w proxy = none) : guardOf w' proxy = none := by
  unfold guardOf at hguard ⊢
  split
  · rename_i cls value hbody
    have hold : body? w proxy = some (.instance cls value) := ho.body hproxy.there hbody
    rw [hold] at hguard
    refine List.findSome?_eq_none_iff.mpr fun c hc =>
      Option.eq_none_iff_forall_ne_some.mpr fun x hx => ?_
    have hmem := ho.lineage (hproxy.lineage hold).1 hc
    have hnone : w.attrAt c "__setattr__" = none := List.findSome?_eq_none_iff.mp hguard c hmem
    rw [hback c x hx] at hnone
    exact absurd hnone (by simp)
  · rfl

omit [HostCode C] in
theorem attrAt_of_gone {r : Ref} (hgone : body? w r = none) (name : String) :
    w.attrAt r name = none := by
  rw [World.attrAt, Option.map_eq_none_iff.mp hgone]
  rfl

/-- A proxy that is gone takes no link, and nothing happens. -/
theorem restoreTopic_of_gone (hgone : body? w proxy = none) (previous : Option Ref) :
    (Bridge.restoreTopic (host inner invoke) proxy previous).apply w = (.ok (), w) := by
  cases previous with
  | some topic =>
      have hguard : guardOf w proxy = none := by rw [guardOf, hgone]
      rcases setAttr_of_noGuard inner hguard Registry.topicAttr topic with
        ⟨htakes, -⟩ | ⟨-, error, hfails⟩
      · rw [hgone] at htakes
        cases htakes
      · exact Action.apply_bind_of_ok (Action.apply_attempt_of_error hfails)
  | none =>
      have hown : ownAttr? w proxy Registry.topicAttr = none := attrAt_of_gone hgone _
      have hfails : ((host inner invoke).delAttr proxy Registry.topicAttr).apply w =
          (.error (.raised (noAttribute w proxy Registry.topicAttr)), w) := by
        show (delAttr proxy Registry.topicAttr : MemoryAction C Unit).apply w = _
        rw [delAttr, Action.apply_bind_of_ok (Action.apply_world w), hown]
        rfl
      exact Action.apply_bind_of_ok (Action.apply_attempt_of_error hfails)

/-- The link and the capsule of a proxy without a guard are stored one after the other. The proxy may
serve for another type name afterwards. -/
theorem linkEndpoint_unguarded (hkept : n.Kept w) (hproxy : n.Proxy w proxy)
    (hfree : n.keptName proxy = none) (hguard : guardOf w proxy = none)
    (htopic : n.SuitsEndpoint w typeName Registry.topicAttr topic)
    (hcapsule : n.SuitsEndpoint w typeName Proxies.capsuleAttr wrapped)
    (hnoTopic : ∀ typeName, Wraps w (· = .topic) wrapped typeName) (previous : Option Ref) :
    (Bridge.linkEndpoint (host inner invoke) proxy topic wrapped previous).WithinAt n.Keeps w := by
  refine .of_rel fun _ => ?_
  have hany : ∀ kept ∈ n.keptName proxy, kept = typeName := fun _ h => by rw [hfree] at h; cases h
  rcases setAttr_of_noGuard inner hguard Registry.topicAttr topic with
    ⟨htakes, hstored⟩ | ⟨-, error, hfails⟩
  · have hstored : (liftM ((host inner invoke).setAttr proxy Registry.topicAttr topic) :
        BridgeAction (Body C) Unit).apply w = _ := Action.apply_lift_of_ok hstored
    -- between the two assignments the proxy is left out of account
    have hallowed : (n.without proxy).Allows w proxy Registry.topicAttr topic :=
      ⟨hproxy.not_above, fun _ => .ofTopic, fun h => absurd rfl h.2⟩
    obtain ⟨hkept₁, ho₁⟩ := keeps_storeAttr not_hostName_topic hallowed (hkept.without proxy)
    have hback : ∀ c x, (w.storeAttr proxy Registry.topicAttr topic).attrAt c "__setattr__" = some x →
        w.attrAt c "__setattr__" = some x := by
      intro c x hx
      by_cases hc : c = proxy
      · subst hc
        have hown := World.storeAttr_own hx
        rwa [if_neg (by decide)] at hown
      · exact (World.storeAttr_back w proxy _ _).2 hc hx
    have hguard₁ := hproxy.noGuard ho₁ hback hguard
    rcases setAttr_of_noGuard inner hguard₁ Proxies.capsuleAttr wrapped with
      ⟨-, hstored₁⟩ | ⟨hrefused, error, hfails₁⟩
    · have hlink : (Bridge.linkEndpoint (host inner invoke) proxy topic wrapped previous).apply w = _ :=
        (Action.apply_bind_of_ok hstored).trans
          (Action.apply_bind_of_ok (Action.apply_attempt_of_ok hstored₁))
      have hallowed₁ : (n.without proxy).Allows (w.storeAttr proxy Registry.topicAttr topic) proxy
          Proxies.capsuleAttr wrapped :=
        ⟨hproxy.not_above, fun _ => .ofCapsule ((hnoTopic _).mono hkept.wellFormed ho₁),
          fun h => absurd rfl h.2⟩
      obtain ⟨hkept₂, ho₂⟩ := keeps_storeAttr not_hostName_capsule hallowed₁ hkept₁
      have ho := ho₁.trans ho₂
      rw [hlink]
      refine ⟨hkept₂.of_without ⟨typeName, hany, fun name x _ hx => ?_⟩, ho⟩
      -- the link and the capsule that are found are those that were stored
      have hown := World.storeAttr_own hx
      split at hown
      · rename_i hn
        subst hn hown
        exact hcapsule.mono hkept.wellFormed ho
      · rename_i hcapsuleName
        have hbefore := World.storeAttr_own hown
        split at hbefore
        · rename_i hn
          subst hn hbefore
          exact htopic.mono hkept.wellFormed ho
        · rename_i htopicName
          exact ⟨fun hn => absurd hn htopicName, fun hn => absurd hn hcapsuleName⟩
    · -- the proxy went with the link that it had before, and nothing is stored on it
      have hgone : body? (w.storeAttr proxy Registry.topicAttr topic) proxy = none := by
        refine Option.eq_none_iff_forall_ne_some.mpr fun body hbody => ?_
        have hold : body? w proxy = some body := (World.storeAttr_back w proxy _ _).1 hbody
        rw [hold] at htakes
        rw [hbody, htakes] at hrefused
        cases hrefused
      have hlink : (Bridge.linkEndpoint (host inner invoke) proxy topic wrapped previous).apply w = _ :=
        ((Action.apply_bind_of_ok hstored).trans
          (Action.apply_bind_of_ok (Action.apply_attempt_of_error hfails₁))).trans
            (Action.apply_bind_of_ok (restoreTopic_of_gone hgone previous))
      rw [hlink]
      refine ⟨hkept₁.of_without ⟨typeName, hany, fun name x _ hx => ?_⟩, ho₁⟩
      rw [attrAt_of_gone hgone] at hx
      cases hx
  · have hfails : (liftM ((host inner invoke).setAttr proxy Registry.topicAttr topic) :
        BridgeAction (Body C) Unit).apply w = _ := Action.apply_lift_of_error hfails
    have hlink : (Bridge.linkEndpoint (host inner invoke) proxy topic wrapped previous).apply w = _ :=
      Action.apply_bind_of_error hfails
    rw [hlink]
    exact ⟨hkept, .refl w⟩

/-- The link and the capsule of a new endpoint on a proxy without a guard, which serves for the type
name of its topic proxy from then on. -/
theorem bindEndpoint_unguarded (hkept : n.Kept w) (hproxy : n.Proxy w proxy)
    (hfree : n.keptName proxy = none) (hguard : guardOf w proxy = none) (htopic : n.Proxy w topic)
    (hnamed : n.topicName topic = some typeName) (hkind : kind.IsEndpoint)
    (htyped : w.provider.Typed e kind typeName) :
    (Bridge.bindEndpoint (host inner invoke) proxy kind e topic).WithinAt n.Keeps w := by
  have hnoTopic : kind ≠ .topic := by rcases hkind with rfl | rfl <;> decide
  let previous := lookup (Bridge.withCapsule w kind e) proxy Registry.topicAttr
  let held := Bridge.holdingCapsule w kind e previous
  have hmade : n.Keeps w (Bridge.withCapsule w kind e) := keeps_steady.quiet (.alloc w trivial)
  have hheld : n.Keeps w held := keeps_steady.trans hmade (keeps_steady.handling _ _ _ _)
  obtain ⟨hkept₁, ho⟩ := hheld hkept
  -- the new object is no class, and comes without attributes
  have hback : ∀ c x, held.attrAt c "__setattr__" = some x → w.attrAt c "__setattr__" = some x := by
    intro c x hx
    rcases World.alloc_attrAt w ⟨.empty, .capsule (Bridge.newHold w kind e)⟩ hx with hold | ⟨-, hnew⟩
    · exact hold
    · exact absurd hnew (by simp)
  have hwraps : ∀ {kinds : EntityKind → Prop} {found}, (kinds kind → w.provider.Typed e kind found) →
      Wraps held kinds ⟨w.heap.size⟩ found := fun hfound => by
    have hnew := wraps_new (w := w) (Bridge.newHold w kind e) hfound
    exact ⟨hnew.there, hnew.typed⟩
  have hlink : (Bridge.linkEndpoint (host inner invoke) proxy topic ⟨w.heap.size⟩ previous).WithinAt
      n.Keeps held :=
    linkEndpoint_unguarded hkept₁ (hproxy.mono ho) hfree (hproxy.noGuard ho hback hguard)
      (.ofTopic hnamed (htopic.mono ho)) (.ofCapsule (hwraps fun _ => htyped))
      (fun _ => hwraps fun h => absurd h hnoTopic) previous
  rcases hrun : (Bridge.linkEndpoint (host inner invoke) proxy topic ⟨w.heap.size⟩ previous).apply held
    with ⟨result, w₁⟩
  unfold WithinAt at hlink ⊢
  rw [hrun] at hlink
  rw [Bridge.bindEndpoint_apply rfl hrun]
  intro hends
  exact keeps_steady.trans (keeps_steady.trans hheld (hlink hends))
    (keeps_steady.trans (keeps_steady.handling w₁ _ _ _) (keeps_steady.collectAll _))

/-! ## The operations -/

section Operations

variable (hh : (host inner invoke).Acts HostName n.Keeps)
  (hcall : ∀ callable args, (inner.call callable args).Within n.Keeps)
include hh hcall

omit hh in
/-- An entity that is no topic and no endpoint suits every proxy. -/
theorem createEntity_keeping (habove : ¬n.above proxy) (hkind : ¬kind.IsEndpoint)
    (hnoTopic : kind ≠ .topic) {method : Method} {name : String} {op : State → Provider.Result Handle}
    (hmakes : ∀ s : State, s.Makes kind (op s)) :
    n.Keeping w (do
      let result ← Gate.fetch method op
      let e ← Gate.expect name result
      Bridge.bindEntity (host inner invoke) proxy kind e) :=
  fun _ _ hkept => create_keeps hkept (hmakes _) fun _ _ _ _ hkept' _ =>
    bindEntity_keeping hcall hkept' habove hkind (fun _ _ h => absurd h hnoTopic) _ (.refl _) hkept'

omit hh in
theorem createParticipant_keeping (habove : ¬n.above proxy) (domain : DomainId) :
    n.Keeping w (Bridge.createParticipant (host inner invoke) proxy domain) := by
  refine .bind (.of_within (Bridge.requireInit_within keeps_steady _)) fun _ _ w₁ _ _ _ => ?_
  exact createEntity_keeping hcall habove (by decide) (by decide) (·.createParticipant_makes domain)

theorem createPublisher_keeping (habove : ¬n.above proxy) (participant : Ref) :
    n.Keeping w (Bridge.createPublisher (host inner invoke) proxy participant) := by
  refine .bind (.of_within (Bridge.requireInit_within keeps_steady _)) fun _ _ w₁ _ _ _ => ?_
  refine .bind (.of_within (Proxies.resolveAs_within keeps_steady hh.toReads participant _ _))
    fun p _ w₂ _ _ _ => ?_
  exact createEntity_keeping hcall habove (by decide) (by decide) (·.createPublisher_makes p [])

theorem createSubscriber_keeping (habove : ¬n.above proxy) (participant : Ref) :
    n.Keeping w (Bridge.createSubscriber (host inner invoke) proxy participant) := by
  refine .bind (.of_within (Bridge.requireInit_within keeps_steady _)) fun _ _ w₁ _ _ _ => ?_
  refine .bind (.of_within (Proxies.resolveAs_within keeps_steady hh.toReads participant _ _))
    fun p _ w₂ _ _ _ => ?_
  exact createEntity_keeping hcall habove (by decide) (by decide) (·.createSubscriber_makes p [])

/-- A topic is created for the type name of its proxy, if the proxy has one. -/
theorem createTopic_keeping (habove : ¬n.above proxy) (participant : Ref) (name : String)
    (hfit : ∀ found, n.topicName proxy = some found → found = typeName) :
    n.Keeping w (Bridge.createTopic (host inner invoke) proxy participant name typeName) := by
  refine .bind (.of_within (Bridge.requireInit_within keeps_steady _)) fun _ _ w₁ _ _ _ => ?_
  refine .bind (.of_within (Proxies.resolveAs_within keeps_steady hh.toReads participant _ _))
    fun p _ w₂ _ _ _ => ?_
  refine fun w₃ _ hkept => create_keeps hkept (w₃.provider.createTopic_makes p name typeName) ?_
  intro e s hs _ hkept' htyped
  refine Keeping.bind (bindEntity_keeping hcall hkept' habove (by decide) fun found hnamed _ => ?_)
    (fun _ _ w₄ _ _ _ => linkType_keeping hh hcall habove hfit) _ (.refl _) hkept'
  exact hfit found hnamed ▸ htyped _ (State.createTopic_typed hs)

/-- What is asked of the creation of a writer or reader: the topic proxy has a type name, which is the
one that the new proxy keeps to, if it keeps to one. -/
structure Links (n : Naming) (w : World (Body C)) (proxy topic : Ref) : Prop where
  not_above : ¬n.above proxy
  proxies : n.endpoint proxy → ∃ typeName, n.topicName topic = some typeName ∧ n.Proxy w proxy ∧
    n.Proxy w topic ∧ ∀ kept ∈ n.keptName proxy, kept = typeName

omit [HostCode C] hh hcall in
theorem Links.mono (h : n.Links w proxy topic) (ho : w.Onward w') : n.Links w' proxy topic where
  not_above := h.not_above
  proxies := fun hproxy =>
    let ⟨typeName, hnamed, hproxy, htopic, hkeeps⟩ := h.proxies hproxy
    ⟨typeName, hnamed, hproxy.mono ho, htopic.mono ho, hkeeps⟩

/-- A new endpoint, which has the type name of its topic, on a proxy that keeps to this type name or
has no guard. -/
theorem bindEndpoint_keeps (hkept : n.Kept w) (hlinks : n.Links w proxy topic)
    (hkind : kind.IsEndpoint)
    (htyped : ∀ typeName, n.endpoint proxy → n.topicName topic = some typeName →
      w.provider.Typed e kind typeName)
    (hguard : n.endpoint proxy → n.keptName proxy = none → guardOf w proxy = none) :
    (Bridge.bindEndpoint (host inner invoke) proxy kind e topic).WithinAt n.Keeps w := by
  by_cases hfree : n.endpoint proxy ∧ n.keptName proxy = none
  · obtain ⟨hproxy, hfree⟩ := hfree
    obtain ⟨typeName, hnamed, hthere, htopic, -⟩ := hlinks.proxies hproxy
    exact bindEndpoint_unguarded hkept hthere hfree (hguard hproxy hfree) htopic hnamed hkind
      (htyped _ hproxy hnamed)
  · refine bindEndpoint_keeping hh hcall hkept hlinks.not_above hkind (fun hproxy => ?_) w (.refl w)
      hkept
    obtain ⟨typeName, hnamed, hthere, htopic, hkeeps⟩ := hlinks.proxies hproxy
    obtain ⟨kept, hname⟩ := Option.ne_none_iff_exists'.mp fun h => hfree ⟨hproxy, h⟩
    obtain rfl := hkeeps kept hname
    exact ⟨kept, hname, hthere, htopic, hnamed, htyped _ hproxy hnamed⟩

/-- The creation of an endpoint, whose type name is that of the topic. The policies are read after
the topic was found, and the topic keeps its type name meanwhile. -/
theorem createEndpoint_keeps (hkept : n.Kept w) (hlinks : n.Links w proxy topic)
    (hkind : kind.IsEndpoint) {method : Method} {operation role : String} {groupKind : EntityKind}
    {default : EndpointQos} (op : Handle → Handle → EndpointQos → State → Provider.Result Handle)
    (hmakes : ∀ g t qos (s : State), s.Makes kind (op g t qos s))
    (hop : ∀ {g t qos s e s' typeName}, op g t qos s = (.ok e, s') → s.Typed t .topic typeName →
      s'.Typed e kind typeName) (groupProxy : Ref) (qos : Option Ref) {β : Type}
    (prepared : Handle → Handle → EndpointQos → β)
    (hguard : n.endpoint proxy → n.keptName proxy = none → ∀ g t found w₁,
      (do
        Bridge.requireInit operation
        let group ← Proxies.resolveAs (host inner invoke) groupProxy groupKind role
        let t ← Proxies.resolveAs (host inner invoke) topic .topic "topic"
        let qos ← Policies.endpointQos (host inner invoke) default qos
        return prepared group t qos).apply w = (.ok (prepared g t found), w₁) →
          guardOf w₁ proxy = none) :
    (do
      Bridge.requireInit operation
      let group ← Proxies.resolveAs (host inner invoke) groupProxy groupKind role
      let t ← Proxies.resolveAs (host inner invoke) topic .topic "topic"
      let qos ← Policies.endpointQos (host inner invoke) default qos
      let result ← Gate.fetch method (op group t qos)
      let e ← Gate.expect operation result
      Bridge.bindEndpoint (host inner invoke) proxy kind e topic).WithinAt n.Keeps w := by
  have hR := keeps_steady (C := C) (n := n)
  have hinit := Bridge.requireInit_within hR operation w
  refine .bind hR hinit fun _ w₁ hrun₁ => ?_
  obtain ⟨hkept₁, ho₁⟩ := hkept.after hinit hrun₁
  have hgroup := Proxies.resolveAs_within hR hh.toReads groupProxy groupKind role w₁
  refine .bind hR hgroup fun g w₂ hrun₂ => ?_
  obtain ⟨hkept₂, ho₂⟩ := hkept₁.after hgroup hrun₂
  have hfind := Proxies.resolveAs_within hR hh.toReads topic .topic "topic" w₂
  refine .bind hR hfind fun t w₃ hrun₃ => ?_
  obtain ⟨hkept₃, ho₃⟩ := hkept₂.after hfind hrun₃
  have hread := Policies.endpointQos_within hR hh.toReads default qos w₃
  refine .bind hR hread fun found w₄ hrun₄ => ?_
  obtain ⟨hkept₄, ho₄⟩ := hkept₃.after hread hrun₄
  have ho : w.Onward w₃ := (ho₁.trans ho₂).trans ho₃
  have htyped : ∀ typeName, n.endpoint proxy → n.topicName topic = some typeName →
      w₄.provider.Typed t .topic typeName := by
    intro typeName hproxy hnamed
    obtain ⟨_, -, -, htopic, -⟩ := hlinks.proxies hproxy
    obtain ⟨rfl, hstands⟩ := resolveAs_eq_ok_iff.mp hrun₃
    exact (hkept₃.typed_of_topic (htopic.mono ho) hnamed hstands).mono hkept₃.wellFormed ho₄.provider
  refine create_keeps hkept₄ (hmakes ..) fun e s hs ho₅ hkept₅ hmade => ?_
  refine bindEndpoint_keeps hh hcall hkept₅ (hlinks.mono ((ho.trans ho₄).trans ho₅)) hkind
    (fun typeName hproxy hnamed => hmade _ (hop hs (htyped _ hproxy hnamed))) fun hproxy hfree => ?_
  -- the answer of the provider leaves the objects
  obtain ⟨_, -, hthere, -⟩ := hlinks.proxies hproxy
  refine (hthere.mono (ho.trans ho₄)).noGuard ho₅ (fun c x hx => ?_) ?_
  · rwa [World.attrAt, (w₄.sameObjects_advance s).1.heap] at hx
  · refine hguard hproxy hfree g t found w₄ ?_
    rw [Action.apply_bind_of_ok hrun₁, Action.apply_bind_of_ok hrun₂, Action.apply_bind_of_ok hrun₃,
      Action.apply_bind_of_ok hrun₄]
    rfl

end Operations

end DdsBridge.Naming
