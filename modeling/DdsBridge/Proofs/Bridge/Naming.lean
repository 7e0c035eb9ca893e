import DdsBridge.Proofs.Bridge.Course
import DdsBridge.Proofs.Bridge.Operations
import DdsBridge.Proofs.Bridge.Standing

/-!
# Proxies and their type names

The bridge stores three attributes on proxies: the capsule of an entity, the topic proxy of a writer
or reader proxy, and the class of a topic proxy. A naming says for which type name the host creates
on a topic proxy and for which a class is registered. If the host keeps to it, the link and the
capsule of a writer or reader proxy agree in one type name, whatever host code runs in between and
even if a creation fails half-way. The type name of such a proxy is that of its last creation, unless
the naming has the proxy keep to one.

* **`HostName`** — the attributes that the bridge leaves to the host.
* **`Naming`**, **`Naming.Proxy`** — what a host uses its objects for.
* **`Naming.Serves`**, **`Naming.Kept`** — proxies that serve for a type name, and worlds that agree
  with a naming.
* **`World.Onward`** — objects and entities that were there are as they were.
* **`Naming.keeps_steady`**, **`Naming.keeps_turning`** — changes beside the three attributes.
* **`Naming.setAttr_keeping`** — the assignment of one of the three.
-/

namespace DdsBridge

open Memory
open DdsBridge.Action (Within WithinAt)
open Provider (State)

/-- The names of the attributes that the bridge leaves to the host. -/
def HostName (name : String) : Prop :=
  name ≠ Proxies.capsuleAttr ∧ name ≠ Registry.topicAttr ∧ name ≠ Registry.typeAttr

instance : DecidablePred HostName := fun _ => inferInstanceAs (Decidable (_ ∧ _ ∧ _))

/-- What a host uses its objects for: the type name for which it creates on a topic proxy; the proxies
for writers and readers, and the type name to which such a proxy keeps, if it keeps to one; the type
name for which a class is registered; and the objects from which proxies inherit. -/
structure Naming where
  topicName : Ref → Option String
  endpoint : Ref → Prop
  keptName : Ref → Option String
  className : Ref → String
  above : Ref → Prop

/-- The kinds of entities that have the type name of a topic. -/
def EntityKind.IsEndpoint (kind : EntityKind) : Prop := kind = .writer ∨ kind = .reader

instance : DecidablePred EntityKind.IsEndpoint := fun _ => inferInstanceAs (Decidable (_ ∨ _))

variable {C : Type} {n : Naming} {w w' w₁ w₂ : World (Body C)}

/-- Objects that were there and still are have the bodies they had, and so do entities their
profiles. -/
structure World.Onward (w w' : World (Body C)) : Prop where
  size_le : w.heap.size ≤ w'.heap.size
  body : ∀ {r body}, r.id < w.heap.size → w'.bodyAt r = some body → w.bodyAt r = some body
  provider : w.provider.Precedes w'.provider

namespace Naming

/-- An object that serves as a proxy: it is no class, nothing inherits from it, and it inherits only
from objects that are no proxies. -/
structure Proxy (n : Naming) (w : World (Body C)) (r : Ref) : Prop where
  there : r.id < w.heap.size
  not_above : ¬n.above r
  not_class : ∀ info, body? w r ≠ some (.cls info)
  lineage : ∀ {cls value}, body? w r = some (.instance cls value) →
    cls.id < w.heap.size ∧ ∀ c ∈ lineage w cls, n.above c

/-- An object that, if it is the capsule of an entity of certain kinds, stands for one with the type
name. -/
structure Wraps (w : World (Body C)) (kinds : EntityKind → Prop) (wrapped : Ref) (typeName : String) :
    Prop where
  there : wrapped.id < w.heap.size
  typed : ∀ {kind e}, kinds kind → capsuleHandle w wrapped = some (kind, e) →
    w.provider.Typed e kind typeName

/-- An attribute that suits a topic proxy with a type name. -/
structure SuitsTopic (n : Naming) (w : World (Body C)) (typeName name : String) (value : Ref) : Prop
    where
  type : name = Registry.typeAttr → n.className value = typeName
  capsule : name = Proxies.capsuleAttr → Wraps w (· = .topic) value typeName

/-- An attribute that suits a writer or reader proxy of topics with a type name. -/
structure SuitsEndpoint (n : Naming) (w : World (Body C)) (typeName name : String) (value : Ref) : Prop
    where
  topic : name = Registry.topicAttr → n.topicName value = some typeName ∧ n.Proxy w value
  capsule : name = Proxies.capsuleAttr → Wraps w EntityKind.IsEndpoint value typeName

/-- A writer or reader proxy serves for a type name: the topic proxy that it is linked to has the type
name, and so has the topic of the entity that its capsule stands for. -/
def Serves (n : Naming) (w : World (Body C)) (r : Ref) (typeName : String) : Prop :=
  ∀ name value, ¬HostName name → w.attrAt r name = some value → n.SuitsEndpoint w typeName name value

/-- A world agrees with a naming: registered classes have the type names they should, what the bridge
stored on topic proxies suits them, and each writer or reader proxy serves for some type name, which
is the one that it keeps to. -/
structure Kept (n : Naming) (w : World (Body C)) : Prop where
  wellFormed : w.provider.WellFormed
  registered : ∀ {cls s}, w.bridge.registry.get? cls = some s →
    s.head.typeName = n.className cls ∧ s.type.NamesFree HostName
  above : ∀ {r name}, n.above r → ¬HostName name → w.attrAt r name = none
  topic : ∀ {r typeName name value}, n.topicName r = some typeName → ¬HostName name →
    w.attrAt r name = some value → n.SuitsTopic w typeName name value
  endpoint : ∀ {r}, n.endpoint r →
    ∃ typeName, (∀ kept ∈ n.keptName r, kept = typeName) ∧ n.Serves w r typeName

/-- Whatever agreed with the naming does so afterwards, and what was there is as it was. -/
def Keeps (n : Naming) (w w' : World (Body C)) : Prop := n.Kept w → n.Kept w' ∧ w.Onward w'

end Naming

/-! ## Later worlds -/

namespace World.Onward

theorem refl (w : World (Body C)) : w.Onward w := ⟨Nat.le_refl _, fun _ h => h, .refl _⟩

theorem trans (h : w.Onward w₁) (h' : w₁.Onward w₂) : w.Onward w₂ where
  size_le := Nat.le_trans h.size_le h'.size_le
  body := fun hlt hbody => h.body hlt (h'.body (Nat.lt_of_lt_of_le hlt h.size_le) hbody)
  provider := h.provider.trans h'.provider

/-- A class that was there has no more ancestors than it had. -/
theorem lineage (h : w.Onward w') {cls c : Ref} (hlt : cls.id < w.heap.size)
    (hc : c ∈ Memory.lineage w' cls) : c ∈ Memory.lineage w cls := by
  unfold Memory.lineage at hc ⊢
  rcases List.mem_cons.mp hc with hself | hc
  · exact List.mem_cons.mpr (.inl hself)
  · refine List.mem_cons_of_mem _ ?_
    cases hinfo : classInfo? w' cls with
    | none => rw [hinfo] at hc; exact absurd hc List.not_mem_nil
    | some info =>
        have hbody : body? w cls = some (.cls info) := by
          refine h.body hlt ?_
          unfold classInfo? at hinfo
          split at hinfo
          · rename_i found hfound
            cases hinfo
            exact hfound
          · exact absurd hinfo (by simp)
        rw [hinfo] at hc
        rw [classInfo?, hbody]
        exact hc

end World.Onward

namespace Naming

theorem Proxy.mono {r : Ref} (h : n.Proxy w r) (ho : w.Onward w') : n.Proxy w' r where
  there := Nat.lt_of_lt_of_le h.there ho.size_le
  not_above := h.not_above
  not_class := fun info hbody => h.not_class info (ho.body h.there hbody)
  lineage := fun hbody => by
    obtain ⟨hlt, habove⟩ := h.lineage (ho.body h.there hbody)
    exact ⟨Nat.lt_of_lt_of_le hlt ho.size_le, fun c hc => habove c (ho.lineage hlt hc)⟩

theorem capsuleHandle_onward (ho : w.Onward w') {wrapped : Ref} {held : EntityKind × Handle}
    (hlt : wrapped.id < w.heap.size) (h : capsuleHandle w' wrapped = some held) :
    capsuleHandle w wrapped = some held := by
  unfold capsuleHandle at h ⊢
  split at h
  · rename_i capsule hbody
    rw [show body? w wrapped = some (.capsule capsule) from ho.body hlt hbody]
    exact h
  · exact absurd h (by simp)

theorem Wraps.mono {kinds : EntityKind → Prop} {wrapped : Ref} {typeName : String}
    (h : Wraps w kinds wrapped typeName) (hwf : w.provider.WellFormed) (ho : w.Onward w') :
    Wraps w' kinds wrapped typeName where
  there := Nat.lt_of_lt_of_le h.there ho.size_le
  typed := fun hkind hheld =>
    (h.typed hkind (capsuleHandle_onward ho h.there hheld)).mono hwf ho.provider

theorem SuitsTopic.mono {typeName name : String} {value : Ref}
    (h : n.SuitsTopic w typeName name value) (hwf : w.provider.WellFormed) (ho : w.Onward w') :
    n.SuitsTopic w' typeName name value where
  type := h.type
  capsule := fun hname => (h.capsule hname).mono hwf ho

theorem SuitsEndpoint.mono {typeName name : String} {value : Ref}
    (h : n.SuitsEndpoint w typeName name value) (hwf : w.provider.WellFormed) (ho : w.Onward w') :
    n.SuitsEndpoint w' typeName name value where
  topic := fun hname => ⟨(h.topic hname).1, (h.topic hname).2.mono ho⟩
  capsule := fun hname => (h.capsule hname).mono hwf ho

/-- A proxy goes on to serve for its type name, if nothing is stored under the names of the bridge. -/
theorem Serves.mono {r : Ref} {typeName : String} (h : n.Serves w r typeName)
    (hwf : w.provider.WellFormed) (ho : w.Onward w')
    (hattrs : ∀ name value, ¬HostName name → w'.attrAt r name = some value →
      w.attrAt r name = some value) : n.Serves w' r typeName :=
  fun _ _ hname hattr => (h _ _ hname (hattrs _ _ hname hattr)).mono hwf ho

theorem SuitsTopic.ofType {typeName : String} {cls : Ref} (h : n.className cls = typeName) :
    n.SuitsTopic w typeName Registry.typeAttr cls :=
  ⟨fun _ => h, fun hname => absurd hname (by decide)⟩

theorem SuitsTopic.ofTopic {typeName : String} {t : Ref} :
    n.SuitsTopic w typeName Registry.topicAttr t :=
  ⟨fun hname => absurd hname (by decide), fun hname => absurd hname (by decide)⟩

theorem SuitsTopic.ofCapsule {typeName : String} {wrapped : Ref}
    (h : Wraps w (· = .topic) wrapped typeName) :
    n.SuitsTopic w typeName Proxies.capsuleAttr wrapped :=
  ⟨fun hname => absurd hname (by decide), fun _ => h⟩

theorem SuitsEndpoint.ofType {typeName : String} {cls : Ref} :
    n.SuitsEndpoint w typeName Registry.typeAttr cls :=
  ⟨fun hname => absurd hname (by decide), fun hname => absurd hname (by decide)⟩

theorem SuitsEndpoint.ofTopic {typeName : String} {t : Ref} (h : n.topicName t = some typeName)
    (hproxy : n.Proxy w t) : n.SuitsEndpoint w typeName Registry.topicAttr t :=
  ⟨fun _ => ⟨h, hproxy⟩, fun hname => absurd hname (by decide)⟩

theorem SuitsEndpoint.ofCapsule {typeName : String} {wrapped : Ref}
    (h : Wraps w EntityKind.IsEndpoint wrapped typeName) :
    n.SuitsEndpoint w typeName Proxies.capsuleAttr wrapped :=
  ⟨fun hname => absurd hname (by decide), fun _ => h⟩

/-! ## Look-ups on proxies -/

theorem not_hostName_capsule : ¬HostName Proxies.capsuleAttr := fun h => h.1 rfl

theorem not_hostName_topic : ¬HostName Registry.topicAttr := fun h => h.2.1 rfl

theorem not_hostName_type : ¬HostName Registry.typeAttr := fun h => h.2.2 rfl

/-- A proxy has the attributes that the bridge stores on itself, and inherits none of them. -/
theorem Kept.lookup_eq (h : n.Kept w) {r : Ref} (hproxy : n.Proxy w r) {name : String}
    (hname : ¬HostName name) : lookup w r name = w.attrAt r name := by
  have hclass : name ≠ "__class__" := by
    rintro rfl
    exact hname (by decide)
  unfold lookup
  rw [if_neg hclass]
  show (w.attrAt r name <|> _ <|> none) = _
  split
  · rename_i info hbody
    exact absurd hbody (hproxy.not_class info)
  · rename_i cls value hbody
    have hinherited : lookupInClass w cls name = none :=
      List.findSome?_eq_none_iff.mpr fun c hc =>
        h.above ((hproxy.lineage hbody).2 c hc) hname
    rw [hinherited]
    cases w.attrAt r name <;> rfl
  · cases w.attrAt r name <;> rfl

/-! ## Changes beside the three attributes -/

/-- Nothing is stored under the names of the bridge, and no class is registered. -/
theorem Kept.mono (h : n.Kept w) (ho : w.Onward w') (hwf : w'.provider.WellFormed)
    (hattrs : ∀ r name value, ¬HostName name → w'.attrAt r name = some value →
      w.attrAt r name = some value)
    (hregistry : w'.bridge.registry = w.bridge.registry) : n.Kept w' where
  wellFormed := hwf
  registered := fun hcls => h.registered (hregistry ▸ hcls)
  above := fun {r name} habove hname => by
    cases hattr : w'.attrAt r name with
    | none => rfl
    | some value =>
        have hbefore := hattrs r name value hname hattr
        rw [h.above habove hname] at hbefore
        exact absurd hbefore (by simp)
  topic := fun hnamed hname hattr =>
    (h.topic hnamed hname (hattrs _ _ _ hname hattr)).mono h.wellFormed ho
  endpoint := fun {r} hr =>
    let ⟨typeName, hkept, hserves⟩ := h.endpoint hr
    ⟨typeName, hkept, hserves.mono h.wellFormed ho (hattrs r)⟩

/-- The objects stay, and the provider goes on. -/
theorem keeps_of_goes (hheap : w'.heap = w.heap) (hgoes : w.provider.Goes w'.provider)
    (hregistry : w'.bridge.registry = w.bridge.registry) : n.Keeps w w' := by
  intro hkept
  obtain ⟨hwf, hprecedes⟩ := hgoes hkept.wellFormed
  have ho : w.Onward w' :=
    { size_le := Nat.le_of_eq (congrArg Heap.size hheap.symm)
      body := fun _ hbody => by rwa [World.bodyAt, hheap] at hbody
      provider := hprecedes }
  refine ⟨hkept.mono ho hwf (fun r name value _ hattr => ?_) hregistry, ho⟩
  rwa [World.attrAt, hheap] at hattr

theorem keeps_advance {s : State} (hgoes : w.provider.Goes s) : n.Keeps w (w.advance s) :=
  keeps_of_goes (w.sameObjects_advance s).1.heap (World.advance_goes hgoes) (w.advance_registry s)

theorem onward_of_hushed {Plain : Body C → Prop} {Free : String → Prop}
    (h : w.Hushed Plain Free w') : w.Onward w' where
  size_le := h.size_le
  body := fun hlt hbody => h.back _ _ hlt hbody
  provider := by rw [h.provider]; exact .refl _

/-- An object that goes, with what becomes of its hold. -/
theorem keeps_discard [HostCode C] (w : World (Body C)) (r : Ref) : n.Keeps w (w.discard r) := by
  intro hkept
  obtain ⟨hwf, hprecedes⟩ := (w.discard_idles r).goes hkept.wellFormed
  have ho : w.Onward (w.discard r) :=
    { size_le := by simp [World.discard_heap, Heap.size, Heap.erase]
      body := fun _ hbody => World.bodyAt_of_discard hbody
      provider := hprecedes }
  refine ⟨hkept.mono ho hwf (fun _ _ _ _ => World.attrAt_of_discard) ?_, ho⟩
  · obtain ⟨_, _, _, _, _, _, heq, -⟩ := World.discard_eq w r
    rw [heq]

theorem keeps_steady [HostCode C] : World.Steady (fun _ : Body C => True) HostName n.Keeps where
  trans h h' hkept := by
    obtain ⟨hmiddle, ho⟩ := h hkept
    obtain ⟨hlast, ho'⟩ := h' hmiddle
    exact ⟨hlast, ho.trans ho'⟩
  quiet h hkept :=
    ⟨hkept.mono (onward_of_hushed h.toHushed) (h.provider ▸ hkept.wellFormed) h.attrs h.registry,
      onward_of_hushed h.toHushed⟩
  discard _ _ := keeps_discard _ _

theorem keeps_turning : World.Turning (n.Keeps : World (Body C) → World (Body C) → Prop) where
  turn h := keeps_of_goes h.heap h.goes h.registry
  noted _ _ _ := keeps_of_goes rfl (.refl _) rfl

/-! ## Assignments of the three attributes -/

/-- The attribute may be assigned, whatever host code runs first: nothing inherits from the object, and
the value suits a topic proxy and a writer or reader proxy, the latter because the proxy keeps to a
type name or because the value suits every proxy. -/
structure Allows (n : Naming) (w : World (Body C)) (obj : Ref) (name : String) (value : Ref) : Prop
    where
  not_above : ¬n.above obj
  topic : ∀ {typeName}, n.topicName obj = some typeName → n.SuitsTopic w typeName name value
  endpoint : n.endpoint obj → (∃ typeName ∈ n.keptName obj, n.SuitsEndpoint w typeName name value) ∨
    ∀ typeName, n.SuitsEndpoint w typeName name value

theorem Allows.mono {obj value : Ref} {name : String} (h : n.Allows w obj name value)
    (hkept : n.Kept w) (ho : w.Onward w') : n.Allows w' obj name value where
  not_above := h.not_above
  topic := fun hnamed => (h.topic hnamed).mono hkept.wellFormed ho
  endpoint := fun hobj => by
    rcases h.endpoint hobj with ⟨typeName, hname, hsuits⟩ | hany
    · exact .inl ⟨typeName, hname, hsuits.mono hkept.wellFormed ho⟩
    · exact .inr fun typeName => (hany typeName).mono hkept.wellFormed ho

theorem keeps_storeAttr [HostCode C] {obj value : Ref} {name : String} (hname : ¬HostName name)
    (h : n.Allows w obj name value) : n.Keeps w (w.storeAttr obj name value) := by
  refine keeps_steady.storeAttr_of_insert fun node hnode hkept => ?_
  have hchange : w.Hushed (fun _ => True) AnyName _ :=
    .insert hnode (show AnyName name from trivial) value
  have ho := onward_of_hushed hchange
  refine ⟨⟨hkept.wellFormed, hkept.registered, fun {r name'} habove hwatched => ?_,
    fun {r typeName name' found} hnamed hwatched hfound => ?_, fun {r} hr => ?_⟩, ho⟩
  · rw [Option.eq_none_iff_forall_ne_some]
    intro found hfound
    rcases World.attrAt_of_insert hnode hfound with ⟨rfl, -, -⟩ | hold
    · exact h.not_above habove
    · rw [hkept.above habove hwatched] at hold
      exact absurd hold (by simp)
  · rcases World.attrAt_of_insert hnode hfound with ⟨rfl, rfl, rfl⟩ | hold
    · exact (h.topic hnamed).mono hkept.wellFormed ho
    · exact (hkept.topic hnamed hwatched hold).mono hkept.wellFormed ho
  · obtain ⟨typeName, hkeeps, hserves⟩ := hkept.endpoint hr
    refine ⟨typeName, hkeeps, fun name' found hwatched hfound => ?_⟩
    rcases World.attrAt_of_insert hnode hfound with ⟨rfl, rfl, rfl⟩ | hold
    · rcases h.endpoint hr with ⟨kept, hname, hsuits⟩ | hany
      · exact hkeeps kept hname ▸ hsuits.mono hkept.wellFormed ho
      · exact (hany typeName).mono hkept.wellFormed ho
    · exact (hserves _ _ hwatched hold).mono hkept.wellFormed ho

/-! ## Actions that keep to a naming -/

/-- In every later world that agrees with the naming, the action keeps to it. -/
def Keeping {ε α : Type} (n : Naming) (w : World (Body C)) (x : Action (Body C) ε α) : Prop :=
  ∀ w₁, w.Onward w₁ → n.Kept w₁ → x.WithinAt n.Keeps w₁

namespace Keeping

variable {ε δ α β : Type} {x : Action (Body C) ε α}

theorem of_within (h : x.Within n.Keeps) : n.Keeping w x := fun w₁ _ _ => h w₁

theorem attempt (h : n.Keeping w x) :
    n.Keeping w (x.attempt : Action (Body C) δ (Except ε α)) :=
  fun w₁ ho hkept => (h w₁ ho hkept).attempt

theorem lift {x : HostAction (Body C) α} (h : n.Keeping w x) :
    n.Keeping w (liftM x : BridgeAction (Body C) α) :=
  fun w₁ ho hkept => (h w₁ ho hkept).mapError

/-- What follows may depend on the world in which it happens. -/
theorem world {f : World (Body C) → Action (Body C) ε β}
    (hf : ∀ w₁, w.Onward w₁ → n.Kept w₁ → n.Keeping w₁ (f w₁)) :
    n.Keeping w (Action.world >>= f) := by
  intro w₁ ho hkept
  unfold WithinAt
  rw [Action.apply_bind_of_ok (Action.apply_world w₁)]
  exact hf w₁ ho hkept w₁ (.refl w₁) hkept

variable [HostCode C]

/-- What follows begins in a later world that agrees with the naming. -/
theorem bind {f : α → Action (Body C) ε β} (hx : n.Keeping w x)
    (hf : ∀ a w₀ w₁, x.apply w₀ = (.ok a, w₁) → w.Onward w₁ → n.Kept w₁ → n.Keeping w₁ (f a)) :
    n.Keeping w (x >>= f) := by
  intro w₀ ho hkept
  refine .bind keeps_steady (hx w₀ ho hkept) fun a w₁ hrun => ?_
  obtain ⟨hkept₁, ho₁⟩ : n.Kept w₁ ∧ w₀.Onward w₁ := by
    have hmiddle := hx w₀ ho hkept
    unfold WithinAt at hmiddle
    rw [hrun] at hmiddle
    exact hmiddle (by simp) hkept
  exact hf a w₀ w₁ hrun (ho.trans ho₁) hkept₁ w₁ (.refl w₁) hkept₁

theorem holding {refs : List Ref} (h : n.Keeping w x) : n.Keeping w (Action.holding refs x) := by
  intro w₁ ho hkept
  obtain ⟨hpinned, ho'⟩ := keeps_steady.handling w₁ (refs ++ w₁.pinned) w₁.kept w₁.mark hkept
  exact .holding keeps_steady (h _ (ho.trans ho') hpinned)

end Keeping

/-! ## Creations -/

section Creation

variable [HostCode C] {inner : Host (Body C)} {invoke : C → List Ref → MemoryAction C Ref}
variable {α : Type} {kind : EntityKind} {e : Handle} {proxy : Ref}

omit [HostCode C] in
/-- The topic that a topic proxy stands for has the type name of the proxy. -/
theorem Kept.typed_of_topic (hkept : n.Kept w) (hproxy : n.Proxy w proxy) {typeName : String}
    (hnamed : n.topicName proxy = some typeName) (h : StandsFor w proxy .topic e) :
    w.provider.Typed e .topic typeName := by
  obtain ⟨wrapped, hwrapped, hhandle, -⟩ := h
  rw [hkept.lookup_eq hproxy not_hostName_capsule] at hwrapped
  exact ((hkept.topic hnamed not_hostName_capsule hwrapped).capsule rfl).typed rfl hhandle

omit [HostCode C] in
/-- The writer or reader that a proxy stands for has the type name for which the proxy serves. -/
theorem Kept.typed_of_serves (hkept : n.Kept w) (hproxy : n.Proxy w proxy) {typeName : String}
    (hserves : n.Serves w proxy typeName) (hkind : kind.IsEndpoint)
    (h : StandsFor w proxy kind e) : w.provider.Typed e kind typeName := by
  obtain ⟨wrapped, hwrapped, hhandle, -⟩ := h
  rw [hkept.lookup_eq hproxy not_hostName_capsule] at hwrapped
  exact ((hserves _ _ not_hostName_capsule hwrapped).capsule rfl).typed hkind hhandle

/-- The assignment of one of the three attributes, if it is allowed. -/
theorem setAttr_keeping (hcall : ∀ callable args, (inner.call callable args).Within n.Keeps)
    (hkept : n.Kept w) {obj value : Ref} {name : String} (hname : ¬HostName name)
    (h : n.Allows w obj name value) :
    n.Keeping w ((host inner invoke).setAttr obj name value) := by
  have hstore : ∀ w₁, w.Onward w₁ → n.Keeping w₁ (do
      let w ← Action.world
      if takesAttrs (body? w obj) then Action.change (World.storeAttr · obj name value)
      else Action.raise (.attribute s!"'{Memory.typeName w obj}' object attribute '{name}' is read-only") :
        MemoryAction C Unit) := by
    intro w₁ ho
    refine .world fun w₂ ho' _ => ?_
    split
    · exact fun w₃ ho'' _ _ =>
        keeps_storeAttr hname (h.mono hkept ((ho.trans ho').trans ho''))
    · exact .of_within (.raise keeps_steady _)
  refine .world fun w₁ ho hkept₁ => ?_
  split
  · -- the guard runs first, and may do anything that keeps to the naming
    refine .bind (.of_within (.alloc keeps_steady trivial)) fun text _ w₂ _ ho₂ _ => ?_
    exact .bind (.of_within (hcall _ _)) fun _ _ w₃ _ ho₃ _ =>
      hstore w₃ ((ho.trans ho₂).trans ho₃)
  · exact hstore w₁ ho

/-- The capsule of an entity is made, and then it is used. -/
theorem capsule_apply {α : Type} (kind : EntityKind) (e : Handle) (f : Ref → BridgeAction (Body C) α)
    (w : World (Body C)) :
    (do
      let capsule ← Bridge.capsuleFor kind e
      let wrapped ← ((host inner invoke).newCapsule capsule : HostAction (Body C) Ref)
      f wrapped).apply w =
    (f (w.heap.alloc ⟨.empty, .capsule ⟨kind, e,
      .bridge w.bridge.generation w.bridge.observed⟩⟩).1).apply
        { w with heap := (w.heap.alloc ⟨.empty, .capsule ⟨kind, e,
          .bridge w.bridge.generation w.bridge.observed⟩⟩).2 } := by
  have halloc : ∀ capsule, (liftM ((host inner invoke).newCapsule capsule) :
      BridgeAction (Body C) Ref).apply w = (.ok (w.heap.alloc ⟨.empty, .capsule capsule⟩).1,
        { w with heap := (w.heap.alloc ⟨.empty, .capsule capsule⟩).2 }) := fun capsule =>
    Action.apply_lift_of_ok (Action.apply_alloc _ w)
  rw [Bridge.capsuleFor, bind_assoc, Action.apply_bind_of_ok (Action.apply_world w), pure_bind,
    Action.apply_bind_of_ok (halloc _)]

omit [HostCode C] in
/-- The object for a capsule stands for what the capsule names. -/
theorem wraps_new {kinds : EntityKind → Prop} {typeName : String} (capsule : Capsule)
    (htyped : kinds capsule.kind → w.provider.Typed capsule.handle capsule.kind typeName) :
    Wraps { w with heap := (w.heap.alloc ⟨.empty, .capsule capsule⟩).2 } kinds
      (w.heap.alloc ⟨.empty, .capsule capsule⟩).1 typeName := by
  have hnew := w.heap.get?_alloc_self ⟨.empty, .capsule capsule⟩
  refine ⟨Heap.lt_size_of_get? hnew, fun {kind e} hkind hheld => ?_⟩
  simp only [capsuleHandle, body?, hnew, Option.map_some, Option.some.injEq, Prod.mk.injEq] at hheld
  obtain ⟨rfl, rfl⟩ := hheld
  exact htyped hkind

/-- The object for the capsule of an entity, and what is done with it. -/
theorem capsule_keeping (hkept : n.Kept w) {f : Ref → BridgeAction (Body C) α}
    (hf : ∀ wrapped w₁, w.Onward w₁ → n.Kept w₁ →
      (∀ kinds typeName, (kinds kind → w.provider.Typed e kind typeName) →
        Wraps w₁ kinds wrapped typeName) → n.Keeping w₁ (f wrapped)) :
    n.Keeping w (do
      let capsule ← Bridge.capsuleFor kind e
      let wrapped ← ((host inner invoke).newCapsule capsule : HostAction (Body C) Ref)
      f wrapped) := by
  intro w₁ ho hkept₁
  unfold WithinAt
  rw [capsule_apply]
  have hquiet : n.Keeps w₁ { w₁ with heap := (w₁.heap.alloc ⟨.empty, .capsule ⟨kind, e,
      .bridge w₁.bridge.generation w₁.bridge.observed⟩⟩).2 } :=
    keeps_steady.quiet (.alloc w₁ trivial)
  obtain ⟨hkept₂, ho₂⟩ := hquiet hkept₁
  intro hends
  refine keeps_steady.trans hquiet (hf _ _ (ho.trans ho₂) hkept₂ (fun kinds typeName htyped => ?_)
    _ (.refl _) hkept₂ hends)
  exact wraps_new ⟨kind, e, _⟩ fun hkind =>
    (htyped hkind).mono hkept.wellFormed (ho.trans ho₂).provider

end Creation

end Naming

end DdsBridge
