import DdsBridge.Proofs.Bridge.Handover
import DdsBridge.Proofs.Host.Memory.Footing
import DdsBridge.Session.Run

/-!
# Creations that fail

A participant, topic, publisher or subscriber is bound to its proxy after the provider created it. A
creation can fail on the way: the parent has gone, the provider refuses, the proxy refuses the
capsule. Nothing happened to the proxy then. A topic is recorded with the class of its type after it
is bound, and a proxy that accepts the capsule can still refuse the class. The creation fails, and
the proxy stands for the new topic: the capsule that it had is not put back.

* **`Bridge.Creation`** — the proxy of a creation, its parent, and the type to record.
* **`Creation.Unmoved`**, **`Creation.Aborts`** — what happened to a proxy on the way, and when the
  creation failed.
* **`bindEntity_cases`**, **`linkType_cases`** — the two steps that assign attributes of the proxy.
* **`Bridge.failed_creation_keeps_proxy`** — what a failed creation leaves of the proxy.
* **`Bridge.failed_topic_moves_proxy`** — a topic whose class is refused.
-/

namespace DdsBridge

open Memory Proxies Registry
open DdsBridge.Action (Within WithinAt FailsWithin)

/-- What a creation is about: the proxy for the new entity, the proxy of the participant that it
belongs to, and the name of the type whose class is recorded on the proxy. -/
structure Bridge.Creation where
  proxy : Ref
  parent : Option Ref
  typeName : Option String

/-- The creations that bind an entity to one proxy. -/
def Bridge.Call.creation? : Call → Option Creation
  | .createParticipant proxy _ => some ⟨proxy, none, none⟩
  | .createTopic proxy participant _ type => some ⟨proxy, some participant, some type⟩
  | .createPublisher proxy participant => some ⟨proxy, some participant, none⟩
  | .createSubscriber proxy participant => some ⟨proxy, some participant, none⟩
  | _ => none

namespace Bridge.Creation

variable {C : Type} {w w₁ w₂ w' : World (Body C)} {creation : Creation}
variable {refuses : String → Option HostError} {P : Ref → Prop}

/-- The creation binds a topic to the proxy, and the guard of the proxy, which accepts the capsule,
then refuses the class of the topic's type. -/
structure LinkRefused (creation : Creation) (refuses : String → Option HostError)
    (w : World (Body C)) : Prop where
  typed : ∃ name, creation.typeName = some name ∧ (findByTypeName? w.bridge name).isSome
  bare : lookup w creation.proxy typeAttr = none
  guarded : (guardOf w creation.proxy).isSome
  accepts : refuses capsuleAttr = none
  refuses : refuses typeAttr ≠ none

/-- Every look-up on the proxy finds the object that it found before, and the capsule of the proxy
is still there. -/
structure Intact (creation : Creation) (w w' : World (Body C)) : Prop where
  lookup_eq : ∀ name, lookup w' creation.proxy name = lookup w creation.proxy name
  capsule : ∀ wrapped body, lookup w creation.proxy capsuleAttr = some wrapped →
    body? w wrapped = some body → body? w' wrapped = some body

/-- The capsule of the proxy may change. -/
def Rebinds (creation : Creation) (r : Ref) (name : String) : Prop :=
  r = creation.proxy ∧ name = capsuleAttr

section Relations

variable [HostCode C] (creation : Creation) (inner : Host (Body C))
  (refuses : String → Option HostError) (P : Ref → Prop)

/-- Nothing happened to the proxy and to what it inherits from. -/
def Unmoved (w w' : World (Body C)) : Prop :=
  Poised inner refuses P creation.proxy w → w.Upholds P World.NoChange w'

/-- Nothing happened to the proxy and to what it inherits from, unless the class of a new topic was
refused; then nothing happened but that the capsule changed. -/
def Aborts (w w' : World (Body C)) : Prop :=
  Poised inner refuses P creation.proxy w → w.Upholds P World.NoChange w' ∨
    creation.LinkRefused refuses w ∧ w.Upholds P creation.Rebinds w'

end Relations

theorem not_rebinds {r : Ref} {name : String} (h : name ≠ capsuleAttr) : ¬creation.Rebinds r name :=
  fun hrebinds => h hrebinds.2

/-- A refusal is foreseeable as long as nothing happens to the proxy. -/
theorem LinkRefused.of_upheld (h : w.Upholds P World.NoChange w₁)
    (hP : ∀ x, Footing w creation.proxy x → P x) (hrefused : creation.LinkRefused refuses w₁) :
    creation.LinkRefused refuses w where
  typed := by
    obtain ⟨name, hname, hfound⟩ := hrefused.typed
    refine ⟨name, hname, ?_⟩
    rwa [findByTypeName?, h.registry] at hfound
  bare := (lookup_of_upheld h hP fun _ _ => id).symm.trans hrefused.bare
  guarded := by
    have hguarded := hrefused.guarded
    rwa [guardOf_of_upheld h hP fun _ _ => id] at hguarded
  accepts := hrefused.accepts
  refuses := hrefused.refuses

section Steps

variable [HostCode C] {inner : Host (Body C)} {invoke : C → List Ref → MemoryAction C Ref}

theorem Unmoved.refl (w : World (Body C)) : creation.Unmoved inner refuses P w w := fun _ => .refl w

theorem Unmoved.aborts (h : creation.Unmoved inner refuses P w w₁) :
    creation.Aborts inner refuses P w w₁ := fun hp => .inl (h hp)

theorem Unmoved.then_aborts (h : creation.Unmoved inner refuses P w w₁)
    (h' : creation.Aborts inner refuses P w₁ w₂) : creation.Aborts inner refuses P w w₂ := by
  intro hp
  have hupholds := h hp
  rcases h' (hp.upheld hupholds fun _ _ => id) with hrest | ⟨hrefused, hrest⟩
  · exact .inl (hupholds.trans hrest)
  · refine .inr ⟨hrefused.of_upheld hupholds hp.footing, ?_⟩
    exact hupholds.of_noChange.trans hrest

/-- What leaves the world as it is. -/
theorem unmoved_of_same {ε α : Type} {x : Action (Body C) ε α} (h : ∀ w, (x.apply w).2 = w) :
    Within (creation.Unmoved inner refuses P) x := by
  intro w
  refine .of_rel ?_
  rw [h w]
  exact .refl w

/-- A step that leaves the proxy alone, and then the rest of a creation. -/
theorem aborts_bind {α β : Type} {x : BridgeAction (Body C) α} {f : α → BridgeAction (Body C) β}
    (hx : Within (creation.Unmoved inner refuses P) x)
    (hf : ∀ a, FailsWithin (creation.Aborts inner refuses P) (f a)) :
    FailsWithin (creation.Aborts inner refuses P) (x >>= f) :=
  .bind_of_comp (R := creation.Unmoved inner refuses P) Unmoved.aborts Unmoved.then_aborts hx hf

/-! ## Before the new entity is bound -/

theorem requireInit_unmoved (operation : String) :
    Within (creation.Unmoved inner refuses P)
      (requireInit operation : BridgeAction (Body C) Unit) := by
  refine unmoved_of_same fun w => ?_
  show (Action.apply (if w.bridge.initialized then pure () else Action.raise _) w).2 = w
  split <;> rfl

theorem fetch_unmoved {α : Type} (method : Provider.Method)
    (op : Provider.State → Provider.Result α) :
    Within (creation.Unmoved inner refuses P)
      (Gate.fetch method op : BridgeAction (Body C) (Except ReturnCode α)) := by
  intro w
  refine .of_rel fun _ => ?_
  rw [Gate.fetch_apply]
  split
  · exact .advance w _
  · exact .beside rfl rfl rfl rfl rfl

theorem expect_unmoved {α : Type} (operation : String) (result : Except ReturnCode α) :
    Within (creation.Unmoved inner refuses P)
      (Gate.expect operation result : BridgeAction (Body C) α) :=
  unmoved_of_same fun w => by cases result <;> rfl

/-- A stale capsule is taken away from the parent, from which the proxy does not inherit. -/
theorem resolveAs_unmoved {parent : Ref} (hparent : ¬P parent) (kind : EntityKind) (role : String) :
    Within (creation.Unmoved inner refuses P) (resolveAs (host inner invoke) parent kind role) := by
  intro w
  refine .of_rel ?_
  have htests : (resolveAs (host inner invoke) parent kind role).TestsAt _ w :=
    resolveAs_tests kind role
  rcases htests with ⟨handle, hfound⟩ | ⟨error, w₁, hfails, hsame | hloses⟩
  · rw [hfound]
    exact .refl w
  · rw [hfails, hsame]
    exact .refl w
  · rw [hfails]
    exact fun hp => hloses.upholds hp.supported hparent

/-! ## The new entity is bound -/

/-- A running operation may hold more. -/
theorem poised_pinning {r : Ref} (hp : Poised inner refuses P r w) (refs : List Ref) :
    Poised inner refuses P r { w with pinned := refs ++ w.pinned } where
  supported := hp.supported.pinning refs
  footing := hp.footing
  guarded := hp.guarded

variable (invoke) in
/-- A new entity is bound, or the proxy refuses its capsule, and then nothing happened to it. -/
theorem bindEntity_cases (hp : Poised inner refuses P creation.proxy w) (kind : EntityKind)
    (e : Handle) :
    (∃ w₁ error, (bindEntity (host inner invoke) creation.proxy kind e).apply w =
        (.error (.raised error), w₁) ∧ w.Upholds P World.NoChange w₁) ∨
      ∃ w₁, (bindEntity (host inner invoke) creation.proxy kind e).apply w = (.ok (), w₁) ∧
        w.Upholds P creation.Rebinds w₁ ∧ takesAttrs (body? w creation.proxy) = true ∧
        ((guardOf w creation.proxy).isSome → refuses capsuleAttr = none) := by
  let capsule : Capsule := ⟨kind, e, .bridge w.bridge.generation w.bridge.observed⟩
  let wrapped : Ref := (w.heap.alloc ⟨.empty, .capsule capsule⟩).1
  let w₀ : World (Body C) := { w with heap := (w.heap.alloc ⟨.empty, .capsule capsule⟩).2 }
  let wₕ : World (Body C) := { w₀ with pinned := [wrapped] ++ w₀.pinned }
  have hmade : w.Upholds P World.NoChange w₀ := hp.supported.alloc _
  have hp₀ : Poised inner refuses P creation.proxy w₀ := hp.upheld hmade fun _ _ => id
  have hpₕ : Poised inner refuses P creation.proxy wₕ := poised_pinning hp₀ [wrapped]
  -- the capsule is let go of after the assignment, however that ended
  have hends : ∀ {Changes : Ref → String → Prop} {w₁ : World (Body C)}, wₕ.Upholds P Changes w₁ →
      w.Upholds P Changes (World.collectAll { w₁ with pinned := w₀.pinned }) :=
    fun h => hmade.of_noChange.trans (hp₀.supported.letGo h)
  have hfor : (capsuleFor kind e : BridgeAction (Body C) Capsule).apply w = (.ok capsule, w) := rfl
  have hnew : (liftM ((host inner invoke).newCapsule capsule) : BridgeAction (Body C) Ref).apply w =
      (.ok wrapped, w₀) := rfl
  have hhold : ∀ {x : BridgeAction (Body C) Unit} {result : Except (Stop Error) Unit}
      {w₁ : World (Body C)}, x.apply wₕ = (result, w₁) →
      (Action.holding [wrapped] x).apply w₀ =
        (result, World.collectAll { w₁ with pinned := w₀.pinned }) := by
    intro x result w₁ hx
    rw [Action.holding, Action.apply_andThen, Action.apply_pinning, hx]
  obtain ⟨w₁, hupholds, ⟨error, hfails, -⟩ | ⟨hstored, htakes, haccepts⟩⟩ :=
    setAttr_cases hpₕ capsuleAttr wrapped
  · refine .inl ⟨_, .host error, ?_, hends hupholds⟩
    have hbind : (bind (host inner invoke) creation.proxy capsule).apply w = _ :=
      (Action.apply_bind_of_ok hnew).trans
        (Action.apply_bind_of_error (hhold (Action.apply_lift_of_error hfails)))
    exact (Action.apply_bind_of_ok hfor).trans (Action.apply_bind_of_error hbind)
  · have hstore : wₕ.Upholds P creation.Rebinds (w₁.storeAttr creation.proxy capsuleAttr wrapped) :=
      hupholds.of_noChange.trans
        ((hpₕ.supported.upheld hupholds).storeAttr wrapped fun _ => ⟨rfl, rfl⟩)
    have hbody : body? w₀ creation.proxy = body? w creation.proxy :=
      body?_of_upheld hmade hp.footing
    have hguard : guardOf w₀ creation.proxy = guardOf w creation.proxy :=
      guardOf_of_upheld hmade hp.footing fun _ _ hchanges => hchanges
    change takesAttrs (body? w₀ creation.proxy) = true at htakes
    change (guardOf w₀ creation.proxy).isSome → _ at haccepts
    rw [hbody] at htakes
    rw [hguard] at haccepts
    refine .inr ⟨_, ?_, hends hstore, htakes, haccepts⟩
    have hbind : (bind (host inner invoke) creation.proxy capsule).apply w = _ :=
      (Action.apply_bind_of_ok hnew).trans
        (Action.apply_bind_of_ok (hhold (Action.apply_lift_of_ok hstored)))
    exact (Action.apply_bind_of_ok hfor).trans (Action.apply_bind_of_ok hbind)

/-- The class of a new topic is refused if the proxy has none, a class is registered for the type,
and the guard refuses it. -/
theorem linkType_cases (hp : Poised inner refuses P creation.proxy w)
    (htakes : takesAttrs (body? w creation.proxy) = true) {type : String} {error : Error}
    (hfails : (linkType (host inner invoke) creation.proxy type).apply w =
      (.error (.raised error), w')) :
    w.Upholds P World.NoChange w' ∧ lookup w creation.proxy typeAttr = none ∧
      (findByTypeName? w.bridge type).isSome ∧ (guardOf w creation.proxy).isSome ∧
      refuses typeAttr ≠ none := by
  rw [linkType] at hfails
  cases hbare : lookup w creation.proxy typeAttr with
  | some cls =>
      -- the proxy has a type already, and nothing is assigned
      rw [Action.apply_bind_of_ok (getAttr_attempt_of_found hbare)] at hfails
      cases hfails
  | none =>
      rw [Action.apply_bind_of_ok (getAttr_attempt_of_missing hbare)] at hfails
      change ((Action.world : BridgeAction (Body C) _) >>= _).apply w = _ at hfails
      rw [Action.apply_bind_of_ok (Action.apply_world w)] at hfails
      cases hfound : findByTypeName? w.bridge type with
      | none =>
          rw [hfound] at hfails
          cases hfails
      | some entry =>
          rw [hfound] at hfails
          change (liftM (setAttr inner creation.proxy typeAttr entry.1) :
            BridgeAction (Body C) Unit).apply w = _ at hfails
          rw [Action.lift_eq, Action.apply_mapError] at hfails
          obtain ⟨w₁, hupholds, ⟨_, hset, hwhy⟩ | ⟨hset, -⟩⟩ := setAttr_cases hp typeAttr entry.1
          · rw [hset] at hfails
            cases hfails
            rcases hwhy with ⟨hguarded, hrefuses⟩ | hnot
            · exact ⟨hupholds, rfl, rfl, hguarded, hrefuses⟩
            · exact absurd htakes (by rw [hnot]; decide)
          · rw [hset] at hfails
            cases hfails

/-! ## Creations -/

/-- A creation that fails when its entity is bound. -/
theorem bindEntity_aborts (kind : EntityKind) (e : Handle) :
    FailsWithin (creation.Aborts inner refuses P)
      (bindEntity (host inner invoke) creation.proxy kind e) := by
  intro w error w' h hp
  rcases bindEntity_cases invoke hp kind e with
    ⟨w₁, _, hfails, hupholds⟩ | ⟨w₁, hok, -⟩
  · rw [hfails] at h
    cases h
    exact .inl hupholds
  · rw [hok] at h
    cases h

/-- A creation that fails when its topic is bound or when the class of its type is recorded. -/
theorem bindTopic_aborts {type : String} (htype : creation.typeName = some type) (e : Handle) :
    FailsWithin (creation.Aborts inner refuses P)
      (bindEntity (host inner invoke) creation.proxy .topic e >>= fun _ =>
        linkType (host inner invoke) creation.proxy type) := by
  intro w error w' h hp
  rcases bindEntity_cases invoke hp .topic e with
    ⟨w₁, _, hfails, hupholds⟩ | ⟨w₁, hok, hupholds, htakes, haccepts⟩
  · rw [Action.apply_bind_of_error hfails] at h
    cases h
    exact .inl hupholds
  · rw [Action.apply_bind_of_ok hok] at h
    -- only the capsule changed: the proxy is judged by the same guard, and whether it has a class
    -- and whether there is one to record is as it was before
    have hkept : ∀ x, P x → ¬creation.Rebinds x "__setattr__" := fun _ _ =>
      not_rebinds (by decide)
    have hguard := guardOf_of_upheld hupholds hp.footing hkept
    rw [← body?_of_upheld hupholds hp.footing] at htakes
    obtain ⟨hlast, hbare, hfound, hguarded, hrefuses⟩ :=
      linkType_cases (hp.upheld hupholds hkept) htakes h
    rw [lookup_of_upheld hupholds hp.footing fun _ _ => not_rebinds (by decide)] at hbare
    rw [findByTypeName?, hupholds.registry] at hfound
    rw [hguard] at hguarded
    refine .inr ⟨⟨⟨type, htype, hfound⟩, hbare, hguarded, haccepts hguarded, hrefuses⟩, ?_⟩
    exact hupholds.trans hlast.of_noChange

/-- A creation below a participant from which the proxy does not inherit, up to the new entity. -/
theorem createBelow_aborts {participant : Ref} (hparent : ¬P participant) {operation : String}
    {method : Provider.Method} {op : Handle → Provider.State → Provider.Result Handle}
    {f : Handle → BridgeAction (Body C) Unit}
    (hf : ∀ e, FailsWithin (creation.Aborts inner refuses P) (f e)) :
    FailsWithin (creation.Aborts inner refuses P) (requireInit operation >>= fun _ =>
      resolveAs (host inner invoke) participant .participant "participant" >>= fun p =>
      Gate.fetch method (op p) >>= fun result => Gate.expect operation result >>= f) :=
  aborts_bind (requireInit_unmoved _) fun _ =>
    aborts_bind (resolveAs_unmoved hparent _ _) fun _ =>
      aborts_bind (fetch_unmoved _ _) fun result => aborts_bind (expect_unmoved _ result) hf

theorem create_aborts {call : Call} (hcreation : call.creation? = some creation)
    (hparent : ∀ parent ∈ creation.parent, ¬P parent) :
    FailsWithin (creation.Aborts inner refuses P) (call.act (host inner invoke)) := by
  cases call with
  | createParticipant proxy domain =>
      cases hcreation
      exact aborts_bind (requireInit_unmoved _) fun _ =>
        aborts_bind (fetch_unmoved _ _) fun result =>
          aborts_bind (expect_unmoved _ result) fun e => bindEntity_aborts .participant e
  | createTopic proxy participant name type =>
      cases hcreation
      exact createBelow_aborts (hparent participant rfl) (bindTopic_aborts rfl)
  | createPublisher proxy participant =>
      cases hcreation
      exact createBelow_aborts (hparent participant rfl) (bindEntity_aborts .publisher)
  | createSubscriber proxy participant =>
      cases hcreation
      exact createBelow_aborts (hparent participant rfl) (bindEntity_aborts .subscriber)
  | _ => cases hcreation

end Steps

end Bridge.Creation

namespace Bridge

variable {C : Type} [HostCode C] {refuses : String → Option HostError} {w w' : World (Body C)}
variable {inner : Host (Body C)} {invoke : C → List Ref → MemoryAction C Ref}

/-- A creation that fails, from whichever cause, leaves its proxy as it was: every look-up on the
proxy finds what it found before, and the capsule that the proxy had is still there. The proxy is
one that its caller holds, and that holds its class and through it the classes above; it does not
inherit from the parent, and its guard goes by the name of the attribute. The exception is a topic
whose guard accepts the capsule and refuses the class: the capsule of its proxy may be another one,
but nothing else. -/
theorem failed_creation_keeps_proxy {call : Call} {creation : Creation} {error : Error}
    (hcreation : call.creation? = some creation)
    (hheld : w.Supported (Footing w creation.proxy))
    (hparent : ∀ parent ∈ creation.parent, ¬Footing w creation.proxy parent)
    (hguard : Guarded inner refuses w creation.proxy)
    (hfails : (call.act (host inner invoke)).apply w = (.error (.raised error), w')) :
    (¬creation.LinkRefused refuses w → creation.Intact w w') ∧
      ∀ name, name ≠ capsuleAttr →
        lookup w' creation.proxy name = lookup w creation.proxy name := by
  have hp : Poised inner refuses (Footing w creation.proxy) creation.proxy w :=
    ⟨hheld, fun _ hx => hx, hguard⟩
  rcases Creation.create_aborts hcreation hparent w error w' hfails hp with
    hupholds | ⟨hrefused, hupholds⟩
  -- the footing is as it was
  · have hlookup : ∀ name, lookup w' creation.proxy name = lookup w creation.proxy name :=
      fun name => lookup_of_upheld hupholds hp.footing fun _ _ => id
    refine ⟨fun _ => ⟨hlookup, fun wrapped body hfound hbody => ?_⟩, fun name _ => hlookup name⟩
    exact found_of_upheld hupholds hp.footing hfound (by decide) (fun _ _ => id) hbody
  -- the capsule may have changed
  · refine ⟨fun hnot => absurd hrefused hnot, fun name hname => ?_⟩
    exact lookup_of_upheld hupholds hp.footing fun _ _ => Creation.not_rebinds hname

/-! ## Guards of sessions -/

open Session in
/-- The guard functions of sessions go by the name of the attribute. -/
theorem judges_guard (isFile : String → Bool) (level : Nat) (guard : Ref) (attr : String)
    (error : HostError) :
    Judges (hostAt isFile (level + 2)) guard (.function (.guard attr error))
      fun name => if name = attr then some error else none := by
  have htext : ∀ {w : SessionWorld} {text : Ref} {name : String}, body? w text = some (.str name) →
      ((hostAt isFile (level + 1)).strOf text).apply w = (.ok name, w) := by
    intro w text name htext
    show (strOf (hostAt isFile level) text).apply w = _
    rw [strOf, Action.apply_bind_of_ok (Action.apply_world w), htext]
    show (strByKind (hostAt isFile level) text).apply w = _
    rw [strByKind, Action.apply_bind_of_ok (Action.apply_world w), htext]
    rfl
  have hcall : ∀ {w : SessionWorld} {obj text value : Ref} {name : String},
      body? w guard = some (.function (.guard attr error)) → body? w text = some (.str name) →
      ((hostAt isFile (level + 2)).call guard [obj, text, value]).apply w =
        (if name = attr then .error (.raised error) else .ok Builtin.none.ref, w) := by
    intro w obj text value name hguard hname
    -- the arguments are held while the guard runs, which changes nothing else
    let wₕ : SessionWorld := { w with pinned := [obj, text, value] ++ w.pinned }
    have hname : ((hostAt isFile (level + 1)).strOf text).apply wₕ = (.ok name, wₕ) := htext hname
    have hjudged : (invoke isFile (hostAt isFile (level + 1)) (.guard attr error)
        [obj, text, value]).apply wₕ =
        (if name = attr then .error (.raised error) else .ok Builtin.none.ref, wₕ) := by
      show ((hostAt isFile (level + 1)).strOf text >>= _).apply wₕ = _
      rw [Action.apply_bind_of_ok hname]
      split <;> rfl
    show (call (hostAt isFile (level + 1)) (invoke isFile (hostAt isFile (level + 1))) guard
      [obj, text, value]).apply w = _
    rw [call, Action.apply_bind_of_ok (Action.apply_world w), hguard]
    show (runCode _ _ _).apply w = _
    rw [runCode, Action.apply_pinning, hjudged]
  constructor
  · intro w obj text value name hguard hname hnone
    refine ⟨Builtin.none.ref, ?_⟩
    rw [hcall hguard hname, if_neg fun heq => by simp [heq] at hnone]
  · intro w obj text value name found hguard hname hsome
    have hattr : name = attr ∧ error = found := by simpa using hsome
    rw [hcall hguard hname, if_pos hattr.1, hattr.2]

/-! ## A proxy with a guard -/

/-- The built-in objects; the class of notes; a class with a guard; a participant with its capsule;
the guard; and a topic of that class with its capsule. -/
def guardedObjects (guard : Session.Code) : List (Node (Memory.Body Session.Code)) :=
  Builtin.all.map (fun b => ⟨.empty, b.body⟩) ++
    [⟨.empty, .cls ⟨"app.Note", [Builtin.object.ref], [Builtin.object.ref], none⟩⟩,
      ⟨attrsOf [("__setattr__", ⟨20⟩)],
        .cls ⟨"app.Topic", [Builtin.object.ref], [Builtin.object.ref], none⟩⟩,
      ⟨.empty, .capsule ⟨.participant, ⟨1⟩, .bridge 1 true⟩⟩,
      ⟨attrsOf [("_cpp_object", ⟨18⟩)], .instance Builtin.object.ref none⟩,
      ⟨.empty, .function guard⟩,
      ⟨.empty, .capsule ⟨.topic, ⟨2⟩, .bridge 1 true⟩⟩,
      ⟨attrsOf [("_cpp_object", ⟨21⟩)], .instance ⟨17⟩ none⟩]

/-- The world with these objects, in which the two proxies are in registers and notes are
registered. -/
def guardedWorld (guard : Session.Code) : World (Memory.Body Session.Code) :=
  { (World.empty : World (Memory.Body Session.Code)) with
    heap := ⟨((guardedObjects guard).map some).toArray⟩
    permanent := Builtin.all.length
    registers := attrsOf [("participant", ⟨19⟩), ("topic", ⟨22⟩)]
    provider := Provider.State.new.run (fun _ => false) Provider.State.chatRun
    bridge :=
      { BridgeState.unbuilt with
        generation := 1
        observed := true
        initialized := true
        registry := (Table.empty : Table Ref StructType).insert ⟨16⟩ noteType } }

/-- The failure with which the guard refuses. -/
def readOnly : HostError := .attribute "read-only"

/-- The topic's proxy is in a register, its class is held by the proxy, and the class above that is
built in. -/
theorem supported_guarded (guard : Session.Code) :
    (guardedWorld guard).Supported (Footing (guardedWorld guard) ⟨22⟩) := by
  refine supported_footing rfl ?_ rfl fun c hc => ?_
  · have hregister : (⟨22⟩ : Ref) ∈
        (attrsOf [("participant", ⟨19⟩), ("topic", ⟨22⟩)]).values := by decide
    simp only [World.anchors, List.mem_append]
    exact .inl (.inl (.inr hregister))
  · rw [List.mem_singleton.mp hc]
    exact ⟨by show 3 < 16; omega, _, rfl⟩

/-- The guard of the topic's class goes by the name of the attribute. -/
theorem guarded_guarded (isFile : String → Bool) (level : Nat) (attr : String) (error : HostError) :
    Guarded (Session.hostAt isFile (level + 2))
      (fun name => if name = attr then some error else none)
      (guardedWorld (.guard attr error)) ⟨22⟩ := by
  intro guard hguard
  have hplace : guardOf (guardedWorld (.guard attr error)) ⟨22⟩ = some ⟨20⟩ := rfl
  cases hplace.symm.trans hguard
  exact ⟨_, rfl, judges_guard isFile level ⟨20⟩ attr error⟩

/-- The participant is not among the objects on which the topic's attributes are found. -/
theorem apart_guarded (guard : Session.Code) :
    ∀ parent ∈ some (⟨19⟩ : Ref), ¬Footing (guardedWorld guard) ⟨22⟩ parent := by
  rintro parent ⟨⟩ (h | h)
  · cases h
  · have h : (⟨19⟩ : Ref) ∈ [⟨17⟩, Builtin.object.ref] := h
    exact absurd h (by decide)

/-- The creation of a topic in place of the one that the guarded proxy stands for. -/
def newsCall : Call := .createTopic ⟨22⟩ ⟨19⟩ "news" "Message"

/-- What the creation leaves, if it fails: its failure, the capsule of the proxy, whether the old
capsule is there, and what was given back. -/
def newsFailure (attr : String) : Option (Error × Option Ref × Bool × List Release) :=
  let world := guardedWorld (.guard attr readOnly)
  match (newsCall.act (Session.hostAt (fun _ => false) 3)).apply world with
  | (.error (.raised error), w) =>
    some (error, lookup w ⟨22⟩ capsuleAttr, (body? w ⟨21⟩).isSome, w.releases)
  | _ => none

theorem newsFailure_eq_some {attr : String} {found : Error × Option Ref × Bool × List Release}
    (h : newsFailure attr = some found) :
    ∃ w', (newsCall.act (Session.hostAt (fun _ => false) 3)).apply
        (guardedWorld (.guard attr readOnly)) = (.error (.raised found.1), w') ∧
      lookup w' ⟨22⟩ capsuleAttr = found.2.1 ∧ (body? w' ⟨21⟩).isSome = found.2.2.1 ∧
      w'.releases = found.2.2.2 := by
  unfold newsFailure at h
  dsimp only at h
  split at h
  · rename_i error w' hrun
    cases h
    exact ⟨w', hrun, rfl, rfl, rfl⟩
  · cases h

/-- A topic whose guard refuses the capsule: nothing happened to the proxy, which stands for the
topic that it stood for. -/
theorem failed_creation_keeps_topic : ∃ w',
    (newsCall.act (Session.hostAt (fun _ => false) 3)).apply
        (guardedWorld (.guard "_cpp_object" readOnly)) = (.error (.raised (.host readOnly)), w') ∧
      Creation.Intact ⟨⟨22⟩, some ⟨19⟩, some "Message"⟩
        (guardedWorld (.guard "_cpp_object" readOnly)) w' ∧
      lookup w' ⟨22⟩ capsuleAttr = some ⟨21⟩ := by
  have hnews : newsFailure "_cpp_object" =
      some (.host readOnly, some ⟨21⟩, true, [.toProvider .topic ⟨7⟩]) := by decide +kernel
  obtain ⟨w', hfails, hcapsule, -⟩ := newsFailure_eq_some hnews
  refine ⟨w', hfails, ?_, hcapsule⟩
  have hcreation : newsCall.creation? = some ⟨⟨22⟩, some ⟨19⟩, some "Message"⟩ := rfl
  refine (failed_creation_keeps_proxy hcreation (supported_guarded _) (apart_guarded _)
    (guarded_guarded (fun _ => false) 0 "_cpp_object" readOnly) hfails).1 fun hrefused => ?_
  exact absurd hrefused.accepts (by decide)

/-- A topic whose guard refuses only the class of its type: the creation fails, and yet the proxy
stands for the new topic, and the capsule that it had is gone. -/
theorem failed_topic_moves_proxy :
    (guardedWorld (.guard "type" readOnly)).bridge.initialized = true ∧
      (guardedWorld (.guard "type" readOnly)).Supported
        (Footing (guardedWorld (.guard "type" readOnly)) ⟨22⟩) ∧
      Guarded (Session.hostAt (fun _ => false) 2)
        (fun name => if name = "type" then some readOnly else none)
        (guardedWorld (.guard "type" readOnly)) ⟨22⟩ ∧
      ¬Footing (guardedWorld (.guard "type" readOnly)) ⟨22⟩ ⟨19⟩ ∧
      ∃ w', (newsCall.act (Session.hostAt (fun _ => false) 3)).apply
            (guardedWorld (.guard "type" readOnly)) = (.error (.raised (.host readOnly)), w') ∧
        lookup (guardedWorld (.guard "type" readOnly)) ⟨22⟩ capsuleAttr = some ⟨21⟩ ∧
        lookup w' ⟨22⟩ capsuleAttr = some ⟨23⟩ ∧ (body? w' ⟨21⟩).isNone ∧
        w'.releases = [.toProvider .topic ⟨2⟩] := by
  refine ⟨rfl, supported_guarded _, guarded_guarded _ 0 "type" readOnly, ?_, ?_⟩
  · exact apart_guarded (.guard "type" readOnly) ⟨19⟩ rfl
  · have hnews : newsFailure "type" =
        some (.host readOnly, some ⟨23⟩, false, [.toProvider .topic ⟨2⟩]) := by decide +kernel
    obtain ⟨w', hfails, hcapsule, hgone, hreleases⟩ := newsFailure_eq_some hnews
    refine ⟨w', hfails, rfl, hcapsule, ?_, hreleases⟩
    rw [Option.isNone_iff_eq_none, ← Option.not_isSome_iff_eq_none, hgone]
    decide

end Bridge

end DdsBridge
