import DdsBridge.Bridge.Proxies
import DdsBridge.Bridge.Registry
import DdsBridge.Proofs.Bridge.Ready

/-!
# What a proxy stands for

A proxy stands for an entity through its capsule, and a reader or writer proxy has a topic type
through its topic proxy. Following these links changes nothing if they lead somewhere.

* **`StandsFor`** — a proxy stands for a live entity.
* **`TypedBy`** — a reader or writer proxy has a topic type.
* **`resolveAs_eq_ok_iff`**, **`topicTypeOf_eq_ok_iff`** — these are what the look-ups find.
* **`Proxies.resolveAs_tests`** — what a look-up does that finds nothing.
-/

namespace DdsBridge

open Memory

variable {C : Type}

/-- The capsule of a proxy names a live entity of a kind. -/
def StandsFor (w : World (Body C)) (proxy : Ref) (kind : EntityKind) (handle : Handle) : Prop :=
  ∃ wrapped, lookup w proxy Proxies.capsuleAttr = some wrapped ∧
    capsuleHandle w wrapped = some (kind, handle) ∧ w.provider.isAlive handle = true

/-- The class on the topic proxy of a reader or writer proxy is registered for a type. -/
def TypedBy (w : World (Body C)) (proxy : Ref) (s : StructType) : Prop :=
  ∃ topic cls, lookup w proxy Registry.topicAttr = some topic ∧
    lookup w topic Registry.typeAttr = some cls ∧ w.bridge.registry.get? cls = some s

variable [HostCode C] {inner : Host (Body C)} {invoke : C → List Ref → MemoryAction C Ref}
variable {w w' : World (Body C)} {proxy : Ref}

theorem getAttr_attempt_of_found {ε : Type} {obj found : Ref} {name : String}
    (h : lookup w obj name = some found) :
    (((host inner invoke).getAttr obj name).attempt : Action (Body C) ε _).apply w =
      (.ok (.ok found), w) :=
  Action.apply_attempt_of_ok (getAttr_found h)

theorem getAttr_attempt_of_missing {ε : Type} {obj : Ref} {name : String}
    (h : lookup w obj name = none) :
    (((host inner invoke).getAttr obj name).attempt : Action (Body C) ε _).apply w =
      (.ok (.error (noAttribute w obj name)), w) := by
  have hget : ((host inner invoke).getAttr obj name).apply w =
      (.error (.raised (noAttribute w obj name)), w) := by
    show (getAttr obj name : MemoryAction C Ref).apply w = _
    rw [getAttr, Action.apply_bind_of_ok (Action.apply_world w), h]
    rfl
  rw [Action.apply_attempt, hget]

/-- Looking at an attribute changes nothing. -/
theorem getAttr_attempt_eq_ok {ε : Type} {obj : Ref} {name : String} {result : Except HostError Ref}
    (h : (((host inner invoke).getAttr obj name).attempt : Action (Body C) ε _).apply w =
      (.ok result, w')) : w' = w ∧ result.toOption = lookup w obj name := by
  cases hfound : lookup w obj name with
  | some found =>
      rw [getAttr_attempt_of_found hfound] at h
      cases h
      exact ⟨rfl, rfl⟩
  | none =>
      rw [getAttr_attempt_of_missing hfound] at h
      cases h
      exact ⟨rfl, rfl⟩

omit [HostCode C] in
theorem missing_ne_ok {α : Type} {role expected : String} {a : α} :
    (Proxies.missing role expected : BridgeAction (Body C) α).apply w ≠ (.ok a, w') :=
  fun h => absurd (congrArg Prod.fst h) (by simp [Proxies.missing])

/-- What a proxy's capsule names, found without a change. -/
theorem heldBy_eq_ok_iff {role expected : String} {held : EntityKind × Handle} :
    (Proxies.heldBy (host inner invoke) proxy role expected).apply w = (.ok held, w') ↔
      w' = w ∧ ∃ wrapped, lookup w proxy Proxies.capsuleAttr = some wrapped ∧
        capsuleHandle w wrapped = some held := by
  constructor
  · intro h
    obtain ⟨result, w₁, hget, h⟩ := Action.apply_bind_eq_ok_iff.mp h
    obtain ⟨rfl, hfound⟩ := getAttr_attempt_eq_ok hget
    cases result with
    | error error => exact absurd h missing_ne_ok
    | ok wrapped =>
        dsimp only at h
        rw [Action.apply_bind_of_ok (Action.apply_world w₁)] at h
        split at h
        · rename_i found hheld
          cases h
          exact ⟨rfl, wrapped, hfound.symm, hheld⟩
        · exact absurd h missing_ne_ok
  · rintro ⟨rfl, wrapped, hfound, hheld⟩
    rw [Proxies.heldBy, Action.apply_bind_of_ok (getAttr_attempt_of_found hfound)]
    dsimp only
    rw [Action.apply_bind_of_ok (Action.apply_world w')]
    have hhandle : (host inner invoke).capsuleHandle w' wrapped = some held := hheld
    rw [hhandle]
    rfl

theorem heldAs_eq_ok_iff {kind : EntityKind} {role : String} {handle : Handle} :
    (Proxies.heldAs (host inner invoke) proxy kind role).apply w = (.ok handle, w') ↔
      w' = w ∧ ∃ wrapped, lookup w proxy Proxies.capsuleAttr = some wrapped ∧
        capsuleHandle w wrapped = some (kind, handle) := by
  constructor
  · intro h
    obtain ⟨⟨found, handle'⟩, w₁, hheld, hkind⟩ := Action.apply_bind_eq_ok_iff.mp h
    obtain ⟨rfl, hwrapped⟩ := heldBy_eq_ok_iff.mp hheld
    dsimp only at hkind
    split at hkind
    · rename_i heq
      cases hkind
      exact ⟨rfl, heq ▸ hwrapped⟩
    · exact absurd hkind missing_ne_ok
  · intro h
    rw [Proxies.heldAs, Action.apply_bind_of_ok (heldBy_eq_ok_iff.mpr h)]
    dsimp only
    rw [if_pos rfl, h.1]
    rfl

theorem requireAlive_eq_ok {kind : EntityKind} {role : String} {handle : Handle}
    (h : (Proxies.requireAlive (host inner invoke) proxy handle role kind).apply w = (.ok (), w')) :
    w' = w ∧ w.provider.isAlive handle = true := by
  unfold Proxies.requireAlive at h
  rw [Action.apply_bind_of_ok (Action.apply_world w)] at h
  split at h
  · rename_i hlive
    cases h
    exact ⟨rfl, hlive⟩
  · obtain ⟨_, _, _, hmissing⟩ := Action.apply_bind_eq_ok_iff.mp h
    exact absurd hmissing missing_ne_ok

/-- A proxy that is resolved stands for a live entity, and nothing changes. -/
theorem resolve_eq_ok {kind : EntityKind} {role : String} {handle : Handle}
    (h : (Proxies.resolve (host inner invoke) proxy role).apply w = (.ok (kind, handle), w')) :
    w' = w ∧ StandsFor w proxy kind handle := by
  obtain ⟨held, w₁, hheld, hrest⟩ := Action.apply_bind_eq_ok_iff.mp h
  obtain ⟨rfl, wrapped, hwrapped, hhandle⟩ := heldBy_eq_ok_iff.mp hheld
  obtain ⟨_, w₂, halive, hdone⟩ := Action.apply_bind_eq_ok_iff.mp hrest
  obtain ⟨rfl, hlive⟩ := requireAlive_eq_ok halive
  cases hdone
  exact ⟨rfl, wrapped, hwrapped, hhandle, hlive⟩

/-- A proxy is resolved if it stands for a live entity, and then nothing changes. -/
theorem resolveAs_eq_ok_iff {kind : EntityKind} {role : String} {handle : Handle} :
    (Proxies.resolveAs (host inner invoke) proxy kind role).apply w = (.ok handle, w') ↔
      w' = w ∧ StandsFor w proxy kind handle := by
  constructor
  · intro h
    obtain ⟨found, w₁, hheld, hrest⟩ := Action.apply_bind_eq_ok_iff.mp h
    obtain ⟨rfl, wrapped, hwrapped, hhandle⟩ := heldAs_eq_ok_iff.mp hheld
    obtain ⟨_, w₂, halive, hdone⟩ := Action.apply_bind_eq_ok_iff.mp hrest
    obtain ⟨rfl, hlive⟩ := requireAlive_eq_ok halive
    cases hdone
    exact ⟨rfl, wrapped, hwrapped, hhandle, hlive⟩
  · rintro ⟨rfl, wrapped, hwrapped, hhandle, hlive⟩
    rw [Proxies.resolveAs,
      Action.apply_bind_of_ok (heldAs_eq_ok_iff.mpr ⟨rfl, wrapped, hwrapped, hhandle⟩)]
    have halive : (Proxies.requireAlive (host inner invoke) proxy handle role kind).apply w' =
        (.ok (), w') := by
      rw [Proxies.requireAlive, Action.apply_bind_of_ok (Action.apply_world w'), if_pos hlive]
      rfl
    rw [Action.apply_bind_of_ok halive]
    rfl

namespace Proxies

/-! ## What a look-up does otherwise -/

/-- A proxy has lost the capsule that it had of its own, if it had one. -/
def Loses (proxy : Ref) (w w' : World (Body C)) : Prop :=
  w' = w.removeAttr proxy capsuleAttr ∨ ownAttr? w proxy capsuleAttr = none ∧ w' = w

theorem Loses.attrAt (h : Loses proxy w w') : w'.attrAt proxy capsuleAttr = none := by
  rcases h with rfl | ⟨hown, rfl⟩
  · exact w.removeAttr_attrAt proxy capsuleAttr
  · exact hown

/-- Nothing happened to other objects. -/
theorem Loses.upholds {P : Ref → Prop} {Changes : Ref → String → Prop} (h : Loses proxy w w')
    (hs : w.Supported P) (hproxy : ¬P proxy) : w.Upholds P Changes w' := by
  rcases h with rfl | ⟨-, rfl⟩
  · exact hs.removeAttr fun hmem => absurd hmem hproxy
  · exact .refl w'

theorem unbind_loses : ∃ w', (unbind (host inner invoke) proxy).apply w = (.ok (), w') ∧
    Loses proxy w w' := by
  have hdel : (unbind (host inner invoke) proxy).apply w = _ := Action.apply_bind ..
  rw [show (host inner invoke).delAttr proxy capsuleAttr = delAttr proxy capsuleAttr from rfl,
    Action.apply_attempt, delAttr, Action.apply_bind_of_ok (Action.apply_world w)] at hdel
  cases hown : ownAttr? w proxy capsuleAttr with
  | some wrapped =>
      rw [hown] at hdel
      exact ⟨_, hdel, .inl rfl⟩
  | none =>
      rw [hown] at hdel
      exact ⟨w, hdel, .inr ⟨hown, rfl⟩⟩

/-- A proxy whose entity is gone loses its capsule. -/
theorem requireAlive_of_gone {kind : EntityKind} {role : String} {handle : Handle}
    (hgone : w.provider.isAlive handle = false) :
    ∃ w', (requireAlive (host inner invoke) proxy handle role kind).apply w =
        (.error (.raised (.handleMissing role kind.name)), w') ∧ Loses proxy w w' := by
  obtain ⟨w', hunbind, hloses⟩ : ∃ w', (unbind (host inner invoke) proxy).apply w = (.ok (), w') ∧
    Loses proxy w w' := unbind_loses
  refine ⟨w', ?_, hloses⟩
  rw [requireAlive, Action.apply_bind_of_ok (Action.apply_world w), if_neg (by simp [hgone]),
    Action.apply_bind_of_ok hunbind]
  rfl

theorem requireAlive_of_alive {kind : EntityKind} {role : String} {handle : Handle}
    (halive : w.provider.isAlive handle = true) :
    (requireAlive (host inner invoke) proxy handle role kind).apply w = (.ok (), w) := by
  rw [requireAlive, Action.apply_bind_of_ok (Action.apply_world w), if_pos halive]
  rfl

theorem heldAs_tests (kind : EntityKind) (role : String) :
    (heldAs (host inner invoke) proxy kind role).TestsAt Eq w := by
  have hheld : (heldBy (host inner invoke) proxy role kind.name).TestsAt Eq w := by
    refine .bind (.attempt (getAttr_tests proxy capsuleAttr)) fun found _ => ?_
    cases found with
    | error error => exact .of_error rfl
    | ok wrapped =>
        refine .bind (.of_ok (Action.apply_world w)) fun _ h => ?_
        cases h
        split
        · exact .of_ok rfl
        · exact .of_error rfl
  refine .bind hheld fun held _ => ?_
  dsimp only
  split
  · exact .of_ok rfl
  · exact .of_error rfl

/-- A look-up that fails changes nothing, unless the proxy loses a stale capsule. -/
theorem resolveAs_tests (kind : EntityKind) (role : String) :
    (resolveAs (host inner invoke) proxy kind role).TestsAt
      (fun w w' => w' = w ∨ Loses proxy w w') w := by
  refine .bind ((heldAs_tests kind role).mono fun h => .inl h.symm) fun handle _ => ?_
  refine .bind ?_ fun _ _ => .of_ok rfl
  cases halive : w.provider.isAlive handle with
  | true => exact .of_ok (requireAlive_of_alive halive)
  | false =>
      obtain ⟨w', hfails, hloses⟩ : ∃ w', (requireAlive (host inner invoke) proxy handle role
          kind).apply w = (.error (.raised (.handleMissing role kind.name)), w') ∧
          Loses proxy w w' := requireAlive_of_gone halive
      exact .inr ⟨_, w', hfails, .inr hloses⟩

end Proxies

theorem lookupType_eq_ok_iff {cls : Ref} {s : StructType} :
    (Registry.lookupType (host inner invoke) cls).apply w = (.ok s, w') ↔
      w' = w ∧ w.bridge.registry.get? cls = some s := by
  rw [Registry.lookupType, Action.apply_bind_of_ok (Action.apply_world w)]
  constructor
  · intro h
    split at h
    · rename_i found hfound
      cases h
      exact ⟨rfl, hfound⟩
    · obtain ⟨_, _, _, hraise⟩ := Action.apply_bind_eq_ok_iff.mp h
      exact absurd (congrArg Prod.fst hraise) (by simp)
  · rintro ⟨rfl, hfound⟩
    rw [hfound]
    rfl

/-- The topic type of a proxy is found if there is one, and then nothing changes. -/
theorem topicTypeOf_eq_ok_iff {s : StructType} :
    (Registry.topicTypeOf (host inner invoke) proxy).apply w = (.ok s, w') ↔
      w' = w ∧ TypedBy w proxy s := by
  constructor
  · intro h
    obtain ⟨topic, w₁, htopic, h⟩ := Action.apply_bind_eq_ok_iff.mp h
    obtain ⟨rfl, hfound⟩ := getAttr_attempt_eq_ok htopic
    cases topic with
    | error error =>
        obtain ⟨_, _, _, hraise⟩ := Action.apply_bind_eq_ok_iff.mp h
        exact absurd (congrArg Prod.fst hraise) (by simp)
    | ok topic =>
        obtain ⟨cls, w₂, hcls, h⟩ := Action.apply_bind_eq_ok_iff.mp h
        obtain ⟨rfl, hclass⟩ := getAttr_attempt_eq_ok hcls
        cases cls with
        | error error =>
            obtain ⟨_, _, _, hraise⟩ := Action.apply_bind_eq_ok_iff.mp h
            exact absurd (congrArg Prod.fst hraise) (by simp)
        | ok cls =>
            obtain ⟨rfl, hs⟩ := lookupType_eq_ok_iff.mp h
            exact ⟨rfl, topic, cls, hfound.symm, hclass.symm, hs⟩
  · rintro ⟨rfl, topic, cls, htopic, hcls, hs⟩
    rw [Registry.topicTypeOf, Action.apply_bind_of_ok (getAttr_attempt_of_found htopic)]
    dsimp only
    rw [Action.apply_bind_of_ok (getAttr_attempt_of_found hcls)]
    exact lookupType_eq_ok_iff.mpr ⟨rfl, hs⟩

omit [HostCode C] in
/-- A proxy has one topic type. -/
theorem TypedBy.unique {s t : StructType} (h : TypedBy w proxy s) (h' : TypedBy w proxy t) :
    s = t := by
  obtain ⟨topic, cls, htopic, hcls, hs⟩ := h
  obtain ⟨topic', cls', htopic', hcls', ht⟩ := h'
  cases htopic.symm.trans htopic'
  cases hcls.symm.trans hcls'
  exact Option.some.inj (hs.symm.trans ht)

end DdsBridge
