import DdsBridge.Proofs.Bridge.Ready

/-!
# New instances of the class of a structure

A class takes part in the conversion of structures if it runs no code on its new instances and does
not guard them against assignments. It may be a class of whole numbers, whose instances then have the
value zero, or an exception class, whose instances then have attributes of their own from the start.
Nothing is assumed of names that lead to no class: where a class was found or an instance was made,
this is what it is.

* **`LeadsTo`** — a name leads to no other class than its own.
* **`StructClass`** — a class whose instances can stand for structures.
* **`classOf_eq_ok`** — the class that was found for a name.
* **`Fresh`**, **`call_eq_ok`** — the instance that was made.
-/

namespace DdsBridge

open Memory

variable {C : Type}

/-- The class to which the name of a type leads: the one that is remembered, or else the one at the
end of the path. -/
def classFor? (store : ClassStore) (w : World (Body C)) (name : String) (path : ClassPath) :
    Option Ref :=
  match (w.classes store).get? name with
  | some cls => some cls
  | none => classAt? w path

/-- A name leads to the class that `classes` says, if it leads anywhere. -/
def LeadsTo (classes : String → Ref) (store : ClassStore) (w : World (Body C)) (name : String)
    (path : ClassPath) : Prop :=
  ∀ cls, classFor? store w name path = some cls → cls = classes name

/-- A name leads to its class in every world that grew. -/
theorem LeadsTo.of_grows {classes : String → Ref} {store : ClassStore} {w w' : World (Body C)}
    {name : String} {path : ClassPath} (h : LeadsTo classes store w name path) (hi : Issued w)
    (hg : w.Grows classes store w') : LeadsTo classes store w' name path := by
  intro cls hfor
  rw [classFor?] at hfor
  rcases hg.remembered name with hsame | ⟨-, hsome⟩
  · refine h cls ?_
    rwa [classFor?, ← hsame, ← classAt?_of_grows hg hi]
  · rw [hsome] at hfor
    exact (Option.some.inj hfor).symm

/-- A name that leads to a class leads to no other. -/
theorem Resolves.leadsTo {classes : String → Ref} {store : ClassStore} {w : World (Body C)}
    {name : String} {path : ClassPath} (h : Resolves classes store w name path) :
    LeadsTo classes store w name path := by
  intro cls hfor
  unfold Resolves at h
  unfold classFor? at hfor
  cases hclass : (w.classes store).get? name with
  | some found =>
      rw [hclass] at h hfor
      cases hfor
      exact h
  | none =>
      rw [hclass] at h hfor
      cases h.symm.trans hfor
      rfl

variable [HostCode C]

/-- A host in memory, or the one below all nested operations. -/
def InMemory (h : Host (Body C)) : Prop := h = stuck ∨ ∃ inner invoke, h = host inner invoke

/-- A class that neither runs code on its new instances nor guards them against assignments. An
exception class assigns two attributes of its own through the host for nested operations, and a
field of the same name replaces one of them; then nothing else may be left that could go. -/
structure StructClass (inner : Host (Body C)) (w : World (Body C)) (cls : Ref) : Prop where
  isClass : (classInfo? w cls).isSome
  noInit : initOf w cls = none
  unguarded : lookupInClass w cls "__setattr__" = none
  exception : isSubclass w cls Builtin.exception.ref = true → InMemory inner ∧ w.Settled

/-- Instances of a class without arguments can stand for structures. -/
theorem PlainClass.structClass {inner : Host (Body C)} {w : World (Body C)} {cls : Ref}
    (h : PlainClass w cls) : StructClass inner w cls :=
  ⟨h.isClass, h.noInit, h.unguarded,
    fun hexception => absurd (h.notException.symm.trans hexception) (by simp)⟩

/-- An object is a new instance of a class. Its attributes are not its own yet, or else nothing is
left in the world that could go when one of them is replaced. -/
structure Fresh (w₀ w : World (Body C)) (cls obj : Ref) (node : Node (Body C)) : Prop where
  made : w.heap.get? obj = some node
  body : ∃ value, node.body = .instance cls value
  quiet : node.attrs = .empty ∨ w₀.Settled

variable {inner : Host (Body C)} {invoke : C → List Ref → MemoryAction C Ref}
variable {classes : String → Ref} {store : ClassStore} {w₀ w w' : World (Body C)} {cls obj : Ref}

/-! ## Finding a class -/

omit [HostCode C] in
theorem follow_eq_ok {path : List String} {r : Ref}
    (hok : (path.foldlM (m := HostAction (Body C)) getAttr r).apply w = (.ok cls, w')) :
    w' = w ∧ path.foldlM (lookup w) r = some cls := by
  induction path generalizing r with
  | nil =>
      cases hok
      exact ⟨rfl, rfl⟩
  | cons name rest ih =>
      rw [List.foldlM_cons] at hok ⊢
      obtain ⟨next, w₁, hnext, hrest⟩ := Action.apply_bind_eq_ok_iff.mp hok
      obtain ⟨rfl, hlookup⟩ := getAttr_eq_ok hnext
      rw [hlookup]
      exact ih hrest

theorem findClass_eq_ok {path : ClassPath}
    (hok : (findClass (host inner invoke) path).apply w = (.ok cls, w')) :
    w' = w ∧ classAt? w path = some cls := by
  obtain ⟨module, w₁, hmodule, hpath⟩ := Action.apply_bind_eq_ok_iff.mp hok
  obtain ⟨rfl, hfound⟩ : w₁ = w ∧ w.modules.get? path.moduleName = some module := by
    obtain ⟨now, w₂, hworld, hmodule⟩ := Action.apply_bind_eq_ok_iff.mp hmodule
    cases hworld
    cases hget : w.modules.get? path.moduleName with
    | none =>
        rw [hget] at hmodule
        exact absurd (congrArg Prod.fst hmodule) (by simp)
    | some found =>
        rw [hget] at hmodule
        cases hmodule
        exact ⟨rfl, rfl⟩
  obtain ⟨rfl, hcls⟩ := follow_eq_ok hpath
  exact ⟨rfl, by rw [classAt?, hfound]; exact hcls⟩

/-- The class that was found for a name is its class, and it is remembered. -/
theorem classOf_eq_ok (hi : Issued w₀) (hx : w₀.Extends classes store w) {name : String}
    {path : ClassPath} (hleads : LeadsTo classes store w₀ name path)
    (hok : (classOf (host inner invoke) store name path).apply w = (.ok cls, w')) :
    cls = classes name ∧ w.Extends classes store w' ∧
      (w'.classes store).get? name = some (classes name) ∧ w'.heap = w.heap := by
  rw [classOf, Action.apply_bind_of_ok (Action.apply_world w)] at hok
  have hleads := hleads.of_grows hi hx.toGrows
  cases hclass : (w.classes store).get? name with
  | some found =>
      rw [hclass] at hok
      cases hok
      have hcls : cls = classes name := hleads cls (by rw [classFor?, hclass])
      exact ⟨hcls, .refl w, hcls ▸ hclass, rfl⟩
  | none =>
      rw [hclass] at hok
      obtain ⟨found, w₁, hfound, hok⟩ := Action.apply_bind_eq_ok_iff.mp hok
      obtain ⟨rfl, hpath⟩ := findClass_eq_ok hfound
      have hcls : found = classes name := hleads found (by rw [classFor?, hclass]; exact hpath)
      subst hcls
      cases hok
      refine ⟨rfl, .remember hclass, ?_, by cases store <;> rfl⟩
      have hclasses : (w₁.rememberClass store name (classes name)).classes store =
          (w₁.classes store).insert name (classes name) := by cases store <;> rfl
      rw [hclasses, Table.get?_insert, if_pos rfl]

/-! ## Making an instance -/

/-- An assignment that ended was one of a host in memory. -/
theorem InMemory.setAttr_eq_ok (hmemory : InMemory inner) {name : String} {x : Ref} {u : Unit}
    (hok : (inner.setAttr obj name x).apply w = (.ok u, w')) :
    ∃ nested, (setAttr nested obj name x).apply w = (.ok u, w') := by
  rcases hmemory with rfl | ⟨nested, code, rfl⟩
  · exact absurd (congrArg Prod.fst hok) (by simp [stuck])
  · exact ⟨nested, hok⟩

section Making

variable {v : World (Body C)} (h : StructClass inner w₀ cls) (hi : Issued w₀)
  (hg : w₀.Grows classes store v)
include h hi hg

/-- A new object as a new attribute of an instance that came since. -/
theorem attach_eq_ok (hmemory : InMemory inner) (hv : v.Grows classes store w)
    (hnew : v.heap.size ≤ obj.id) {node : Node (Body C)} {value : Option Int}
    (hobj : w.heap.get? obj = some node) (hinstance : node.body = .instance cls value)
    {name : String} (hfree : node.attrs.get? name = none) {body : Body C} {u : Unit}
    (hok : (inner.setAttr obj name (w.heap.alloc ⟨.empty, body⟩).1).apply
      { w with heap := (w.heap.alloc ⟨.empty, body⟩).2 } = (.ok u, w')) :
    ∃ heap, w' = { w with heap } ∧ v.Grows classes store { w with heap } ∧
      heap.get? obj = some
        { node with attrs := node.attrs.insert name (w.heap.alloc ⟨.empty, body⟩).1 } := by
  obtain ⟨info, hinfo⟩ := Option.isSome_iff_exists.mp h.isClass
  obtain ⟨nested, hset⟩ := hmemory.setAttr_eq_ok hok
  have hadded : v.Grows classes store { w with heap := (w.heap.alloc ⟨.empty, body⟩).2 } :=
    hv.trans (.alloc w _)
  have hobj' : (w.heap.alloc ⟨.empty, body⟩).2.get? obj = some node :=
    (Heap.get?_alloc_of_lt (Heap.lt_size_of_get? hobj)).trans hobj
  have hguard : lookupInClass { w with heap := (w.heap.alloc ⟨.empty, body⟩).2 } cls
      "__setattr__" = none :=
    (lookupInClass_of_grows (hg.trans hadded) hi (lt_of_classInfo? hinfo) _).trans h.unguarded
  rw [setAttr_unguarded hobj' hinstance hguard, World.storeAttr_eq hobj' (.inl hfree)] at hset
  refine ⟨_, (congrArg Prod.snd hset).symm, hadded.set hobj' hnew _, ?_⟩
  rw [Heap.get?_set hobj', if_pos rfl]

/-- The attributes of its own that an exception has, if it has got them. -/
theorem fillException_eq_ok (hmemory : InMemory inner) (hv : v.Grows classes store w)
    (hnew : v.heap.size ≤ obj.id) {value : Option Int}
    (hobj : w.heap.get? obj = some ⟨.empty, .instance cls value⟩) {u : Unit}
    (hok : (fillException inner obj []).apply w = (.ok u, w')) :
    ∃ heap node, w' = { w with heap } ∧ v.Grows classes store { w with heap } ∧
      heap.get? obj = some node ∧ node.body = .instance cls value := by
  obtain ⟨_, _, hmessage, hok⟩ := Action.apply_bind_eq_ok_iff.mp hok
  cases hmessage
  obtain ⟨_, _, hargs, hok⟩ := Action.apply_bind_eq_ok_iff.mp hok
  cases hargs
  obtain ⟨_, _, hset, hok⟩ := Action.apply_bind_eq_ok_iff.mp hok
  obtain ⟨heap, rfl, hv, hobj⟩ := attach_eq_ok h hi hg hmemory hv hnew hobj rfl rfl hset
  obtain ⟨_, _, htext, hok⟩ := Action.apply_bind_eq_ok_iff.mp hok
  cases htext
  obtain ⟨heap, rfl, hv, hobj⟩ := attach_eq_ok h hi hg hmemory hv hnew hobj rfl
    (by rw [Table.get?_insert, if_neg (by decide)]; rfl) hok
  exact ⟨heap, _, rfl, hv, hobj, rfl⟩

omit h hi hg [HostCode C] in
theorem instanceValue_nil (w : World (Body C)) (cls : Ref) :
    ∃ value, (instanceValue cls [] : MemoryAction C (Option Int)).apply w = (.ok value, w) := by
  rw [instanceValue, Action.apply_bind_of_ok (Action.apply_world w)]
  split
  · exact ⟨some 0, rfl⟩
  · exact ⟨none, rfl⟩

/-- An instance that was made without arguments is new, and nothing else is. -/
theorem call_eq_ok (hok : (call inner invoke cls []).apply v = (.ok obj, w')) :
    obj = ⟨v.heap.size⟩ ∧ ∃ heap node, w' = { v with heap } ∧
      v.Grows classes store { v with heap } ∧ Fresh w₀ { v with heap } cls obj node := by
  obtain ⟨info, hinfo⟩ := Option.isSome_iff_exists.mp h.isClass
  have hcls : cls.id < w₀.heap.size := lt_of_classInfo? hinfo
  obtain ⟨value, hvalue⟩ := instanceValue_nil v cls
  rw [call, Action.apply_bind_of_ok (Action.apply_world v), body?_of_grows hg hcls,
    body?_of_classInfo? hinfo] at hok
  dsimp only at hok
  cases hexception : isSubclass w₀ cls Builtin.exception.ref with
  | false =>
      rw [instantiate_quiet hi hg hcls hvalue hexception h.noInit (.inl rfl)] at hok
      cases hok
      exact ⟨rfl, _, _, rfl, .alloc v _, Heap.get?_alloc_self _ _, ⟨value, rfl⟩, .inl rfl⟩
  -- an exception remembers its arguments, which is an attribute more
  | true =>
      obtain ⟨hmemory, hsettled⟩ := h.exception hexception
      rw [instantiate, Action.apply_bind_of_ok hvalue,
        Action.apply_bind_of_ok (Action.apply_alloc _ _)] at hok
      obtain ⟨_, _, hpinning, hreturn⟩ := Action.apply_bind_eq_ok_iff.mp hok
      obtain ⟨w₁, hfilled, rfl⟩ := Action.apply_pinning_eq_ok hpinning
      obtain ⟨rfl, rfl⟩ : obj = (v.heap.alloc ⟨.empty, .instance cls value⟩).1 ∧
          w' = { w₁ with pinned := v.pinned } := by
        cases hreturn
        exact ⟨rfl, rfl⟩
      have hpinned : v.Grows classes store
          { v with
            heap := (v.heap.alloc ⟨.empty, .instance cls value⟩).2
            pinned := [(v.heap.alloc ⟨.empty, .instance cls value⟩).1] ++ v.pinned } :=
        (World.Grows.alloc v _).pinned _
      rw [Action.apply_bind_of_ok (Action.apply_world _), isSubclass_of_grows (hg.trans hpinned) hcls,
        hexception, if_pos rfl] at hfilled
      obtain ⟨_, w₂, hfill, hrest⟩ := Action.apply_bind_eq_ok_iff.mp hfilled
      obtain ⟨heap, node, rfl, hgrown, hnode, hbody⟩ := fillException_eq_ok h hi hg hmemory hpinned
        (Nat.le_refl _) (Heap.get?_alloc_self _ _) hfill
      rw [Action.apply_bind_of_ok (Action.apply_world _), initOf_of_grows (hg.trans hgrown) hi hcls,
        h.noInit] at hrest
      cases hrest
      exact ⟨rfl, heap, node, rfl, hgrown.pinned _, hnode, ⟨value, hbody⟩, .inr hsettled⟩

end Making

end DdsBridge
