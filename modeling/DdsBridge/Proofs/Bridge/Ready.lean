import DdsBridge.Bridge.Marshal
import DdsBridge.Proofs.Host.Memory.Settled

/-!
# Classes that are ready

The host class of a type is ready if its name leads to it, from what is remembered or else along
its path, and if its instances can be made without running host code. Then finding the class,
making an instance and storing an attribute on it are plain additions to the world.

* **`Resolves`** — a name leads to a class.
* **`PlainClass`**, **`NumberClass`** — the classes of structures and of enumerations.
* **`IdlType.Ready`** — the classes of a type and of everything nested in it.
* **`classOf_ready`**, **`call_plain`**, **`call_number`**, **`setAttr_unguarded`** — what the host
  does with such classes.
-/

namespace DdsBridge

open Memory

variable {C : Type}

/-- The class of a name is the one that `classes` says: the one that is remembered, or else the one
at the end of the path. -/
def Resolves (classes : String → Ref) (store : ClassStore) (w : World (Body C)) (name : String)
    (path : ClassPath) : Prop :=
  match (w.classes store).get? name with
  | some cls => cls = classes name
  | none => classAt? w path = some (classes name)

/-- A class that takes no arguments and neither runs code on its new instances nor guards them
against assignments. -/
structure PlainClass (w : World (Body C)) (cls : Ref) : Prop where
  isClass : (classInfo? w cls).isSome
  notNumber : isSubclass w cls Builtin.int.ref = false
  notException : isSubclass w cls Builtin.exception.ref = false
  noInit : initOf w cls = none
  unguarded : lookupInClass w cls "__setattr__" = none

/-- A class of whole numbers that runs no code on its new instances. -/
structure NumberClass (w : World (Body C)) (cls : Ref) : Prop where
  isClass : (classInfo? w cls).isSome
  isNumber : isSubclass w cls Builtin.int.ref = true
  notException : isSubclass w cls Builtin.exception.ref = false
  noInit : initOf w cls = none

mutual

/-- The classes of a type and of everything nested in it are ready. -/
def IdlType.Ready (classes : String → Ref) (store : ClassStore) (w : World (Body C)) :
    IdlType → Prop
  | .enumeration e =>
    Resolves classes store w e.name e.host ∧ NumberClass w (classes e.name)
  | .struct head fields =>
    Resolves classes store w head.name head.host ∧ PlainClass w (classes head.name) ∧
      fields.Ready classes store w
  | .seq item => item.Ready classes store w
  | _ => True

/-- The classes of the types of fields are ready. -/
def Fields.Ready (classes : String → Ref) (store : ClassStore) (w : World (Body C)) :
    Fields → Prop
  | .nil => True
  | .cons _ type rest => type.Ready classes store w ∧ rest.Ready classes store w

end

variable {inner : Host (Body C)} {invoke : C → List Ref → MemoryAction C Ref}
variable {classes : String → Ref} {store : ClassStore} {w₀ w : World (Body C)}

/-! ## Following a path -/

theorem getAttr_found {r found : Ref} {name : String} (h : lookup w r name = some found) :
    (getAttr r name : MemoryAction C Ref).apply w = (.ok found, w) := by
  rw [getAttr, Action.apply_bind_of_ok (Action.apply_world w), h]
  rfl

/-- What is read is what a look-up finds, and nothing else happens. -/
theorem getAttr_eq_ok {w' : World (Body C)} {r found : Ref} {name : String}
    (hok : (getAttr r name : MemoryAction C Ref).apply w = (.ok found, w')) :
    w' = w ∧ lookup w r name = some found := by
  rw [getAttr, Action.apply_bind_of_ok (Action.apply_world w)] at hok
  cases hlookup : lookup w r name with
  | none =>
      rw [hlookup] at hok
      exact absurd (congrArg Prod.fst hok) (by simp)
  | some x =>
      rw [hlookup] at hok
      cases hok
      exact ⟨rfl, rfl⟩

/-- An attribute is read or missing. -/
theorem getAttr_tests (obj : Ref) (name : String) :
    (getAttr obj name : MemoryAction C Ref).TestsAt Eq w := by
  unfold getAttr
  refine .bind (.of_ok (Action.apply_world w)) fun _ h => ?_
  cases h
  cases lookup w obj name with
  | some found => exact .of_ok rfl
  | none => exact .of_error rfl

theorem follow_found {path : List String} {r cls : Ref}
    (h : path.foldlM (lookup w) r = some cls) :
    (path.foldlM (m := HostAction (Body C)) getAttr r).apply w = (.ok cls, w) := by
  induction path generalizing r with
  | nil =>
      cases h
      rfl
  | cons name rest ih =>
      rw [List.foldlM_cons] at h ⊢
      obtain ⟨next, hnext, hrest⟩ := Option.bind_eq_some_iff.mp h
      rw [Action.apply_bind_of_ok (getAttr_found hnext)]
      exact ih hrest

/-! ## Making an instance -/

/-- A new instance of a class that runs no code on it. -/
theorem instantiate_quiet {cls : Ref} {info : ClassInfo C} {args : List Ref}
    {value : Option Int} (hi : Issued w₀) (hg : w₀.Grows classes store w)
    (hcls : cls.id < w₀.heap.size)
    (hvalue : (instanceValue cls args : MemoryAction C (Option Int)).apply w = (.ok value, w))
    (hexception : isSubclass w₀ cls Builtin.exception.ref = false)
    (hinit : initOf w₀ cls = none) (hargs : args = [] ∨ value.isSome) :
    (instantiate inner invoke cls info args).apply w =
      (.ok (w.heap.alloc ⟨.empty, .instance cls value⟩).1,
        { w with heap := (w.heap.alloc ⟨.empty, .instance cls value⟩).2 }) := by
  have hg' : ∀ refs, w₀.Grows classes store
      { w with
        heap := (w.heap.alloc ⟨.empty, .instance cls value⟩).2
        pinned := refs } := fun refs => (hg.trans (.alloc w _)).pinned refs
  rw [instantiate, Action.apply_bind_of_ok hvalue,
    Action.apply_bind_of_ok (Action.apply_alloc _ _)]
  refine Action.apply_bind_of_ok (a := ()) (Action.apply_pinning_of_unchanged ?_)
  rw [Action.apply_bind_of_ok (Action.apply_world _), isSubclass_of_grows (hg' _) hcls, hexception,
    if_neg (by simp)]
  rw [Action.apply_bind_of_ok (Action.apply_world _), initOf_of_grows (hg' _) hi hcls, hinit]
  dsimp only
  rw [if_neg]
  · rfl
  · rcases hargs with rfl | hvalue
    · simp
    · simp [Option.isNone_iff_eq_none, Option.isSome_iff_ne_none.mp hvalue]

variable (inner) (invoke) in
/-- A new instance of the class of a structure. -/
theorem call_plain (hi : Issued w₀) (hg : w₀.Grows classes store w) {cls : Ref}
    (h : PlainClass w₀ cls) :
    (call inner invoke cls []).apply w =
      (.ok (w.heap.alloc ⟨.empty, .instance cls none⟩).1,
        { w with heap := (w.heap.alloc ⟨.empty, .instance cls none⟩).2 }) := by
  obtain ⟨info, hinfo⟩ := Option.isSome_iff_exists.mp h.isClass
  have hcls : cls.id < w₀.heap.size := lt_of_classInfo? hinfo
  have hvalue : (instanceValue cls [] : MemoryAction C (Option Int)).apply w = (.ok none, w) := by
    rw [instanceValue, Action.apply_bind_of_ok (Action.apply_world w),
      isSubclass_of_grows hg hcls, h.notNumber, if_neg (by simp)]
    rfl
  rw [call, Action.apply_bind_of_ok (Action.apply_world w), body?_of_grows hg hcls,
    body?_of_classInfo? hinfo]
  exact instantiate_quiet hi hg hcls hvalue h.notException h.noInit (.inl rfl)

/-- A new instance of the class of an enumeration, from its number. -/
theorem call_number (hi : Issued w₀) (hg : w₀.Grows classes store w) {cls arg : Ref} {n : Int}
    (h : NumberClass w₀ cls) (harg : intValue? w arg = some n) :
    (call inner invoke cls [arg]).apply w =
      (.ok (w.heap.alloc ⟨.empty, .instance cls (some n)⟩).1,
        { w with heap := (w.heap.alloc ⟨.empty, .instance cls (some n)⟩).2 }) := by
  obtain ⟨info, hinfo⟩ := Option.isSome_iff_exists.mp h.isClass
  have hcls : cls.id < w₀.heap.size := lt_of_classInfo? hinfo
  have hvalue : (instanceValue cls [arg] : MemoryAction C (Option Int)).apply w =
      (.ok (some n), w) := by
    rw [instanceValue, Action.apply_bind_of_ok (Action.apply_world w),
      isSubclass_of_grows hg hcls, h.isNumber, if_pos rfl]
    dsimp only
    rw [harg]
    rfl
  rw [call, Action.apply_bind_of_ok (Action.apply_world w), body?_of_grows hg hcls,
    body?_of_classInfo? hinfo]
  exact instantiate_quiet hi hg hcls hvalue h.notException h.noInit (.inr rfl)

variable [HostCode C]

/-! ## Finding a class -/

theorem findClass_found {path : ClassPath} {cls : Ref} (h : classAt? w path = some cls) :
    (findClass (host inner invoke) path).apply w = (.ok cls, w) := by
  obtain ⟨module, hmodule, hpath⟩ := Option.bind_eq_some_iff.mp h
  have himport : ((host inner invoke).importModule path.moduleName).apply w =
      (.ok module, w) := by
    show ((do
      match (← Action.world).modules.get? path.moduleName with
      | some module => return module
      | none => Action.raise _ : HostAction (Body C) Ref)).apply w = _
    rw [Action.apply_bind_of_ok (Action.apply_world w), hmodule]
    rfl
  rw [findClass, Action.apply_bind_of_ok himport]
  exact follow_found hpath

variable (inner) (invoke) in
/-- A class that is ready is found. -/
theorem classOf_ready (hi : Issued w₀) (hg : w₀.Grows classes store w) {name : String}
    {path : ClassPath} (h : Resolves classes store w₀ name path) :
    ∃ w', (classOf (host inner invoke) store name path).apply w = (.ok (classes name), w') := by
  rw [classOf, Action.apply_bind_of_ok (Action.apply_world w)]
  unfold Resolves at h
  -- what is remembered was remembered then or is what the path leads to
  rcases hg.remembered name with hsame | ⟨-, hsome⟩
  · cases hclass : (w.classes store).get? name with
    | some cls =>
        rw [← hsame, hclass] at h
        cases h
        exact ⟨w, rfl⟩
    | none =>
        rw [← hsame, hclass] at h
        have hfound : classAt? w path = some (classes name) :=
          (classAt?_of_grows hg hi path).trans h
        dsimp only
        rw [Action.apply_bind_of_ok (findClass_found hfound)]
        exact ⟨w.rememberClass store name (classes name), rfl⟩
  · rw [hsome]
    exact ⟨w, rfl⟩

/-- A class that was remembered is found at once. -/
theorem classOf_remembered {name : String} {path : ClassPath} {cls : Ref}
    (h : (w.classes store).get? name = some cls) :
    (classOf (host inner invoke) store name path).apply w = (.ok cls, w) := by
  rw [classOf, Action.apply_bind_of_ok (Action.apply_world w), h]
  rfl

/-! ## Storing attributes -/

/-- An attribute of an instance of a class without a guard. -/
theorem setAttr_unguarded {obj cls x : Ref} {value : Option Int} {node : Node (Body C)}
    {name : String} (hobj : w.heap.get? obj = some node) (hbody : node.body = .instance cls value)
    (hguard : lookupInClass w cls "__setattr__" = none) :
    (setAttr inner obj name x).apply w = (.ok (), w.storeAttr obj name x) := by
  have hkind : body? w obj = some (.instance cls value) := by
    rw [body?, hobj, Option.map_some, hbody]
  have hguardOf : guardOf w obj = none := by rw [guardOf, hkind]; exact hguard
  rw [setAttr, Action.apply_bind_of_ok (Action.apply_world w), hguardOf]
  dsimp only
  rw [Action.apply_bind_of_ok (Action.apply_world w), hkind]
  rw [if_pos (show takesAttrs (some (Body.instance cls value)) = true from rfl),
    Action.apply_change]

end DdsBridge
