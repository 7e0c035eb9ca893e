import DdsBridge.Proofs.Bridge.Construction
import DdsBridge.Proofs.Bridge.Marshal
import DdsBridge.Proofs.Host.Memory.Unguarded

/-!
# Conversions that leave an object alone

The conversion of a value to the host makes new objects and fills those alone. It runs host code, too:
the constructors and the guards of the classes that it instantiates. If that code leaves an object
alone, so does the conversion: by induction on the type, no part of it writes to an object that was
there before.

* **`IdlType.Mentions`** — the classes that a conversion looks for.
* **`Marshal.Undisturbed`** — what is relied on while an object is left alone.
* **`Marshal.Part`** — a new instance in the hands of the conversion.
* **`Undisturbed.setAttr_spares`**, **`Undisturbed.call_spares`** — the operations that run host code.
* **`Undisturbed.toHost_spares`**, **`Undisturbed.fieldsToHost_spares`** — whole conversions.
-/

namespace DdsBridge

open Memory

mutual

/-- A class that the conversion of a value of a type looks for: its name and its path. -/
def IdlType.Mentions : IdlType → String → ClassPath → Prop
  | .enumeration e, name, path => name = e.name ∧ path = e.host
  | .struct head fields, name, path =>
    (name = head.name ∧ path = head.host) ∨ fields.Mentions name path
  | .seq item, name, path => item.Mentions name path
  | _, _, _ => False

/-- A class that the conversion of fields looks for; fields that the host does not see are not
converted. -/
def Fields.Mentions : Fields → String → ClassPath → Prop
  | .nil, _, _ => False
  | .cons field type rest, name, path =>
    (field.hostName.isSome ∧ type.Mentions name path) ∨ rest.Mentions name path

end

variable {C : Type}

namespace Marshal

/-- A class to which a name among the fields of a structure leads in some world of a set. -/
def NestedClass (I : World (Body C) → Prop) (store : ClassStore) (s : StructType) (cls : Ref) : Prop :=
  ∃ w name path, I w ∧ s.fields.Mentions name path ∧ classFor? store w name path = some cls

/-- The bodies of the objects that a conversion makes by itself. -/
inductive Made (nested : Ref → Prop) : Body C → Prop
  | int (n : Int) : Made nested (.int n)
  | float (x : Number.Binary64) : Made nested (.float x)
  | str (text : String) : Made nested (.str text)
  | list (items : List Ref) : Made nested (.list items)
  | «instance» {cls : Ref} (number : Option Int) (h : nested cls) : Made nested (.instance cls number)

variable [HostCode C]

/-- What the conversion of a structure into an existing object relies on. The worlds of a set are
those that it may come through; objects numbered from `first` on are new in them. The steps of the
conversion itself lead from one of these worlds to another, and so does the host code that it runs,
which leaves the object alone: the constructors and the guards of the classes to which the names among
the fields lead, and what tells the name of the object's class for an error. -/
structure Undisturbed (I : World (Body C) → Prop) (inner : Host (Body C))
    (invoke : C → List Ref → MemoryAction C Ref) (store : ClassStore) (s : StructType)
    (first : Nat) (obj : Ref) : Prop where
  older : obj.id < first
  room : ∀ {w}, I w → first ≤ w.heap.size
  unguarded : ∀ {w}, I w → Unguarded w obj
  isClass : ∀ {w name path cls}, I w → s.fields.Mentions name path →
    classFor? store w name path = some cls → (classInfo? w cls).isSome
  pinned : ∀ {w} pinned, I w → I { w with pinned }
  alloc : ∀ {w body}, I w → Made (NestedClass I store s) body →
    I { w with heap := (w.heap.alloc ⟨.empty, body⟩).2 }
  remember : ∀ {w name path cls}, I w → s.type.Mentions name path →
    (w.classes store).get? name = none → classFor? store w name path = some cls →
      I (w.rememberClass store name cls)
  storeAttr : ∀ {w x cls number} name value, I w → NestedClass I store s cls → first ≤ x.id →
    body? w x = some (.instance cls number) → I (w.storeAttr x name value)
  init : ∀ {w cls code x args}, NestedClass I store s cls → initOf w cls = some code →
    first ≤ x.id → (∀ arg ∈ args, first ≤ arg.id) →
      (invoke code (x :: args)).WithinAt (World.Sparing I obj) w
  fill : ∀ {w cls number x args}, NestedClass I store s cls →
    isSubclass w cls Builtin.exception.ref = true → first ≤ x.id →
    body? w x = some (.instance cls number) → (∀ arg ∈ args, first ≤ arg.id) →
      (fillException inner x args).WithinAt (World.Sparing I obj) w
  guard : ∀ {w cls number x guard name value}, I w → NestedClass I store s cls → first ≤ x.id →
    body? w x = some (.instance cls number) → guardOf w x = some guard →
      (inner.call guard [x, (w.heap.alloc ⟨.empty, .str name⟩).1, value]).WithinAt
        (World.Sparing I obj) { w with heap := (w.heap.alloc ⟨.empty, .str name⟩).2 }
  describe : ((host inner invoke).describe obj : BridgeAction (Body C) String).Within
    (World.Sparing I obj)

/-- A new object that is, as long as it is there, an instance of a class to which a name among the
fields leads. -/
structure Part (I : World (Body C) → Prop) (store : ClassStore) (s : StructType) (first : Nat)
    (w : World (Body C)) (x : Ref) : Prop where
  new : first ≤ x.id
  issued : x.id < w.heap.size
  ofNested : ∀ {body}, body? w x = some body →
    ∃ cls number, body = .instance cls number ∧ NestedClass I store s cls

variable {I : World (Body C) → Prop} {inner : Host (Body C)}
variable {invoke : C → List Ref → MemoryAction C Ref} {store : ClassStore} {s : StructType}
variable {first : Nat} {obj x : Ref} {w w' : World (Body C)}

omit [HostCode C] in
theorem Part.spared (hp : Part I store s first w x) (h : w.Spares obj w') :
    Part I store s first w' x where
  new := hp.new
  issued := Nat.lt_of_lt_of_le hp.issued h.size_le
  ofNested := fun hbody => hp.ofNested (h.back x _ hp.issued hbody)

omit [HostCode C] in
theorem Part.pinning (hp : Part I store s first w x) (pinned : List Ref) :
    Part I store s first { w with pinned } x :=
  ⟨hp.new, hp.issued, hp.ofNested⟩

/-! ## Finding classes -/

omit [HostCode C] in
theorem follow_tests (path : List String) (r : Ref) :
    (path.foldlM (m := HostAction (Body C)) getAttr r).TestsAt Eq w := by
  induction path generalizing r with
  | nil => exact .of_ok rfl
  | cons name rest ih =>
      rw [List.foldlM_cons]
      exact .bind (getAttr_tests r name) fun next _ => ih next

/-- Following a path changes nothing. -/
theorem findClass_tests (inner : Host (Body C)) (invoke : C → List Ref → MemoryAction C Ref)
    (path : ClassPath) : (findClass (host inner invoke) path).TestsAt Eq w := by
  have himport : ((host inner invoke).importModule path.moduleName).TestsAt Eq w := by
    refine .bind (.of_ok (Action.apply_world w)) fun now hnow => ?_
    cases hnow
    split
    · exact .of_ok rfl
    · exact .of_error rfl
  exact himport.bind fun module _ => follow_tests path.path module

/-- A class that is found is remembered, and nothing else happens. -/
theorem classOf_cases (inner : Host (Body C)) (invoke : C → List Ref → MemoryAction C Ref)
    (store : ClassStore) (name : String) (path : ClassPath) (w : World (Body C)) :
    (∃ stop, (classOf (host inner invoke) store name path).apply w = (.error stop, w)) ∨
      ∃ cls w', (classOf (host inner invoke) store name path).apply w = (.ok cls, w') ∧
        classFor? store w name path = some cls ∧ (w'.classes store).get? name = some cls ∧
        (w' = w ∨ (w.classes store).get? name = none ∧ w' = w.rememberClass store name cls) := by
  rw [classOf, Action.apply_bind_of_ok (Action.apply_world w), classFor?]
  cases hclass : (w.classes store).get? name with
  | some cls => exact .inr ⟨cls, w, rfl, rfl, hclass, .inl rfl⟩
  | none =>
      dsimp only
      rcases findClass_tests inner invoke path (w := w) with
        ⟨cls, hfind⟩ | ⟨error, _, hfind, rfl⟩
      · have hclasses : (w.rememberClass store name cls).classes store =
            (w.classes store).insert name cls := by cases store <;> rfl
        refine .inr ⟨cls, w.rememberClass store name cls, ?_, (findClass_eq_ok hfind).2, ?_,
          .inr ⟨rfl, rfl⟩⟩
        · rw [Action.apply_bind_of_ok hfind]
          rfl
        · rw [hclasses, Table.get?_insert, if_pos rfl]
      · exact .inl ⟨_, Action.apply_bind_of_error hfind⟩

/-! ## Making an instance -/

omit [HostCode C] in
theorem instanceValue_unchanged (cls : Ref) (args : List Ref) (w : World (Body C)) :
    ((instanceValue cls args : MemoryAction C (Option Int)).apply w).2 = w := by
  rw [instanceValue, Action.apply_bind_of_ok (Action.apply_world w)]
  split
  · split
    · rfl
    · split <;> rfl
  · rfl

/-- What happens to a new instance before it is handed over: an exception gets its attributes, and the
code of the class runs. -/
def setUp (inner : Host (Body C)) (invoke : C → List Ref → MemoryAction C Ref) (cls : Ref)
    (info : ClassInfo C) (args : List Ref) (value : Option Int) (x : Ref) : MemoryAction C Unit :=
  Action.pinning [x] do
    let isException := isSubclass (← Action.world) cls Builtin.exception.ref
    if isException then fillException inner x args
    match initOf (← Action.world) cls with
    | some code =>
      let _ ← runCode invoke code (x :: args)
    | none =>
      if !args.isEmpty && value.isNone && !isException then
        Action.raise (.type s!"{shortName info.qualified}() takes no arguments")

omit [HostCode C] in
theorem instantiate_eq (inner : Host (Body C)) (invoke : C → List Ref → MemoryAction C Ref)
    (cls : Ref) (info : ClassInfo C) (args : List Ref) :
    instantiate inner invoke cls info args = (do
      let value ← instanceValue cls args
      let x ← Action.alloc (.instance cls value)
      setUp inner invoke cls info args value x
      return x) := rfl

omit [HostCode C] in
/-- The objects do not matter to the classes that are remembered. -/
theorem remembered_heap (w : World (Body C)) (heap : Heap (Body C)) (store : ClassStore)
    (name : String) :
    (World.classes { w with heap } store).get? name = (w.classes store).get? name := by
  cases store <;> rfl

theorem classOf_remembers {name : String} {path : ClassPath} {cls : Ref}
    (hok : (classOf (host inner invoke) store name path).apply w = (.ok cls, w')) :
    (w'.classes store).get? name = some cls := by
  rcases classOf_cases inner invoke store name path w with
    ⟨stop, hrun⟩ | ⟨_, _, hrun, -, hremembered, -⟩
  · cases hrun.symm.trans hok
  · cases hrun.symm.trans hok
    exact hremembered

namespace Undisturbed

variable (h : Undisturbed I inner invoke store s first obj)
include h

theorem classOf_spares {name : String} {path : ClassPath} (hm : s.type.Mentions name path) :
    (classOf (host inner invoke) store name path).Within (World.Sparing I obj) := by
  intro w
  rcases classOf_cases inner invoke store name path w with
    ⟨stop, hrun⟩ | ⟨cls, w', hrun, hfor, -, hafter⟩
  · exact .of_unchanged (by rw [hrun])
  · refine .of_rel ?_
    rw [hrun]
    rcases hafter with rfl | ⟨hnone, rfl⟩
    · exact fun hI _ => ⟨hI, .refl w'⟩
    · exact fun hI _ => ⟨h.remember hI hm hnone hfor, .remember hnone cls⟩

theorem alloc_spares {body : Body C} (hbody : Made (NestedClass I store s) body) :
    (Action.alloc body : MemoryAction C Ref).Within (World.Sparing I obj) :=
  fun _ _ hI hh => ⟨h.alloc hI hbody, .alloc hh _⟩

/-- The class to which a name among the fields leads. -/
theorem found_class {name : String} {path : ClassPath} (hm : s.fields.Mentions name path)
    {cls : Ref} (hI : I w) (hremembered : (w.classes store).get? name = some cls) :
    NestedClass I store s cls ∧ (classInfo? w cls).isSome := by
  have hfor : classFor? store w name path = some cls := by rw [classFor?, hremembered]
  exact ⟨⟨w, name, path, hI, hm, hfor⟩, h.isClass hI hm hfor⟩

/-- The assignment of an attribute of a part; its guard is asked first. -/
theorem setAttr_spares (hp : Part I store s first w x) (name : String) (value : Ref) :
    (setAttr inner x name value).WithinAt (World.Sparing I obj) w := by
  have hne : x ≠ obj := by
    rintro rfl
    exact absurd h.older (Nat.not_lt.mpr hp.new)
  -- the guard may have let the object go; then nothing is stored
  have hstore : ∀ {w}, Part I store s first w x → (do
      let w ← Action.world
      if takesAttrs (body? w x) then Action.change (World.storeAttr · x name value)
      else Action.raise (.attribute s!"'{typeName w x}' object attribute '{name}' is read-only") :
        MemoryAction C Unit).WithinAt (World.Sparing I obj) w := by
    refine fun {w} hp => .world ?_
    cases hbody : body? w x with
    | none => exact .of_unchanged rfl
    | some body =>
        obtain ⟨cls, number, rfl, hcls⟩ := hp.ofNested hbody
        exact fun _ hI hh => ⟨h.storeAttr name value hI hcls hp.new hbody, .storeAttr hh hne name value⟩
  refine .world ?_
  cases hguard : guardOf w x with
  | none => exact hstore hp
  | some guard =>
      refine Action.WithinAt.bind_sparing (h.alloc_spares (.str name) w)
        fun text w₁ htext hI _ _ hspares => ?_
      have hcall : (inner.call guard [x, text, value]).WithinAt (World.Sparing I obj) w₁ := by
        cases htext
        cases hbody : body? w x with
        | none =>
            rw [guardOf, hbody] at hguard
            cases hguard
        | some body =>
            obtain ⟨cls, number, rfl, hcls⟩ := hp.ofNested hbody
            exact h.guard hI hcls hp.new hbody hguard
      exact hcall.bind_sparing fun _ w₂ _ _ _ _ hspares' => hstore (hp.spared (hspares.trans hspares'))

theorem assignEach_spares (hp : Part I store s first w x) (attrs : List (String × Ref)) :
    (assignEach (host inner invoke) x attrs).WithinAt (World.Sparing I obj) w := by
  induction attrs generalizing w with
  | nil => exact .of_unchanged rfl
  | cons attr rest ih =>
      exact .bind_sparing (.mapError (h.setAttr_spares hp attr.1 attr.2))
        fun _ w₁ _ _ _ _ hspares => ih (hp.spared hspares)

theorem assignAll_spares (hp : Part I store s first w x) (attrs : List (String × Ref)) :
    (assignAll (host inner invoke) x attrs).WithinAt (World.Sparing I obj) w := by
  rw [assignAll_eq]
  exact .pinning_sparing h.pinned (h.assignEach_spares (hp.pinning _) attrs)

theorem setUp_spares {cls : Ref} (hcls : NestedClass I store s cls) (info : ClassInfo C)
    {args : List Ref} (hargs : ∀ arg ∈ args, first ≤ arg.id) {value : Option Int}
    (hx : first ≤ x.id) (hbody : body? w x = some (.instance cls value)) :
    (setUp inner invoke cls info args value x).WithinAt (World.Sparing I obj) w := by
  refine .pinning_sparing h.pinned (.world ?_)
  refine .ite_bind_sparing
    (fun hexception => h.fill hcls hexception hx hbody hargs) fun _ => .world fun w₁ => ?_
  split
  · rename_i code hcode
    exact .bind_sparing (.pinning_sparing h.pinned (h.init hcls hcode hx hargs))
      fun _ _ _ _ _ _ _ => .of_unchanged rfl
  · split
    · exact .of_unchanged rfl
    · exact .of_unchanged rfl

/-- A call of a class to which a name among the fields leads. -/
theorem call_spares {cls : Ref} (hcls : NestedClass I store s cls)
    (hclass : (classInfo? w cls).isSome) {args : List Ref} (hargs : ∀ arg ∈ args, first ≤ arg.id) :
    (call inner invoke cls args).WithinAt (World.Sparing I obj) w := by
  obtain ⟨info, hinfo⟩ := Option.isSome_iff_exists.mp hclass
  refine .world ?_
  rw [body?_of_classInfo? hinfo]
  show (instantiate inner invoke cls info args).WithinAt (World.Sparing I obj) w
  rw [instantiate_eq]
  refine .bind_sparing (.of_unchanged (instanceValue_unchanged cls args w))
    fun value w₁ _ _ _ hI₁ _ => ?_
  refine .bind_sparing (h.alloc_spares (.instance value hcls) w₁) fun x w₂ hx _ _ _ _ => ?_
  cases hx
  exact .bind_sparing (h.setUp_spares hcls info hargs (h.room hI₁) (body?_alloc w₁ _))
    fun _ _ _ _ _ _ _ => .of_unchanged rfl

/-- What a call of such a class makes is a part. -/
theorem call_part {cls : Ref} (hcls : NestedClass I store s cls)
    (hclass : (classInfo? w cls).isSome) {args : List Ref} (hargs : ∀ arg ∈ args, first ≤ arg.id)
    (hI : I w) (hh : w.InHand obj)
    (hok : (call inner invoke cls args).apply w = (.ok x, w')) : Part I store s first w' x := by
  obtain ⟨info, hinfo⟩ := Option.isSome_iff_exists.mp hclass
  rw [call, Action.apply_bind_of_ok (Action.apply_world w), body?_of_classInfo? hinfo] at hok
  dsimp only at hok
  rw [instantiate_eq] at hok
  obtain ⟨value, w₁, hvalue, hmade⟩ := Action.apply_bind_eq_ok_iff.mp hok
  obtain rfl : w₁ = w := by
    have hsame := instanceValue_unchanged cls args w
    rwa [hvalue] at hsame
  obtain ⟨y, w₂, hnew, hrest⟩ := Action.apply_bind_eq_ok_iff.mp hmade
  obtain ⟨hI₂, hspares₂⟩ := (h.alloc_spares (.instance value hcls) w₁).of_ok hnew hI hh
  obtain ⟨u, w₃, hset, hreturn⟩ := Action.apply_bind_eq_ok_iff.mp hrest
  cases hreturn
  cases hnew
  have hbody := body?_alloc w₁ ⟨.empty, .instance cls value⟩
  obtain ⟨-, hspares₃⟩ := (h.setUp_spares hcls info hargs (h.room hI) hbody).of_ok hset hI₂
    (hh.spared hspares₂)
  -- the new instance is a part before any host code runs, and it stays one
  have hpart : Part I store s first
      { w₁ with heap := (w₁.heap.alloc ⟨.empty, .instance cls value⟩).2 }
      (w₁.heap.alloc ⟨.empty, .instance cls value⟩).1 :=
    ⟨h.room hI, World.lt_size_of_bodyAt hbody, fun hfound =>
      ⟨cls, value, (Option.some.inj (hbody.symm.trans hfound)).symm, hcls⟩⟩
  exact hpart.spared hspares₃

theorem newInstance_spares {head : StructHead} (hm : s.fields.Mentions head.name head.host) :
    (newInstance (host inner invoke) store head).Within (World.Sparing I obj) := by
  refine fun w => .bind_sparing (Action.Within.lift (h.classOf_spares (.inr hm)) w)
    fun cls w₁ hfound _ _ hI₁ _ => ?_
  obtain ⟨hcls, hclass⟩ := h.found_class hm hI₁ (classOf_remembers (Action.apply_lift_eq_ok hfound))
  exact .mapError (h.call_spares hcls hclass fun _ harg => absurd harg List.not_mem_nil)

theorem newInstance_part {head : StructHead} (hm : s.fields.Mentions head.name head.host)
    (hI : I w) (hh : w.InHand obj)
    (hok : (newInstance (host inner invoke) store head).apply w = (.ok x, w')) :
    Part I store s first w' x := by
  obtain ⟨cls, w₁, hfound, hmade⟩ := Action.apply_bind_eq_ok_iff.mp hok
  have hfound := Action.apply_lift_eq_ok hfound
  obtain ⟨hI₁, hspares⟩ := (h.classOf_spares (.inr hm) w).of_ok hfound hI hh
  obtain ⟨hcls, hclass⟩ := h.found_class hm hI₁ (classOf_remembers hfound)
  exact h.call_part hcls hclass (fun _ harg => absurd harg List.not_mem_nil) hI₁
    (hh.spared hspares) (Action.apply_lift_eq_ok hmade)

/-- A nested structure: a new instance, on which the converted fields are put. -/
theorem fillInstance_spares {head : StructHead} (hm : s.fields.Mentions head.name head.host)
    (attrs : List (String × Ref)) :
    (fillInstance (host inner invoke) store head none attrs).Within (World.Sparing I obj) := by
  refine fun w => .bind_sparing (.pinning_sparing h.pinned (h.newInstance_spares hm _))
    fun x w₁ hmade hI hh _ _ => ?_
  obtain ⟨w₂, hnew, rfl⟩ := Action.apply_pinning_eq_ok hmade
  have hp : Part I store s first w₂ x :=
    h.newInstance_part hm (h.pinned _ hI) (World.Supported.pinning hh _) hnew
  exact .bind_sparing (h.assignAll_spares (hp.pinning _) attrs)
    fun _ _ _ _ _ _ _ => .of_unchanged rfl

theorem variantToHost_spares {e : EnumDef} (hm : s.fields.Mentions e.name e.host) (index : Nat) :
    (variantToHost (host inner invoke) store e index).Within (World.Sparing I obj) := by
  refine fun w => .bind_sparing (Action.Within.lift (h.classOf_spares (.inr hm)) w)
    fun cls w₁ hfound _ _ hI₁ _ => ?_
  refine .bind_sparing (Action.Within.lift (h.alloc_spares (.int _)) w₁)
    fun number w₂ hnumber _ _ hI₂ _ => ?_
  have hremembered := classOf_remembers (Action.apply_lift_eq_ok hfound)
  cases hnumber
  obtain ⟨hcls, hclass⟩ := h.found_class hm hI₂ ((remembered_heap ..).trans hremembered)
  refine .mapError (h.call_spares hcls hclass fun arg harg => ?_)
  rw [List.mem_singleton.mp harg]
  exact h.room hI₁

/-! ## Every type -/

theorem convertItems_spares {item : Value → BridgeAction (Body C) Ref}
    (hitem : ∀ v, (item v).Within (World.Sparing I obj)) (items : List Value) :
    (convertItems item items).Within (World.Sparing I obj) := by
  induction items with
  | nil => exact fun w => .of_unchanged rfl
  | cons v rest ih =>
      exact .bind_sparing (hitem v) fun x =>
        .bind_sparing (fun _ => .pinning_sparing h.pinned (ih _)) fun _ _ => .of_unchanged rfl

omit h

mutual

/-- The conversion of a value leaves an object alone that was there before. -/
theorem toHost_spares (h : Undisturbed I inner invoke store s first obj) :
    ∀ (type : IdlType) (v : Value),
      (∀ name path, type.Mentions name path → s.fields.Mentions name path) →
      (toHost (host inner invoke) store type v).Within (World.Sparing I obj) := by
  intro type v hm
  unfold toHost
  split
  · exact fun _ => .of_unchanged rfl
  · exact .lift (h.alloc_spares (.int _))
  · exact .lift (h.alloc_spares (.float _))
  · exact .lift (h.alloc_spares (.float _))
  · exact .lift (h.alloc_spares (.str _))
  · exact .bind_sparing (.ofExcept_sparing _) fun text => .lift (h.alloc_spares (.str text))
  · exact h.variantToHost_spares (hm _ _ ⟨rfl, rfl⟩) _
  · rename_i head fields values
    exact .bind_sparing
      (fieldsToHost_spares h fields values fun name path hname => hm name path (.inr hname))
      fun attrs => h.fillInstance_spares (hm _ _ (.inl ⟨rfl, rfl⟩)) attrs
  · rename_i item items
    exact .bind_sparing (h.convertItems_spares (fun v => toHost_spares h item v hm) items)
      fun objs => .lift (h.alloc_spares (.list objs))
  · exact fun _ => .of_unchanged rfl

theorem fieldsToHost_spares (h : Undisturbed I inner invoke store s first obj) :
    ∀ (fields : Fields) (values : List Value),
      (∀ name path, fields.Mentions name path → s.fields.Mentions name path) →
      (fieldsToHost (host inner invoke) store fields values).Within (World.Sparing I obj) := by
  intro fields values hm
  unfold fieldsToHost
  split
  · exact fun _ => .of_unchanged rfl
  · rename_i field type rest v values
    have hrest : (fieldsToHost (host inner invoke) store rest values).Within (World.Sparing I obj) :=
      fieldsToHost_spares h rest values fun name path hname => hm name path (.inr hname)
    split
    · exact hrest
    · rename_i attr hattr
      refine .bind_sparing
        (toHost_spares h type v fun name path hname => hm name path (.inl ⟨?_, hname⟩)) fun x => ?_
      · rw [hattr]
        rfl
      · exact .bind_sparing (fun _ => .pinning_sparing h.pinned (hrest _))
          fun _ _ => .of_unchanged rfl
  · exact fun _ => .of_unchanged rfl

end

/-! ## The existing instance -/

theorem checkInstance_spares (h : Undisturbed I inner invoke store s first obj) :
    (checkInstance (host inner invoke) store s.head obj).Within (World.Sparing I obj) := by
  refine .bind_sparing (.lift (h.classOf_spares (.inl ⟨rfl, rfl⟩))) fun cls => .world fun w => ?_
  split
  · exact .bind_sparing (h.describe w) fun _ _ _ _ _ _ _ => .of_unchanged rfl
  · exact .of_unchanged rfl

end Undisturbed

end Marshal

end DdsBridge
