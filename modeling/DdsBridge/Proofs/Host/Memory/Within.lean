import DdsBridge.Host.Memory.Prelude
import DdsBridge.Proofs.Host.Within

/-!
# What the operations of the host stay within

The operations of the host in memory stay within every steady relation, if the host code that they
run does. Only the code of a function or of a class that is there is ever run.

* **`Memory.Body.IsPlain`** — bodies that are no capsules and carry no code.
* **`Memory.HasCode`** — code that is there to be run.
* **`Host.Reads`**, **`Host.Acts`** — the operations that look, and those that do something.
* **`Memory.host_reads`**, **`Memory.host_acts`** — the host in memory, from the host that nested
  operations go to.
* **`Memory.Nested`** — what is asked of that host and of the code.
-/

namespace DdsBridge

/-- A body that is no capsule and carries no code. -/
def Memory.Body.IsPlain {C : Type} : Memory.Body C → Prop
  | .cls info => info.init = Option.none
  | .capsule _ | .function _ => False
  | _ => True

/-- The operations of a host that look at objects. -/
structure Host.Reads {B : Type} (R : World B → World B → Prop) (h : Host B) : Prop where
  importModule : ∀ name, (h.importModule name).Within R
  getAttr : ∀ obj name, (h.getAttr obj name).Within R
  delAttr : ∀ obj name, (h.delAttr obj name).Within R
  isInstance : ∀ obj cls, (h.isInstance obj cls).Within R
  asSigned : ∀ obj, (h.asSigned obj).Within R
  asUnsigned : ∀ obj, (h.asUnsigned obj).Within R
  asFloat : ∀ obj, (h.asFloat obj).Within R
  strOf : ∀ obj, (h.strOf obj).Within R
  listItems : ∀ obj, (h.listItems obj).Within R

/-- All operations of a host, but for those that make capsules and for assignments of attributes that
are watched. -/
structure Host.Acts {B : Type} (Free : String → Prop) (R : World B → World B → Prop) (h : Host B) :
    Prop extends h.Reads R where
  checkWeak : ∀ obj, (h.checkWeak obj).Within R
  setAttr : ∀ obj {name} value, Free name → (h.setAttr obj name value).Within R
  call : ∀ callable args, (h.call callable args).Within R
  newInt : ∀ n, (h.newInt n).Within R
  newFloat : ∀ x, (h.newFloat x).Within R
  newStr : ∀ s, (h.newStr s).Within R
  newList : ∀ items, (h.newList items).Within R
  newTuple : ∀ items, (h.newTuple items).Within R
  newExceptionClass : ∀ name bases, (h.newExceptionClass name bases).Within R

/-- The name of an object's class is looked up without doing anything else. -/
theorem Host.Reads.describe {B ε : Type} [ObjectBody B] {Plain : B → Prop} {Free : String → Prop}
    {R : World B → World B → Prop} {h : Host B} (hR : World.Steady Plain Free R) (hh : h.Reads R)
    (obj : Ref) : (h.describe obj : Action B ε String).Within R := by
  refine .world fun w => ?_
  refine Action.Within.bind hR (.attempt (.bind hR (hh.getAttr _ _) fun _ => hh.strOf _))
    (fun named => ?_) w
  cases named with
  | ok name => exact .pure hR name
  | error error =>
      refine .bind hR (.attempt (hh.strOf _)) fun text => ?_
      cases text with
      | ok text => exact .pure hR text
      | error error => exact .pure hR _

namespace Memory

variable {C : Type} [HostCode C] {Free : String → Prop} {R : World (Body C) → World (Body C) → Prop}
variable {inner : Host (Body C)} {invoke : C → List Ref → MemoryAction C Ref}

/-- Code that a function or the initializer of a class carries. -/
def HasCode (w : World (Body C)) (code : C) : Prop :=
  (∃ r, body? w r = some (.function code)) ∨
    ∃ r info, body? w r = some (.cls info) ∧ info.init = some code

omit [HostCode C] in
/-- The initializer of a class belongs to the class or to one above it. -/
theorem hasCode_of_initOf {w : World (Body C)} {cls : Ref} {code : C}
    (h : initOf w cls = some code) : HasCode w code := by
  obtain ⟨c, -, hc⟩ := List.exists_of_findSome?_eq_some h
  obtain ⟨info, hinfo, hinit⟩ := Option.bind_eq_some_iff.mp hc
  unfold classInfo? at hinfo
  split at hinfo
  · rename_i found hbody
    cases hinfo
    exact .inr ⟨c, _, hbody, hinit⟩
  · exact absurd hinfo (by simp)

/-! ## Looking at objects -/

section Reads

variable (hR : World.Steady Body.IsPlain Free R)
include hR

theorem getAttr_within (obj : Ref) (name : String) :
    (getAttr obj name : MemoryAction C Ref).Within R := by
  refine .world fun w => ?_
  split
  · exact fun _ => hR.refl w
  · exact fun _ => hR.refl w

theorem delAttr_within (obj : Ref) (name : String) :
    (delAttr obj name : MemoryAction C Unit).Within R := by
  refine .world fun w => ?_
  split
  · exact fun _ => hR.removeAttr w obj name
  · exact fun _ => hR.refl w

theorem asBounded_within (least greatest : Int) (low high : String) (obj : Ref) :
    (asBounded least greatest low high obj : MemoryAction C Int).Within R := by
  refine .world fun w => ?_
  split
  · exact fun _ => hR.refl w
  · split
    · exact fun _ => hR.refl w
    · split
      · exact fun _ => hR.refl w
      · exact fun _ => hR.refl w

theorem asFloat_within (obj : Ref) : (asFloat obj : MemoryAction C Number.Binary64).Within R := by
  refine .world fun w => ?_
  split
  · exact fun _ => hR.refl w
  · split
    · exact fun _ => hR.refl w
    · exact fun _ => hR.refl w

theorem listItems_within (obj : Ref) : (listItems obj : MemoryAction C (List Ref)).Within R := by
  refine .world fun w => ?_
  split
  · exact fun _ => hR.refl w
  · exact fun _ => hR.refl w
  · exact fun _ => hR.refl w

theorem isInstance_within (obj cls : Ref) : (isInstance obj cls : MemoryAction C Bool).Within R := by
  refine .world fun w => ?_
  split
  · exact fun _ => hR.refl w
  · exact fun _ => hR.refl w

variable (hcall : ∀ callable args, (inner.call callable args).Within R)
  (hstr : ∀ obj, (inner.strOf obj).Within R)
include hstr

/-- The text of items, one after the other. -/
theorem itemTexts_within (items : List Ref) (finish : List String → String) :
    (do
      let parts ← Action.pinning items (items.mapM inner.strOf)
      return finish parts : MemoryAction C String).Within R :=
  .bind hR (.pinning hR (.mapM hR hstr items)) fun _ => .pure hR _

theorem strByKind_within (obj : Ref) : (strByKind inner obj).Within R := by
  refine .world fun w => ?_
  split
  case h_6 items _ => exact itemTexts_within hR hstr items _ w
  case h_7 items _ => exact itemTexts_within hR hstr items _ w
  case h_11 =>
    split
    · split
      · exact hstr _ w
      · exact fun _ => hR.refl w
    · exact fun _ => hR.refl w
  all_goals exact fun _ => hR.refl w

include hcall

omit hstr in
theorem strByMethod_within (method obj : Ref) : (strByMethod inner method obj).Within R := by
  refine .bind hR (hcall method [obj]) fun text => .world fun w => ?_
  split
  · exact fun _ => hR.refl w
  · exact fun _ => hR.refl w

theorem strOf_within (obj : Ref) : (strOf inner obj).Within R := by
  refine .world fun w => ?_
  split
  · split
    · exact strByMethod_within hR hcall _ obj w
    · exact strByKind_within hR hstr obj w
  · exact strByKind_within hR hstr obj w

/-- Looking at objects runs host code only for the text of an object. -/
theorem host_reads : (host inner invoke).Reads R where
  importModule name := by
    refine .world fun w => ?_
    split
    · exact fun _ => hR.refl w
    · exact fun _ => hR.refl w
  getAttr := getAttr_within hR
  delAttr := delAttr_within hR
  isInstance := isInstance_within hR
  asSigned := asBounded_within hR _ _ _ _
  asUnsigned := asBounded_within hR _ _ _ _
  asFloat := asFloat_within hR
  strOf := strOf_within hR hcall hstr
  listItems := listItems_within hR

end Reads

/-! ## Doing something -/

/-- The names of the attributes that the host stores by itself: the names of a class, and what an
exception carries. -/
def ownNames : List String := ["__name__", "__module__", "args", "message"]

/-- A class is made from plain objects if its own body is one that may come. -/
theorem newClass_within (hR : World.Steady Body.IsPlain Free R) (hown : ∀ name ∈ ownNames, Free name)
    {init : Option C} (hinit : ∀ info : ClassInfo C, info.init = init →
      (Action.alloc (.cls info) : MemoryAction C Ref).Within R) (qualified : String)
    (bases : List Ref) : (newClass qualified bases init).Within R := by
  refine .world fun w => ?_
  refine Action.Within.bind hR (hinit _ rfl) (fun cls => ?_) w
  have hqualified : Free "__name__" := hown _ (by simp [ownNames])
  have hmodule : Free "__module__" := hown _ (by simp [ownNames])
  refine .bind hR (.alloc hR trivial) fun obj => ?_
  refine .bind hR (.change fun w => hR.storeAttr w cls hqualified obj) fun _ => ?_
  split
  · exact .pure hR cls
  · refine .bind hR (.alloc hR trivial) fun obj => ?_
    exact .bind hR (.change fun w => hR.storeAttr w cls hmodule obj) fun _ => .pure hR cls

theorem newExceptionClass_within (hR : World.Steady Body.IsPlain Free R)
    (hown : ∀ name ∈ ownNames, Free name) (qualified : String) (bases : List Ref) :
    (newExceptionClass qualified bases : MemoryAction C Ref).Within R :=
  newClass_within hR hown (fun _ hinit => .alloc hR hinit) qualified _

theorem addModule_within (hR : World.Steady Body.IsPlain Free R) (name : String) :
    (addModule name : MemoryAction C Ref).Within R := by
  refine .world fun w => ?_
  split
  · exact fun _ => hR.refl w
  · have hmodule : (Body.module name : Body C).IsPlain := trivial
    refine Action.Within.bind hR (.alloc hR hmodule) (fun module => ?_) w
    exact .bind hR (.change fun _ => hR.quiet (.beside rfl rfl rfl rfl rfl rfl rfl rfl rfl)) fun _ =>
      .pure hR module

theorem defineClass_within (hR : World.Steady Body.IsPlain Free R)
    (hown : ∀ name ∈ ownNames, Free name) {init : Option C}
    (hinit : ∀ info : ClassInfo C, info.init = init →
      (Action.alloc (.cls info) : MemoryAction C Ref).Within R) (module : Ref) {name : String}
    (hname : Free name) (bases : List Ref) : (defineClass module name bases init).Within R := by
  refine .world fun w => ?_
  refine Action.Within.bind hR (newClass_within hR hown hinit _ _) (fun cls => ?_) w
  exact .bind hR (.change fun w => hR.storeAttr w module hname cls) fun _ => .pure hR cls

section Acts

variable (hR : World.Steady Body.IsPlain Free R) (hown : ∀ name ∈ ownNames, Free name)
  (hcall : ∀ callable args, (inner.call callable args).Within R)
  (hstr : ∀ obj, (inner.strOf obj).Within R)
  (hset : ∀ obj {name} value, Free name → (inner.setAttr obj name value).Within R)
  (hinvoke : ∀ w code args, HasCode w code → (invoke code args).WithinAt R w)
include hR

include hcall in
/-- An assignment: the guard, and then what is stored. -/
theorem setAttr_within_of_store {obj value : Ref} {name : String}
    (hstored : ∀ w : World (Body C), R w (w.storeAttr obj name value)) :
    (setAttr inner obj name value).Within R := by
  have hstore : (do
      let w ← Action.world
      if takesAttrs (body? w obj) then Action.change (World.storeAttr · obj name value)
      else Action.raise (.attribute s!"'{typeName w obj}' object attribute '{name}' is read-only") :
        MemoryAction C Unit).Within R := by
    refine .world fun w => ?_
    split
    · exact fun _ => hstored w
    · exact fun _ => hR.refl w
  refine .world fun w => ?_
  split
  · have htext : (Body.str name : Body C).IsPlain := trivial
    refine Action.Within.bind hR (.alloc hR htext) (fun text => ?_) w
    exact .bind hR (hcall _ _) fun _ => hstore
  · exact hstore w

include hcall in
theorem setAttr_within (obj : Ref) {name : String} (value : Ref) (hname : Free name) :
    (setAttr inner obj name value).Within R :=
  setAttr_within_of_store hR hcall fun w => hR.storeAttr w obj hname value

include hown hstr hset in
theorem fillException_within (exception : Ref) (args : List Ref) :
    (fillException inner exception args).Within R := by
  have hfill : ∀ message, (do
      inner.setAttr exception "args" (← Action.alloc (.tuple args))
      inner.setAttr exception "message" (← Action.alloc (.str message)) :
        MemoryAction C Unit).Within R := fun message =>
    .bind hR (.alloc hR trivial) fun _ =>
      .bind hR (hset _ _ (hown _ (by simp [ownNames]))) fun _ =>
        .bind hR (.alloc hR trivial) fun _ => hset _ _ (hown _ (by simp [ownNames]))
  unfold fillException
  split
  · exact hfill ""
  · exact .bind hR (hstr _) hfill

theorem instanceValue_within (cls : Ref) (args : List Ref) :
    (instanceValue cls args : MemoryAction C (Option Int)).Within R := by
  refine .world fun w => ?_
  split
  · split
    · exact fun _ => hR.refl w
    · split
      · exact fun _ => hR.refl w
      · exact fun _ => hR.refl w
  · exact fun _ => hR.refl w

include hinvoke

/-- Code that is there is run with its arguments pinned. -/
theorem runCode_within_at {w : World (Body C)} {code : C} (hcode : HasCode w code)
    (args : List Ref) : (runCode invoke code args).WithinAt R w :=
  .pinning hR (hinvoke _ code args hcode)

include hown hstr hset

theorem instantiate_within (cls : Ref) (info : ClassInfo C) (args : List Ref) :
    (instantiate inner invoke cls info args).Within R := by
  refine .bind hR (instanceValue_within hR cls args) fun value => ?_
  refine .bind hR (.alloc hR trivial) fun obj => ?_
  refine .bind hR (.pinning hR (.world fun w => ?_)) fun _ => .pure hR obj
  refine Action.Within.ite_bind hR (fillException_within hR hown hstr hset obj args) (fun _ => ?_) w
  refine .world fun w => ?_
  split
  · rename_i code hcode
    exact Action.WithinAt.bind hR
      (runCode_within_at hR hinvoke (hasCode_of_initOf hcode) _) fun _ w _ _ => hR.refl w
  · split
    · exact fun _ => hR.refl w
    · exact fun _ => hR.refl w

theorem call_within (callable : Ref) (args : List Ref) :
    (call inner invoke callable args).Within R := by
  refine .world fun w => ?_
  split
  · rename_i code hbody
    exact runCode_within_at hR hinvoke (.inl ⟨callable, hbody⟩) args
  · exact instantiate_within hR hown hstr hset hinvoke callable _ args w
  · exact fun _ => hR.refl w

include hcall

/-- Every operation stays within the relation if those of the host below that run host code do, and
the code does. -/
theorem host_acts : (host inner invoke).Acts Free R where
  toReads := host_reads hR hcall hstr
  checkWeak _ := .pure hR ()
  setAttr := setAttr_within hR hcall
  call := call_within hR hown hstr hset hinvoke
  newInt _ := .alloc hR trivial
  newFloat _ := .alloc hR trivial
  newStr _ := .alloc hR trivial
  newList _ := .alloc hR trivial
  newTuple _ := .alloc hR trivial
  newExceptionClass := newExceptionClass_within hR hown

end Acts

omit [HostCode C] in
/-- At the bottom of the nesting nothing comes to an end. -/
theorem stuck_acts : (stuck : Host (Body C)).Acts Free R where
  importModule _ := .never
  getAttr _ _ := .never
  delAttr _ _ := .never
  isInstance _ _ := .never
  asSigned _ := .never
  asUnsigned _ := .never
  asFloat _ := .never
  strOf _ := .never
  listItems _ := .never
  checkWeak _ := .never
  setAttr _ _ _ _ := .never
  call _ _ := .never
  newInt _ := .never
  newFloat _ := .never
  newStr _ := .never
  newList _ := .never
  newTuple _ := .never
  newExceptionClass _ _ := .never

/-! ## Nested hosts -/

/-- What runs host code in the host that nested operations go to stays within a relation, and so does
the code. -/
structure Nested (Free : String → Prop) (R : World (Body C) → World (Body C) → Prop)
    (inner : Host (Body C)) (invoke : C → List Ref → MemoryAction C Ref) : Prop where
  call : ∀ callable args, (inner.call callable args).Within R
  strOf : ∀ obj, (inner.strOf obj).Within R
  setAttr : ∀ obj {name} value, Free name → (inner.setAttr obj name value).Within R
  invoke : ∀ w code args, HasCode w code → (invoke code args).WithinAt R w

namespace Nested

theorem acts (h : Nested Free R inner invoke) (hR : World.Steady Body.IsPlain Free R)
    (hown : ∀ name ∈ ownNames, Free name) : (host inner invoke).Acts Free R :=
  host_acts hR hown h.call h.strOf h.setAttr h.invoke

omit [HostCode C] in
theorem stuck (hinvoke : ∀ w code args, HasCode w code → (invoke code args).WithinAt R w) :
    Nested Free R stuck invoke where
  call _ _ := .never
  strOf _ := .never
  setAttr _ _ _ _ := .never
  invoke := hinvoke

/-- Nested one deeper, host code still stays within the relation. -/
theorem host (h : Nested Free R inner invoke) (hR : World.Steady Body.IsPlain Free R)
    (hown : ∀ name ∈ ownNames, Free name) : Nested Free R (host inner invoke) invoke where
  call := (h.acts hR hown).call
  strOf := (h.acts hR hown).strOf
  setAttr := (h.acts hR hown).setAttr
  invoke := h.invoke

end Nested

end Memory

end DdsBridge
