import DdsBridge.Bridge.Classes
import DdsBridge.Host.Memory.Operations
import DdsBridge.Proofs.Host.Action

/-!
# Worlds that grow

A conversion to the host only adds: new objects, and classes that it remembers. The objects that
were there stay as they were, so whatever a look-up found before it finds afterwards.

* **`World.Grows`** — one world grew out of another.
* **`Memory.Issued`** — every reference that a look-up follows names an object that was made.
* **`Memory.lookup_of_grows`**, **`Memory.lineage_of_grows`** — what look-ups find stays.
* **`Memory.classAt?`** — the class that a path leads to.
-/

namespace DdsBridge

/-- A world grew out of another one: objects were added, and classes were remembered that were not
remembered before. `classes` says which class belongs to a name. -/
structure World.Grows {B : Type} (classes : String → Ref) (store : ClassStore) (w w' : World B) :
    Prop where
  size_le : w.heap.size ≤ w'.heap.size
  old : ∀ r : Ref, r.id < w.heap.size → w'.heap.get? r = w.heap.get? r
  modules : w'.modules = w.modules
  remembered : ∀ name, (w'.classes store).get? name = (w.classes store).get? name ∨
    ((w.classes store).get? name = none ∧ (w'.classes store).get? name = some (classes name))

namespace World.Grows

variable {B : Type} {classes : String → Ref} {store : ClassStore} {w w₁ w₂ : World B}

theorem refl (w : World B) : w.Grows classes store w where
  size_le := Nat.le_refl _
  old := fun _ _ => rfl
  modules := rfl
  remembered := fun _ => .inl rfl

theorem trans (h : w.Grows classes store w₁) (h' : w₁.Grows classes store w₂) :
    w.Grows classes store w₂ where
  size_le := Nat.le_trans h.size_le h'.size_le
  old := fun r hr => (h'.old r (Nat.lt_of_lt_of_le hr h.size_le)).trans (h.old r hr)
  modules := h'.modules.trans h.modules
  remembered := fun name => by
    rcases h.remembered name with he | ⟨hnone, hsome⟩
    · rcases h'.remembered name with he' | ⟨hnone', hsome'⟩
      · exact .inl (he'.trans he)
      · exact .inr ⟨he ▸ hnone', hsome'⟩
    · rcases h'.remembered name with he' | ⟨hnone', -⟩
      · exact .inr ⟨hnone, he'.trans hsome⟩
      · exact absurd (hsome.symm.trans hnone') (by simp)

/-- What is pinned does not matter. -/
theorem pinned (h : w.Grows classes store w₁) (refs : List Ref) :
    w.Grows classes store { w₁ with pinned := refs } where
  size_le := h.size_le
  old := h.old
  modules := h.modules
  remembered := fun name => by cases store <;> exact h.remembered name

theorem of_pinned {refs : List Ref} (h : { w with pinned := refs }.Grows classes store w₁) :
    w.Grows classes store w₁ :=
  ((refl w).pinned refs).trans h

theorem alloc (w : World B) (node : Node B) :
    w.Grows classes store { w with heap := (w.heap.alloc node).2 } where
  size_le := by simp [Heap.size, Heap.alloc]
  old := fun _ hr => Heap.get?_alloc_of_lt hr
  modules := rfl
  remembered := fun name => by cases store <;> exact .inl rfl

/-- A new object may change. -/
theorem set {obj : Ref} {before : Node B} (h : w.Grows classes store w₁)
    (hobj : w₁.heap.get? obj = some before) (hnew : w.heap.size ≤ obj.id) (after : Node B) :
    w.Grows classes store { w₁ with heap := w₁.heap.set obj after } where
  size_le := by
    show w.heap.size ≤ (w₁.heap.set obj after).size
    simpa [Heap.size, Heap.set] using h.size_le
  old := fun r hr => by
    refine Eq.trans ?_ (h.old r hr)
    rw [Heap.get?_set hobj, if_neg]
    rintro rfl
    omega
  modules := h.modules
  remembered := fun name => by cases store <;> exact h.remembered name

theorem remember {name : String} (h : (w.classes store).get? name = none) :
    w.Grows classes store (w.rememberClass store name (classes name)) where
  size_le := by cases store <;> exact Nat.le_refl _
  old := fun _ _ => by cases store <;> rfl
  modules := by cases store <;> rfl
  remembered := fun other => by
    have hclasses : (w.rememberClass store name (classes name)).classes store =
        (w.classes store).insert name (classes name) := by cases store <;> rfl
    rw [hclasses, Table.get?_insert]
    by_cases hother : other = name
    · subst hother
      rw [if_pos rfl]
      exact .inr ⟨h, rfl⟩
    · rw [if_neg hother]
      exact .inl rfl

/-- What was remembered stays remembered. -/
theorem classes_eq (h : w.Grows classes store w₁) {name : String} {cls : Ref}
    (hcls : (w.classes store).get? name = some cls) :
    (w₁.classes store).get? name = some cls := by
  rcases h.remembered name with he | ⟨hnone, -⟩
  · exact he.trans hcls
  · exact absurd (hcls.symm.trans hnone) (by simp)

end World.Grows

namespace Memory

variable {C : Type}

/-- Every reference that a look-up follows names an object that was made, though it may be gone:
those in attributes, those to classes, and those to modules. -/
structure Issued (w : World (Body C)) : Prop where
  builtins : Builtin.all.length ≤ w.heap.size
  modules : ∀ name r, w.modules.get? name = some r → r.id < w.heap.size
  attrs : ∀ r name x, ownAttr? w r name = some x → x.id < w.heap.size
  owners : ∀ r cls value, body? w r = some (.instance cls value) → cls.id < w.heap.size
  ancestors : ∀ r info, classInfo? w r = some info → ∀ c ∈ info.ancestors, c.id < w.heap.size

/-- The classes that a body names. -/
def Body.named : Body C → List Ref
  | .instance owner _ => [owner]
  | .cls info => info.ancestors
  | _ => []

/-- Looks at every object for references that were not issued. -/
def issuedCheck (w : World (Body C)) : Bool :=
  let isIssued (r : Ref) : Bool := r.id < w.heap.size
  decide (Builtin.all.length ≤ w.heap.size) && w.modules.values.all isIssued &&
    w.heap.slots.toList.all fun slot =>
      match slot with
      | some node => (node.attrs.values ++ node.body.named).all isIssued
      | Option.none => true

/-- A world that passes the check has issued its references. -/
theorem issued_of_check {w : World (Body C)} (h : issuedCheck w = true) : Issued w := by
  simp only [issuedCheck, Bool.and_eq_true, decide_eq_true_eq, List.all_eq_true] at h
  obtain ⟨⟨hbuiltins, hmodules⟩, hslots⟩ := h
  -- the check goes through the slots, and every object there is stands in one
  have hnode : ∀ r node, w.heap.get? r = some node →
      ∀ x ∈ node.attrs.values ++ node.body.named, x.id < w.heap.size := by
    intro r node hnode x hx
    have hlt : r.id < w.heap.slots.size := Heap.lt_size_of_get? hnode
    unfold Heap.get? at hnode
    rw [Array.getElem?_eq_getElem hlt] at hnode
    have hslot := hslots _ (Array.mem_def.mp (Array.getElem_mem hlt))
    rw [show w.heap.slots[r.id] = some node from hnode] at hslot
    simp only [List.all_eq_true, decide_eq_true_eq] at hslot
    exact hslot x hx
  have hbody : ∀ r body, body? w r = some body → ∀ c ∈ body.named, c.id < w.heap.size := by
    intro r body hr c hc
    obtain ⟨node, hget, rfl⟩ := Option.map_eq_some_iff.mp hr
    exact hnode r node hget c (List.mem_append_right _ hc)
  have hvalue : ∀ {t : Table String Ref} {name : String} {x : Ref}, t.get? name = some x →
      x ∈ t.values := by
    intro t name x hx
    obtain ⟨entry, hentry, rfl⟩ := Option.map_eq_some_iff.mp hx
    exact List.mem_map_of_mem (List.mem_of_find?_eq_some hentry)
  refine ⟨hbuiltins, fun name r hr => hmodules r (hvalue hr), fun r name x hx => ?_,
    fun r cls value hr => hbody r _ hr cls List.mem_cons_self, fun r info hr c hc => ?_⟩
  · obtain ⟨node, hget, hattr⟩ := Option.bind_eq_some_iff.mp hx
    exact hnode r node hget x (List.mem_append_left _ (hvalue hattr))
  · refine hbody r (.cls info) ?_ c hc
    unfold classInfo? at hr
    split at hr
    · rename_i found hfound
      cases hr
      exact hfound
    · exact absurd hr (by simp)

section Lookups

variable {w w' : World (Body C)} {classes : String → Ref} {store : ClassStore}

theorem body?_of_grows (h : w.Grows classes store w') {r : Ref} (hr : r.id < w.heap.size) :
    body? w' r = body? w r := by
  rw [body?, body?, h.old r hr]

theorem ownAttr?_of_grows (h : w.Grows classes store w') {r : Ref} (hr : r.id < w.heap.size)
    (name : String) : ownAttr? w' r name = ownAttr? w r name := by
  rw [ownAttr?, ownAttr?, h.old r hr]

theorem classInfo?_of_grows (h : w.Grows classes store w') {r : Ref} (hr : r.id < w.heap.size) :
    classInfo? w' r = classInfo? w r := by
  rw [classInfo?, classInfo?, body?_of_grows h hr]

theorem body?_of_classInfo? {cls : Ref} {info : ClassInfo C} (h : classInfo? w cls = some info) :
    body? w cls = some (.cls info) := by
  unfold classInfo? at h
  split at h
  · rename_i found hbody
    rw [hbody, Option.some.inj h]
  · exact absurd h (by simp)

theorem lt_of_classInfo? {cls : Ref} {info : ClassInfo C} (h : classInfo? w cls = some info) :
    cls.id < w.heap.size := by
  obtain ⟨node, hnode, -⟩ := Option.map_eq_some_iff.mp (body?_of_classInfo? h)
  exact Heap.lt_size_of_get? hnode

theorem lineage_of_grows (h : w.Grows classes store w') {cls : Ref} (hr : cls.id < w.heap.size) :
    lineage w' cls = lineage w cls := by
  rw [lineage, lineage, classInfo?_of_grows h hr]

theorem isSubclass_of_grows (h : w.Grows classes store w') {cls : Ref}
    (hr : cls.id < w.heap.size) (target : Ref) :
    isSubclass w' cls target = isSubclass w cls target := by
  rw [isSubclass, isSubclass, lineage_of_grows h hr]

theorem Issued.lineage (hi : Issued w) {cls : Ref} (hr : cls.id < w.heap.size) :
    ∀ c ∈ Memory.lineage w cls, c.id < w.heap.size := by
  intro c hc
  rcases List.mem_cons.mp hc with rfl | hc
  · exact hr
  · cases hinfo : classInfo? w cls with
    | none => simp [hinfo] at hc
    | some info =>
        rw [hinfo] at hc
        exact hi.ancestors cls info hinfo c hc

/-- A search along references that were issued. -/
theorem findSome?_congr {α : Type} {f g : Ref → Option α} {refs : List Ref}
    (h : ∀ c ∈ refs, f c = g c) : refs.findSome? f = refs.findSome? g := by
  induction refs with
  | nil => rfl
  | cons c rest ih =>
      rw [List.findSome?_cons, List.findSome?_cons, h c List.mem_cons_self,
        ih fun d hd => h d (List.mem_cons_of_mem _ hd)]

theorem lookupInClass_of_grows (h : w.Grows classes store w') (hi : Issued w) {cls : Ref}
    (hr : cls.id < w.heap.size) (name : String) :
    lookupInClass w' cls name = lookupInClass w cls name := by
  rw [lookupInClass, lookupInClass, lineage_of_grows h hr]
  exact findSome?_congr fun c hc => ownAttr?_of_grows h (hi.lineage hr c hc) name

theorem initOf_of_grows (h : w.Grows classes store w') (hi : Issued w) {cls : Ref}
    (hr : cls.id < w.heap.size) : initOf w' cls = initOf w cls := by
  rw [initOf, initOf, lineage_of_grows h hr]
  exact findSome?_congr fun c hc => by rw [classInfo?_of_grows h (hi.lineage hr c hc)]

theorem typeOf_of_grows (h : w.Grows classes store w') {r : Ref} (hr : r.id < w.heap.size) :
    typeOf w' r = typeOf w r := by
  rw [typeOf, typeOf, body?_of_grows h hr]

/-- A look-up finds what it found before. -/
theorem lookup_of_grows (h : w.Grows classes store w') (hi : Issued w) {r : Ref}
    (hr : r.id < w.heap.size) (name : String) : lookup w' r name = lookup w r name := by
  rw [lookup, lookup, ownAttr?_of_grows h hr, typeOf_of_grows h hr, lineage_of_grows h hr,
    body?_of_grows h hr]
  cases hbody : body? w r with
  | none => rfl
  | some body =>
      cases body with
      | cls info =>
          dsimp only
          rw [findSome?_congr fun c hc =>
            ownAttr?_of_grows h (hi.lineage hr c (List.mem_of_mem_tail hc)) name]
      | «instance» cls value =>
          dsimp only
          rw [lookupInClass_of_grows h hi (hi.owners r cls value hbody)]
      | _ => rfl

theorem Builtin.ref_lt (b : Builtin) : b.ref.id < Builtin.all.length := by
  cases b <;> decide

theorem Issued.typeOf (hi : Issued w) (r : Ref) : (Memory.typeOf w r).id < w.heap.size := by
  unfold Memory.typeOf
  split
  case h_10 cls value hbody => exact hi.owners r cls value hbody
  all_goals exact Nat.lt_of_lt_of_le (Builtin.ref_lt _) hi.builtins

/-- What a look-up finds was issued. -/
theorem Issued.lookup (hi : Issued w) {r x : Ref} {name : String}
    (h : Memory.lookup w r name = some x) : x.id < w.heap.size := by
  have hfound : ∀ refs : List Ref, refs.findSome? (fun c => ownAttr? w c name) = some x →
      x.id < w.heap.size := by
    intro refs hsome
    obtain ⟨c, -, hc⟩ := List.exists_of_findSome?_eq_some hsome
    exact hi.attrs c name x hc
  simp only [Memory.lookup, Option.orElse_eq_orElse, Option.orElse_eq_or,
    Option.or_eq_some_iff] at h
  rcases h with hown | ⟨-, h⟩
  · exact hi.attrs r name x hown
  · rcases h with hclass | ⟨-, h⟩
    · split at hclass
      · exact hfound _ hclass
      · exact hfound _ hclass
      · exact absurd hclass (by simp)
    · split at h
      · injection h with h
        exact h ▸ hi.typeOf r
      · exact absurd h (by simp)

end Lookups

/-- The class that a path leads to. -/
def classAt? (w : World (Body C)) (path : ClassPath) : Option Ref :=
  (w.modules.get? path.moduleName).bind fun module => path.path.foldlM (lookup w) module

section Classes

variable {w w' : World (Body C)} {classes : String → Ref} {store : ClassStore}

theorem follow_of_grows (h : w.Grows classes store w') (hi : Issued w) {path : List String}
    {r : Ref} (hr : r.id < w.heap.size) : path.foldlM (lookup w') r = path.foldlM (lookup w) r := by
  induction path generalizing r with
  | nil => rfl
  | cons name rest ih =>
      rw [List.foldlM_cons, List.foldlM_cons, lookup_of_grows h hi hr]
      cases hnext : lookup w r name with
      | none => rfl
      | some next => exact ih (hi.lookup hnext)

/-- A path leads where it led before. -/
theorem classAt?_of_grows (h : w.Grows classes store w') (hi : Issued w) (path : ClassPath) :
    classAt? w' path = classAt? w path := by
  rw [classAt?, classAt?, h.modules]
  cases hmodule : w.modules.get? path.moduleName with
  | none => rfl
  | some module => exact follow_of_grows h hi (hi.modules _ _ hmodule)

end Classes

end Memory

end DdsBridge
