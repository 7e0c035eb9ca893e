import DdsBridge.Proofs.Bridge.Undisturbed

/-!
# Host code that only adds objects

Where the constructors and the guards of the classes among the fields of a structure do nothing to
objects that were there before, the worlds of a conversion are those that grew out of the first one,
and an object of that world is left alone.

* **`Marshal.GrownFrom`** — the worlds that grew out of one.
* **`Marshal.Undisturbed.of_grown`** — what such a conversion relies on.
-/

namespace DdsBridge

open Memory

variable {C : Type} [HostCode C] {classes : String → Ref} {store : ClassStore}
variable {v w : World (Body C)}

/-- Nothing can go if whatever is old enough is permanent. -/
theorem garbage_of_permanent (h : w.mark ≤ w.permanent) : w.garbage = [] := by
  refine List.eq_nil_iff_forall_not_mem.mpr fun r hr => ?_
  obtain ⟨hmark, hpermanent, -⟩ := World.mem_garbage_iff.mp hr
  omega

namespace Marshal

variable {inner : Host (Body C)} {invoke : C → List Ref → MemoryAction C Ref} {s : StructType}
variable {obj : Ref}

/-- The class of an object has a name, which is a text. -/
theorem describe_eq {ε : Type} {name : Ref} {text : String}
    (hname : lookup w (Memory.typeOf w obj) "__name__" = some name)
    (htext : body? w name = some (.str text)) :
    ((host inner invoke).describe obj : Action (Body C) ε String).apply w = (.ok text, w) := by
  have hget : (getAttr (Memory.typeOf w obj) "__name__").apply w = (.ok name, w) := by
    rw [getAttr, Action.apply_bind_of_ok (Action.apply_world w), hname]
    rfl
  have hstr : (strOf inner name).apply w = (.ok text, w) := by
    rw [strOf, Action.apply_bind_of_ok (Action.apply_world w), htext]
    dsimp only
    rw [strByKind, Action.apply_bind_of_ok (Action.apply_world w), htext]
    rfl
  have hnamed : (getAttr (Memory.typeOf w obj) "__name__" >>= strOf inner).apply w = (.ok text, w) :=
    (Action.apply_bind_of_ok hget).trans hstr
  rw [Host.describe, Action.apply_bind_of_ok (Action.apply_world w)]
  exact Action.apply_bind_of_ok (Action.apply_attempt_of_ok hnamed)

/-- The worlds that grew out of one, as long as whatever can go is permanent. -/
def GrownFrom (classes : String → Ref) (store : ClassStore) (v w : World (Body C)) : Prop :=
  v.Grows classes store w ∧ w.mark ≤ w.permanent

omit [HostCode C] in
/-- The classes among the fields, found in worlds that grew, are those of their names. -/
theorem NestedClass.of_grown (hi : Issued v)
    (hleads : ∀ name path, s.fields.Mentions name path → LeadsTo classes store v name path) {cls : Ref}
    (h : NestedClass (GrownFrom classes store v) store s cls) :
    ∃ name path, s.fields.Mentions name path ∧ cls = classes name := by
  obtain ⟨w, name, path, ⟨hg, -⟩, hm, hfor⟩ := h
  exact ⟨name, path, hm, (hleads name path hm).of_grows hi hg cls hfor⟩

/-- An object is left alone if the constructors and the guards of the classes among the fields only
add objects; these classes are none of exceptions. -/
theorem Undisturbed.of_grown (hi : Issued v) (hobj : obj.id < v.heap.size) (hu : Unguarded v obj)
    (hnamed : ∃ name text, lookup v (Memory.typeOf v obj) "__name__" = some name ∧
      body? v name = some (.str text))
    (hleads : ∀ name path, s.type.Mentions name path → LeadsTo classes store v name path)
    (hclass : ∀ name path, s.fields.Mentions name path →
      (classInfo? v (classes name)).isSome ∧ isSubclass v (classes name) Builtin.exception.ref = false)
    (hinit : ∀ name path code, s.fields.Mentions name path → initOf v (classes name) = some code →
      ∀ args, (invoke code args).Within (World.Sparing (GrownFrom classes store v) obj))
    (hguard : ∀ name path guard w, s.fields.Mentions name path →
      lookupInClass v (classes name) "__setattr__" = some guard → v.Grows classes store w →
        ∀ args, (inner.call guard args).WithinAt (World.Sparing (GrownFrom classes store v) obj) w) :
    Undisturbed (GrownFrom classes store v) inner invoke store s v.heap.size obj := by
  -- all that is asked of a class was so in `v` already, where the class has a number
  have hissued : ∀ {name path}, s.fields.Mentions name path → (classes name).id < v.heap.size :=
    fun hm => (Option.isSome_iff_exists.mp (hclass _ _ hm).1).elim fun _ => lt_of_classInfo?
  have hnested : ∀ {cls}, NestedClass (GrownFrom classes store v) store s cls →
      ∃ name path, s.fields.Mentions name path ∧ cls = classes name :=
    NestedClass.of_grown hi fun name path hm => hleads name path (.inr hm)
  refine
    { older := hobj
      room := fun hI => hI.1.size_le
      unguarded := fun hI => hu.of_grows hI.1 hi hobj
      isClass := ?isClass
      pinned := fun pinned hI => ⟨hI.1.pinned pinned, hI.2⟩
      alloc := fun hI _ => ⟨hI.1.trans (.alloc ..), hI.2⟩
      remember := ?remember
      storeAttr := ?storeAttr
      init := ?init
      fill := ?fill
      guard := ?guard
      describe := ?describe }
  case isClass =>
    intro w name path cls hI hm hfor
    rw [(hleads name path (.inr hm)).of_grows hi hI.1 cls hfor, classInfo?_of_grows hI.1 (hissued hm)]
    exact (hclass name path hm).1
  case remember =>
    intro w name path cls hI hm hnone hfor
    rw [(hleads name path hm).of_grows hi hI.1 cls hfor]
    exact ⟨hI.1.trans (.remember hnone), by cases store <;> exact hI.2⟩
  case storeAttr =>
    intro w x cls number name value hI _ hx hbody
    obtain ⟨node, hnode, -⟩ := Option.map_eq_some_iff.mp hbody
    rw [World.storeAttr_eq hnode (.inr (garbage_of_permanent hI.2))]
    exact ⟨hI.1.set hnode hx _, hI.2⟩
  case init =>
    intro w cls code x args hcls hcode _ _ hends hI
    obtain ⟨name, path, hm, rfl⟩ := hnested hcls
    rw [initOf_of_grows hI.1 hi (hissued hm)] at hcode
    exact hinit name path code hm hcode _ w hends hI
  case fill =>
    intro w cls number x args hcls hexception _ _ _ _ hI
    obtain ⟨name, path, hm, rfl⟩ := hnested hcls
    rw [isSubclass_of_grows hI.1 (hissued hm), (hclass name path hm).2] at hexception
    cases hexception
  case guard =>
    intro w cls number x guard name value hI hcls _ hbody hguarded
    obtain ⟨type, path, hm, rfl⟩ := hnested hcls
    rw [guardOf, hbody] at hguarded
    refine hguard type path guard _ hm ?_ (hI.1.trans (.alloc ..)) _
    exact (lookupInClass_of_grows hI.1 hi (hissued hm) _).symm.trans hguarded
  case describe =>
    intro w hends hI
    obtain ⟨name, text, hname, htext⟩ := hnamed
    have hlookup : lookup w (Memory.typeOf w obj) "__name__" = some name := by
      rw [typeOf_of_grows hI.1 hobj, lookup_of_grows hI.1 hi (hi.typeOf obj)]
      exact hname
    have hbody : body? w name = some (.str text) :=
      (body?_of_grows hI.1 (hi.lookup hname)).trans htext
    refine Action.WithinAt.of_unchanged ?_ hends hI
    rw [describe_eq hlookup hbody]

end Marshal

end DdsBridge
