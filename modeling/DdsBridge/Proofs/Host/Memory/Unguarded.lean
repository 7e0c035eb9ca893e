import DdsBridge.Proofs.Host.Memory.Assignment
import DdsBridge.Proofs.Host.Spared

/-!
# Objects without a guard

Where no guard watches over an object, an assignment on it runs no host code. It stays without a
guard, whatever attributes it gets, unless it is one of its own classes.

* **`Memory.Unguarded`** — an object without a guard.
* **`Memory.Unguarded.of_grows`**, **`Memory.Unguarded.storeAttr`** — it stays so.
* **`Memory.setAttr_of_noGuard`** — an assignment on it.
-/

namespace DdsBridge.Memory

variable {C : Type} {w w' : World (Body C)} {obj : Ref}

/-- No guard watches over assignments to an object, and the object is no class of its own that could
give it one. -/
structure Unguarded (w : World (Body C)) (obj : Ref) : Prop where
  noGuard : guardOf w obj = none
  apart : obj ∉ inherits w obj

theorem lineage_subset (hback : ∀ r body, body? w' r = some body → body? w r = some body)
    (cls : Ref) : lineage w' cls ⊆ lineage w cls := by
  refine List.cons_subset_cons cls ?_
  cases hinfo : classInfo? w' cls with
  | none => exact List.nil_subset _
  | some info => rw [classInfo?_of_body (hback cls _ (body?_of_classInfo? hinfo))]; exact fun _ => id

theorem inherits_subset (hback : ∀ r body, body? w' r = some body → body? w r = some body)
    (r : Ref) : inherits w' r ⊆ inherits w r := by
  cases hbody : body? w' r with
  | none =>
      rw [inherits, hbody]
      exact List.nil_subset _
  | some body =>
      rw [inherits_of_body hbody, inherits_of_body (hback r body hbody)]
      cases body with
      | «instance» owner value => exact lineage_subset hback owner
      | _ => exact fun _ => id

/-- An object inherits from the same classes in every world that grew. -/
theorem inherits_of_grows {classes : String → Ref} {store : ClassStore} (hg : w.Grows classes store w')
    (hi : Issued w) (hobj : obj.id < w.heap.size) : inherits w' obj = inherits w obj := by
  have hsame := body?_of_grows hg hobj
  cases hbody : body? w obj with
  | none => rw [inherits, inherits, hsame, hbody]; rfl
  | some body =>
      rw [inherits_of_body hbody, inherits_of_body (hsame.trans hbody)]
      cases body with
      | «instance» cls number => exact lineage_of_grows hg (hi.owners obj cls number hbody)
      | _ => rfl

/-- No guard comes by growth. -/
theorem Unguarded.of_grows {classes : String → Ref} {store : ClassStore} (hu : Unguarded w obj)
    (hg : w.Grows classes store w') (hi : Issued w) (hobj : obj.id < w.heap.size) :
    Unguarded w' obj where
  noGuard := by
    have hnone := hu.noGuard
    rw [guardOf] at hnone ⊢
    rw [body?_of_grows hg hobj]
    cases hbody : body? w obj with
    | none => rfl
    | some body =>
        rw [hbody] at hnone
        cases body with
        | «instance» cls number =>
            exact (lookupInClass_of_grows hg hi (hi.owners obj cls number hbody) _).trans hnone
        | _ => rfl
  apart := fun hmem => hu.apart (inherits_of_grows hg hi hobj ▸ hmem)

variable [HostCode C]

/-- The attributes that are stored on an object do not guard it. -/
theorem Unguarded.storeAttr (hu : Unguarded w obj) (name : String) (value : Ref) :
    Unguarded (w.storeAttr obj name value) obj := by
  have hback : ∀ r body, body? (w.storeAttr obj name value) r = some body → body? w r = some body :=
    fun r body => (World.storeAttr_back w obj name value).1
  have hsubset := inherits_subset hback obj
  refine ⟨Option.eq_none_iff_forall_ne_some.mpr fun guard hguard => ?_,
    fun hmem => hu.apart (hsubset hmem)⟩
  cases hbody : body? (w.storeAttr obj name value) obj with
  | none => rw [guardOf, hbody] at hguard; cases hguard
  | some body =>
      cases body with
      | «instance» cls number =>
          rw [guardOf, hbody] at hguard
          obtain ⟨c, hc, hfound⟩ := List.exists_of_findSome?_eq_some hguard
          have hmem : c ∈ lineage w cls := lineage_subset hback cls hc
          -- an attribute of the object itself is none of its classes
          have hne : c ≠ obj := by
            rintro rfl
            refine hu.apart ?_
            rw [inherits_of_body (hback c _ hbody)]
            exact hmem
          have hown : ownAttr? w c "__setattr__" = some guard :=
            (World.storeAttr_back w obj name value).2 hne hfound
          have hnone := hu.noGuard
          rw [guardOf, hback obj _ hbody] at hnone
          rw [List.findSome?_eq_none_iff.mp hnone c hmem] at hown
          cases hown
      | _ => rw [guardOf, hbody] at hguard; cases hguard

/-- An assignment without a guard is made if the object takes attributes, and else nothing happens. -/
theorem setAttr_of_noGuard (inner : Host (Body C)) (hguard : guardOf w obj = none) (name : String)
    (value : Ref) :
    (takesAttrs (body? w obj) = true ∧
        (setAttr inner obj name value).apply w = (.ok (), w.storeAttr obj name value)) ∨
      (takesAttrs (body? w obj) = false ∧
        ∃ error, (setAttr inner obj name value).apply w = (.error (.raised error), w)) := by
  rw [setAttr, Action.apply_bind_of_ok (Action.apply_world w), hguard]
  dsimp only
  rw [Action.apply_bind_of_ok (Action.apply_world w)]
  cases takesAttrs (body? w obj) with
  | true => exact .inl ⟨rfl, rfl⟩
  | false => exact .inr ⟨rfl, _, rfl⟩

end DdsBridge.Memory
