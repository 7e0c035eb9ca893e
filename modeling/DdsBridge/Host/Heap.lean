import DdsBridge.Dds.Entity
import DdsBridge.Host.Ref
import DdsBridge.Table

/-!
# The objects of a scripting host

An object has a body, which says what kind of object it is, and attributes. Objects are numbered in
the order of their creation; the number of an object that is gone is not used again. What bodies
there are is the host's business: the heap only asks which objects a body refers to and whether it
is a capsule.

* **`Node`**, **`Heap`** — objects and their store.
* **`ObjectBody`** — what the heap asks of a body.
* **`Heap.get?_alloc_self`**, **`Heap.get?_set`**, **`Heap.get?_erase`** — what a look-up finds
  after an update.
-/

namespace DdsBridge

/-- Who is told when a capsule goes. -/
inductive CapsuleOwner where
  /-- The bridge with this number; bridges are numbered as they are built. The observer is told
  too if the bridge lets the observer see its provider. -/
  | bridge (generation : Nat) (observed : Bool)
  /-- Nobody but the observer. -/
  | loose
  deriving DecidableEq, Repr

/-- A proxy's hold on an entity. -/
structure Capsule where
  kind : EntityKind
  handle : Handle
  owner : CapsuleOwner
  deriving DecidableEq, Repr

/-- A capsule as diagnostics show it, under the name of what holds it. -/
def Capsule.inspect (capsule : Capsule) (name : String) : String :=
  s!"{name} \x7b kind: {capsule.kind.word}, handle: EntityHandle({capsule.handle.id}), .. \x7d"

/-- What the heap asks of the body of an object. -/
class ObjectBody (B : Type) where
  /-- The objects a body refers to. -/
  references : B → List Ref
  /-- The capsule that a body is, if it is one. -/
  capsule? : B → Option Capsule

/-- An object. -/
structure Node (B : Type) where
  attrs : Table String Ref
  body : B

/-- The objects that an object refers to. -/
def Node.references {B : Type} [ObjectBody B] (node : Node B) : List Ref :=
  node.attrs.values ++ ObjectBody.references node.body

/-- The store of objects, by number; the places of objects that are gone are empty. -/
structure Heap (B : Type) where
  slots : Array (Option (Node B))

namespace Heap

variable {B : Type}

/-- The store without objects. -/
def empty : Heap B := ⟨#[]⟩

instance : Inhabited (Heap B) := ⟨empty⟩

/-- How many objects were ever created. -/
def size (heap : Heap B) : Nat := heap.slots.size

/-- The object with a reference, if it is still there. -/
def get? (heap : Heap B) (r : Ref) : Option (Node B) := heap.slots[r.id]?.join

/-- Creates an object. -/
def alloc (heap : Heap B) (node : Node B) : Ref × Heap B :=
  (⟨heap.slots.size⟩, ⟨heap.slots.push (some node)⟩)

/-- Replaces an object. -/
def set (heap : Heap B) (r : Ref) (node : Node B) : Heap B :=
  ⟨heap.slots.setIfInBounds r.id (some node)⟩

/-- Removes an object. -/
def erase (heap : Heap B) (r : Ref) : Heap B := ⟨heap.slots.setIfInBounds r.id none⟩

theorem get?_alloc_self (heap : Heap B) (node : Node B) :
    (heap.alloc node).2.get? (heap.alloc node).1 = some node := by
  simp [alloc, get?]

theorem get?_alloc_of_lt {heap : Heap B} {node : Node B} {r : Ref} (h : r.id < heap.size) :
    (heap.alloc node).2.get? r = heap.get? r := by
  simp only [alloc, get?, size] at *
  rw [Array.getElem?_push_lt h, Array.getElem?_eq_getElem h]

theorem lt_size_of_get? {heap : Heap B} {r : Ref} {node : Node B}
    (h : heap.get? r = some node) : r.id < heap.size := by
  simp only [get?, size] at *
  by_cases hlt : r.id < heap.slots.size
  · exact hlt
  · rw [Array.getElem?_eq_none (by omega)] at h
    simp at h

/-- The new object comes last, and the others stay. -/
theorem get?_alloc (heap : Heap B) (node : Node B) (r : Ref) :
    (heap.alloc node).2.get? r = if r = ⟨heap.size⟩ then some node else heap.get? r := by
  split
  · rename_i hr
    rw [hr]
    exact get?_alloc_self heap node
  · rename_i hr
    have hne : r.id ≠ heap.slots.size := fun h => hr (congrArg Ref.mk h)
    simp only [alloc, get?, Array.getElem?_push, if_neg hne]

/-- The objects of a heap that is given by a list are those of the list. -/
theorem mem_of_get? {nodes : List (Node B)} {r : Ref} {node : Node B}
    (h : (⟨(nodes.map some).toArray⟩ : Heap B).get? r = some node) : node ∈ nodes := by
  simp only [get?, List.getElem?_toArray, List.getElem?_map, Option.join_eq_some_iff,
    Option.map_eq_some_iff, Option.some.injEq, exists_eq_right] at h
  exact List.mem_of_getElem? h

theorem get?_set {heap : Heap B} {r : Ref} {node old : Node B} (h : heap.get? r = some old)
    (r' : Ref) : (heap.set r node).get? r' = if r' = r then some node else heap.get? r' := by
  have hlt := lt_size_of_get? h
  simp only [set, get?, size] at *
  by_cases e : r' = r
  · subst e; simp [hlt]
  · have : r.id ≠ r'.id := fun he => e (by cases r; cases r'; simp_all)
    simp [Array.getElem?_setIfInBounds_ne this, e]

theorem get?_erase (heap : Heap B) (r r' : Ref) :
    (heap.erase r).get? r' = if r' = r then none else heap.get? r' := by
  simp only [erase, get?]
  by_cases e : r' = r
  · subst e
    by_cases hlt : r'.id < heap.slots.size
    · simp [hlt]
    · have beyond : (heap.slots.setIfInBounds r'.id none).size ≤ r'.id := by simpa using hlt
      simp [Array.getElem?_eq_none beyond]
  · have : r.id ≠ r'.id := fun he => e (by cases r; cases r'; simp_all)
    simp [Array.getElem?_setIfInBounds_ne this, e]

end Heap

end DdsBridge
