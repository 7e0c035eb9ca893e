import DdsBridge.Host.World

/-!
# Collecting objects

An object goes as soon as nothing refers to it: no attribute, no body, no module or register, no
table of the bridge and no running operation. With a capsule goes its proxy's hold on the entity:
the bridge forgets the reader's callback and the provider takes the reference back. Objects that
refer to each other in a circle stay.

* **`World.references`** — everything that is referred to.
* **`World.garbage`** — the objects that can go.
* **`World.collect`** — lets them go, and those that can go then, until none is left.
* **`World.storeAttr`**, **`World.removeAttr`** — changes of attributes, with what follows.
-/

namespace DdsBridge

namespace World

variable {B : Type} [ObjectBody B]

/-- Everything that is referred to, from outside the heap or from an object. -/
def references (w : World B) : List Ref :=
  w.roots ++ w.heap.slots.toList.flatMap fun slot =>
    match slot with
    | some node => node.references
    | none => []

/-- For each number whether it is referred to. -/
def referenceMarks (w : World B) : Array Bool :=
  w.references.foldl (fun marks r => marks.setIfInBounds r.id true)
    (Array.replicate w.heap.size false)

/-- The objects that can go: they are older than the running operation, not permanent, and nothing
refers to them. -/
def garbage (w : World B) : List Ref :=
  let marks := w.referenceMarks
  (List.range (min w.mark w.heap.size)).filterMap fun i =>
    if w.permanent ≤ i && marks[i]? == some false && (w.heap.get? ⟨i⟩).isSome then some ⟨i⟩
    else none

/-- Forgets the callback of a reader. -/
def forgetCallback (w : World B) (reader : Handle) : World B :=
  { w with bridge := { w.bridge with callbacks := w.bridge.callbacks.erase reader } }

/-- Gives back the hold on an entity that a capsule stands for. A capsule of an earlier bridge
gives it back to that bridge's provider, which nobody sees any more. -/
def releaseCapsule (w : World B) (capsule : Capsule) : World B :=
  match capsule.owner with
  | .loose => { w with releases := w.releases ++ [.loose capsule.kind capsule.handle] }
  | .bridge generation observed =>
    let release := Release.toProvider capsule.kind capsule.handle
    let w := if observed then { w with releases := w.releases ++ [release] } else w
    if generation = w.bridge.generation then
      let w := if capsule.kind = .reader then w.forgetCallback capsule.handle else w
      w.advance (w.provider.release capsule.handle)
    else w

/-- Lets one object go. -/
def discard (w : World B) (r : Ref) : World B :=
  match w.heap.get? r with
  | none => w
  | some node =>
    let w := { w with heap := w.heap.erase r }
    match ObjectBody.capsule? node.body with
    | some capsule => w.releaseCapsule capsule
    | none => w

/-- Lets objects go in rounds, at most `rounds` of them. -/
def collectRounds : (rounds : Nat) → World B → World B
  | 0, w => w
  | rounds + 1, w =>
    match w.garbage with
    | [] => w
    | refs => collectRounds rounds (refs.foldl discard w)

/-- Lets go every object that can go. Each round removes an object, so the number of objects
bounds the rounds. -/
def collect (w : World B) : World B := w.collectRounds w.heap.size

/-- Lets go every object that can go, those made by the running operation included, which must
hold none of them except by a pin. -/
def collectAll (w : World B) : World B :=
  let swept := collect { w with mark := w.heap.size }
  { swept with mark := w.mark }

/-- Stores an attribute. An object that it replaces goes if nothing else refers to it. -/
def storeAttr (w : World B) (obj : Ref) (name : String) (value : Ref) : World B :=
  match w.heap.get? obj with
  | none => w
  | some node =>
    let stored :=
      { w with heap := w.heap.set obj { node with attrs := node.attrs.insert name value } }
    if node.attrs.contains name then stored.collect else stored

/-- Removes an attribute. An object that only it referred to goes. -/
def removeAttr (w : World B) (obj : Ref) (name : String) : World B :=
  match w.heap.get? obj with
  | none => w
  | some node =>
    collect { w with heap := w.heap.set obj { node with attrs := node.attrs.erase name } }

end World

end DdsBridge
