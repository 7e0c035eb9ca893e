import DdsBridge.Host.Interface

/-!
# Proxies and capsules

A proxy is a host object that stands for an entity. It holds a capsule in a reserved attribute,
one at most; when the capsule goes, the proxy's hold on the entity is given back. The entity itself
belongs to the provider, which may delete it earlier: a capsule whose entity is gone is removed
from its proxy by the first operation that meets it.

* **`bind`**, **`unbind`** — put a capsule on a proxy and take it away.
* **`heldBy`**, **`heldAs`** — the entity that a proxy's capsule names.
* **`resolve`**, **`resolveAs`** — the same, and the entity must be alive.
-/

namespace DdsBridge.Proxies

/-- The reserved attribute that holds the capsule. -/
def capsuleAttr : String := "_cpp_object"

variable {B : Type} (h : Host B)

/-- The failure of a proxy that does not stand for what it should. -/
def missing (role : String) (expected : String) : BridgeAction B α :=
  Action.raise (.handleMissing role expected)

/-- Puts a capsule on a proxy in the place of another one, which goes when nothing else refers to
it. A capsule that the proxy does not accept goes at once. -/
def bind [ObjectBody B] (proxy : Ref) (capsule : Capsule) : BridgeAction B Ref := do
  let wrapped ← h.newCapsule capsule
  let store : HostAction B Unit := h.setAttr proxy capsuleAttr wrapped
  Action.holding [wrapped] (store : BridgeAction B Unit)
  return wrapped

/-- Takes the capsule away from a proxy, which need not have one. -/
def unbind (proxy : Ref) : BridgeAction B Unit := do
  match ← (h.delAttr proxy capsuleAttr).attempt with
  | .ok () => return
  | .error error => if error.kind = .attribute then return else Action.raise (.host error)

/-- The entity that a proxy's capsule names. A proxy without a capsule is missing what was
expected of it. -/
def heldBy (proxy : Ref) (role expected : String) : BridgeAction B (EntityKind × Handle) := do
  match ← (h.getAttr proxy capsuleAttr).attempt (δ := Error) with
  | .error _ => missing role expected
  | .ok wrapped =>
    match h.capsuleHandle (← Action.world) wrapped with
    | some held => return held
    | none => missing role expected

/-- The entity of the given kind that a proxy's capsule names. -/
def heldAs (proxy : Ref) (kind : EntityKind) (role : String) : BridgeAction B Handle := do
  let (found, handle) ← heldBy h proxy role kind.name
  if found = kind then return handle else missing role kind.name

/-- The entity must be alive; if it is not, the proxy loses its capsule. -/
def requireAlive (proxy : Ref) (handle : Handle) (role : String) (kind : EntityKind) :
    BridgeAction B Unit := do
  if (← Action.world).provider.isAlive handle then return
  else
    unbind h proxy
    missing role kind.name

/-- The live entity of the given kind that a proxy stands for. -/
def resolveAs (proxy : Ref) (kind : EntityKind) (role : String) : BridgeAction B Handle := do
  let handle ← heldAs h proxy kind role
  requireAlive h proxy handle role kind
  return handle

/-- The live entity that a proxy stands for. -/
def resolve (proxy : Ref) (role : String) : BridgeAction B (EntityKind × Handle) := do
  let (kind, handle) ← heldBy h proxy role "entity"
  requireAlive h proxy handle role kind
  return (kind, handle)

end DdsBridge.Proxies
