import DdsBridge.Bridge.Marshal

/-!
# Quality of service from host objects

A host object for the quality of service has attributes for durability, reliability and history,
each with a kind and some with more. Nothing, or the object that stands for nothing, selects the
default.

* **`endpointQos`** — what a host object asks for.
-/

namespace DdsBridge.Policies

variable {B : Type} (h : Host B)

/-- The kind of a policy, a number that must name one. -/
def readKind {K : Type} (policy : Ref) (target : String) (ofRank? : Nat → Option K) :
    BridgeAction B K := do
  let kind ← (h.getAttr policy "kind" : HostAction B Ref)
  let rank ← Marshal.intFromHost h .u32 kind
  match ofRank? rank.toNat with
  | some kind => return kind
  | none => Action.raise (.range ⟨target, toString rank⟩)

/-- The durability policy. -/
def readDurability (qos : Ref) : BridgeAction B DurabilityKind := do
  let policy ← (h.getAttr qos "durability" : HostAction B Ref)
  readKind h policy "durability.kind" DurabilityKind.ofRank?

/-- The reliability policy; the time is read before the kind. -/
def readReliability (qos : Ref) : BridgeAction B Reliability := do
  let policy ← (h.getAttr qos "reliability" : HostAction B Ref)
  let time ← (h.getAttr policy "max_blocking_time" : HostAction B Ref)
  let seconds ← Marshal.floatFromHost h time
  let kind ← readKind h policy "reliability.kind" ReliabilityKind.ofRank?
  let maxBlockingTime ← Action.ofExcept ((Duration.ofSeconds seconds).mapError Error.range)
  return { kind, maxBlockingTime }

/-- The history policy, whose depth must be positive where it counts. -/
def readHistory (qos : Ref) : BridgeAction B History := do
  let policy ← (h.getAttr qos "history" : HostAction B Ref)
  let kind ← readKind h policy "history.kind" HistoryKind.ofRank?
  let depth ← Marshal.intFromHost h .i32 (← (h.getAttr policy "depth" : HostAction B Ref))
  let history : History := { kind, depth }
  if history.isConsistent then return history
  else Action.raise (.range ⟨"history.depth", toString depth⟩)

/-- What a host object asks for. -/
def endpointQos (default : EndpointQos) (qos : Option Ref) : BridgeAction B EndpointQos := do
  match qos with
  | none => return default
  | some qos =>
    if qos = h.none then return default
    else
      let durability ← readDurability h qos
      let reliability ← readReliability h qos
      let history ← readHistory h qos
      return { durability, reliability, history }

end DdsBridge.Policies
