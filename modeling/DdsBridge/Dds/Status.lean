import DdsBridge.Text.Digits

/-!
# Communication statuses

A status is one bit of a mask of 32 bits. An entity carries a mask of the statuses raised on it, a
status condition and a listener each a mask of the statuses they look at.

* **`StatusKind`** — the thirteen statuses and their bits.
* **`StatusMask`** — a set of bits, with insertion, removal, union and intersection.
* **`StatusMask.text`** — the statuses by name, joined by bars.
-/

namespace DdsBridge

/-- A communication status. -/
inductive StatusKind where
  | inconsistentTopic
  | offeredDeadlineMissed
  | requestedDeadlineMissed
  | offeredIncompatibleQos
  | requestedIncompatibleQos
  | sampleLost
  | sampleRejected
  | dataOnReaders
  | dataAvailable
  | livelinessLost
  | livelinessChanged
  | publicationMatched
  | subscriptionMatched
  deriving DecidableEq, Repr

namespace StatusKind

/-- Every status, in the order of their bits. -/
def all : List StatusKind :=
  [.inconsistentTopic, .offeredDeadlineMissed, .requestedDeadlineMissed, .offeredIncompatibleQos,
    .requestedIncompatibleQos, .sampleLost, .sampleRejected, .dataOnReaders, .dataAvailable,
    .livelinessLost, .livelinessChanged, .publicationMatched, .subscriptionMatched]

/-- The status' bit. -/
def bit : StatusKind → UInt32
  | .inconsistentTopic => 0x0001
  | .offeredDeadlineMissed => 0x0002
  | .requestedDeadlineMissed => 0x0004
  | .offeredIncompatibleQos => 0x0020
  | .requestedIncompatibleQos => 0x0040
  | .sampleLost => 0x0080
  | .sampleRejected => 0x0100
  | .dataOnReaders => 0x0200
  | .dataAvailable => 0x0400
  | .livelinessLost => 0x0800
  | .livelinessChanged => 0x1000
  | .publicationMatched => 0x2000
  | .subscriptionMatched => 0x4000

/-- The status with exactly the given bit. -/
def ofBit? (bits : Nat) : Option StatusKind := all.find? fun kind => kind.bit.toNat = bits

/-- The status' name in capitals. -/
def name : StatusKind → String
  | .inconsistentTopic => "INCONSISTENT_TOPIC"
  | .offeredDeadlineMissed => "OFFERED_DEADLINE_MISSED"
  | .requestedDeadlineMissed => "REQUESTED_DEADLINE_MISSED"
  | .offeredIncompatibleQos => "OFFERED_INCOMPATIBLE_QOS"
  | .requestedIncompatibleQos => "REQUESTED_INCOMPATIBLE_QOS"
  | .sampleLost => "SAMPLE_LOST"
  | .sampleRejected => "SAMPLE_REJECTED"
  | .dataOnReaders => "DATA_ON_READERS"
  | .dataAvailable => "DATA_AVAILABLE"
  | .livelinessLost => "LIVELINESS_LOST"
  | .livelinessChanged => "LIVELINESS_CHANGED"
  | .publicationMatched => "PUBLICATION_MATCHED"
  | .subscriptionMatched => "SUBSCRIPTION_MATCHED"

/-- The name of the constant that holds the status' bit. -/
def constantName (kind : StatusKind) : String := kind.name ++ "_STATUS"

end StatusKind

/-- A set of statuses, and of bits that name none. -/
structure StatusMask where
  bits : UInt32
  deriving DecidableEq, Repr, Inhabited

namespace StatusMask

/-- No bit. -/
def none : StatusMask := ⟨0⟩

/-- Every bit, those that name no status included. -/
def all : StatusMask := ⟨0xffffffff⟩

/-- The mask of one status. -/
def ofKind (kind : StatusKind) : StatusMask := ⟨kind.bit⟩

/-- Whether no bit is set. -/
def isEmpty (mask : StatusMask) : Bool := mask.bits = 0

/-- Whether a status is in the mask. -/
def contains (mask : StatusMask) (kind : StatusKind) : Bool := mask.bits &&& kind.bit ≠ 0

/-- Whether two masks share a bit. -/
def intersects (a b : StatusMask) : Bool := a.bits &&& b.bits ≠ 0

/-- The mask with a status added. -/
def insert (mask : StatusMask) (kind : StatusKind) : StatusMask := ⟨mask.bits ||| kind.bit⟩

/-- The mask with a status removed. -/
def remove (mask : StatusMask) (kind : StatusKind) : StatusMask := ⟨mask.bits &&& ~~~kind.bit⟩

/-- The bits of either mask. -/
def union (a b : StatusMask) : StatusMask := ⟨a.bits ||| b.bits⟩

/-- The bits of both masks. -/
def inter (a b : StatusMask) : StatusMask := ⟨a.bits &&& b.bits⟩

/-- The statuses in the mask, in the order of their bits. -/
def kinds (mask : StatusMask) : List StatusKind := StatusKind.all.filter mask.contains

/-- The mask as text: the names of its statuses, or its bits if it has none of them. -/
def text (mask : StatusMask) : String :=
  if mask = all then "ALL"
  else
    match mask.kinds with
    | [] => "0x" ++ Text.hexLower mask.bits.toNat 4
    | kinds => "|".intercalate (kinds.map StatusKind.name)

end StatusMask

end DdsBridge
