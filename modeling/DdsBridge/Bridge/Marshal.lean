import DdsBridge.Bridge.Classes

/-!
# Values as host objects

The conversion of a value to a host object and back. Numbers must fit the type wanted exactly:
the host first narrows to 64 bits, and then the type's own bounds are tested. Texts are taken from
any object, as the host writes it. A structure is an instance of exactly its host class, with one
attribute for each field that the host sees; an enumerator is an instance of the enumeration's
class made from its value.

* **`toHost`** — a value as a new object.
* **`fromHost`** — the value of an object.
* **`structToHost`** — a structure, into an existing instance if one is given: every field is
  converted before the first attribute is assigned.
-/

namespace DdsBridge.Marshal

variable {B : Type} (h : Host B) (store : ClassStore)

/-! ## Numbers -/

/-- The text of a number that does not fit, for the error. -/
def numberText (obj : Ref) : BridgeAction B String := do
  match ← (h.strOf obj).attempt with
  | .ok text => return text
  | .error _ => return "<int>"

/-- The meaning of a failure to read a number. -/
def numberFailure (target : String) (obj : Ref) (error : HostError) : BridgeAction B α :=
  match error.kind with
  | .overflow => do Action.raise (.range ⟨target, ← numberText h obj⟩)
  | .type => Action.raise (.type error.message)
  | _ => Action.raise (.host error)

/-- The whole number of an object, which must belong to a kind. -/
def intFromHost (kind : IntKind) (obj : Ref) : BridgeAction B Int := do
  match ← (if kind.isSigned then h.asSigned obj else h.asUnsigned obj).attempt with
  | .error error => numberFailure h kind.name obj error
  | .ok n =>
    if kind.holds n then return n else Action.raise (.range ⟨kind.name, toString n⟩)

/-- The floating-point number of an object. -/
def floatFromHost (obj : Ref) : BridgeAction B Number.Binary64 := do
  match ← (h.asFloat obj).attempt with
  | .error error => numberFailure h "f64" obj error
  | .ok x => return x

/-- Whether a number lies beyond the finite numbers of 32 bits. -/
def isBeyond32 (x : Number.Binary64) : Bool :=
  x.isFinite && Number.Binary32.greatest * Number.Binary64.unitsPerOne < x.units

/-- The floating-point number of 32 bits of an object. -/
def float32FromHost (obj : Ref) : BridgeAction B Number.Binary32 := do
  let x ← floatFromHost h obj
  if isBeyond32 x then Action.raise (.range ⟨"f32", x.text⟩)
  return x.narrow

/-! ## Truth values and texts -/

/-- The truth value of one of the host's two objects for them. -/
def boolFromHost (obj : Ref) : BridgeAction B Bool := do
  if obj = h.ofBool true then return true
  else if obj = h.ofBool false then return false
  else Action.raise (.type s!"expected True or False, got {← h.describe obj}")

/-- The bytes of the text of an object. -/
def codedFromHost (codec : Codec) (obj : Ref) : BridgeAction B (List UInt8) := do
  match ← (h.strOf obj).attempt with
  | .error error =>
    if error.kind = .encoding then
      Action.raise (.encoding ⟨codec.name, "encode", error.message⟩)
    else Action.raise (.host error)
  | .ok text => Action.ofExcept ((codec.encode text).mapError Error.encoding)

/-- The text of an object. -/
def textFromHost (obj : Ref) : BridgeAction B String := do
  let bytes ← codedFromHost h .utf8 obj
  Action.ofExcept ((Codec.utf8.decode bytes).mapError Error.encoding)

/-! ## Enumerations and structures -/

/-- The index of the enumerator with a value. -/
def variantIndex? (e : EnumDef) (value : Int) : Option Nat :=
  e.variants.findIdx? fun variant => (variant.2 : Int) = value

/-- The enumerator that the number of an object names. -/
def variantFromHost (e : EnumDef) (obj : Ref) : BridgeAction B Nat := do
  let n ← intFromHost h .u32 obj
  match variantIndex? e n with
  | some index => return index
  | none => Action.raise (.range ⟨e.name, toString n⟩)

/-- An enumerator as an object. -/
def variantToHost (e : EnumDef) (index : Nat) : BridgeAction B Ref := do
  let value := (e.variants[index]?.map Prod.snd).getD 0
  let cls ← classOf h store e.name e.host
  h.call cls [← h.newInt value]

/-- An object must be an instance of exactly the class of a structure. -/
def checkInstance (head : StructHead) (obj : Ref) : BridgeAction B Unit := do
  let cls ← classOf h store head.name head.host
  if h.typeOf (← Action.world) obj ≠ cls then
    Action.raise (.type s!"expected a {head.host.text} instance, got {← h.describe obj}")

/-- Assigns attributes one after the other. -/
def assignAll (target : Ref) (fields : List (String × Ref)) : BridgeAction B Unit :=
  Action.pinning (target :: fields.map Prod.snd) do
    for (name, value) in fields do
      h.setAttr target name value

/-- A new instance of the class of a structure. -/
def newInstance (head : StructHead) : BridgeAction B Ref := do
  h.call (← classOf h store head.name head.host) []

/-- Puts converted fields on an existing instance or on a new one. -/
def fillInstance (head : StructHead) (existing : Option Ref) (fields : List (String × Ref)) :
    BridgeAction B Ref := do
  let target ← Action.pinning (fields.map Prod.snd) do
    match existing with
    | some obj =>
      checkInstance h store head obj
      return obj
    | none => newInstance h store head
  assignAll h target fields
  return target

/-- Converts items one after the other; those already converted stay alive meanwhile. -/
def convertItems (item : Value → BridgeAction B Ref) : List Value → BridgeAction B (List Ref)
  | [] => return []
  | v :: rest => do
    let obj ← item v
    let more ← Action.pinning [obj] (convertItems item rest)
    return obj :: more

/-- Reads items one after the other; they stay alive meanwhile. -/
def readItems (item : Ref → BridgeAction B Value) (objs : List Ref) :
    BridgeAction B (List Value) :=
  Action.pinning objs (objs.mapM item)

/-- The failure to convert a value that does not belong to the type, which no operation asks
for. -/
def misfit : BridgeAction B α := Action.raise (.type "value does not belong to its type")

mutual

/-- A value as a new object. -/
def toHost : IdlType → Value → BridgeAction B Ref
  | .bool, .bool b => return h.ofBool b
  | .int _, .int n => h.newInt n
  | .float64, .float64 x => h.newFloat x
  | .float32, .float32 x => h.newFloat x.widen
  | .string, .text s => h.newStr s
  | .coded codec, .bytes bytes => do
    let text ← Action.ofExcept ((codec.decode bytes).mapError Error.encoding)
    h.newStr text
  | .enumeration e, .variant index => variantToHost h store e index
  | .struct head fields, .record values => do
    fillInstance h store head none (← fieldsToHost fields values)
  | .seq item, .seq items => do h.newList (← convertItems (toHost item) items)
  | _, _ => misfit

/-- The fields that the host sees, converted, with their attributes. -/
def fieldsToHost : Fields → List Value → BridgeAction B (List (String × Ref))
  | .nil, [] => return []
  | .cons field type rest, v :: values =>
    match field.hostName with
    | none => fieldsToHost rest values
    | some name => do
      let obj ← toHost type v
      let more ← Action.pinning [obj] (fieldsToHost rest values)
      return (name, obj) :: more
  | _, _ => misfit

end

/-- A structure as an object, in place if an existing instance is given. -/
def structToHost (s : StructType) (v : Value) (existing : Option Ref) : BridgeAction B Ref :=
  match v with
  | .record values => do
    fillInstance h store s.head existing (← fieldsToHost h store s.fields values)
  | _ => misfit

mutual

/-- The value of an object. -/
def fromHost : IdlType → Ref → BridgeAction B Value
  | .bool, obj => return .bool (← boolFromHost h obj)
  | .int kind, obj => return .int (← intFromHost h kind obj)
  | .float64, obj => return .float64 (← floatFromHost h obj)
  | .float32, obj => return .float32 (← float32FromHost h obj)
  | .string, obj => return .text (← textFromHost h obj)
  | .coded codec, obj => return .bytes (← codedFromHost h codec obj)
  | .enumeration e, obj => return .variant (← variantFromHost h e obj)
  | .struct head fields, obj => do
    checkInstance h store head obj
    return .record (← fieldsFromHost fields obj)
  | .seq item, obj => do
    match ← (h.listItems obj).attempt with
    | .error error =>
      if error.kind = .type then Action.raise (.type error.message)
      else Action.raise (.host error)
    | .ok objs => return .seq (← readItems (fromHost item) objs)

/-- The values of the fields of an instance; a field that the host does not see has its default. -/
def fieldsFromHost : Fields → Ref → BridgeAction B (List Value)
  | .nil, _ => return []
  | .cons field type rest, obj => do
    let v ← match field.hostName with
      | none => pure type.default
      | some name => do
        let value ← (h.getAttr obj name : HostAction B Ref)
        Action.pinning [value] (fromHost type value)
    return v :: (← fieldsFromHost rest obj)

end

end DdsBridge.Marshal
