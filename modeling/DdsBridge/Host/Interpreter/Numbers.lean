import DdsBridge.Host.Interpreter.Texts

/-!
# Objects as numbers

Whole numbers are of any size; where one of a fixed width is wanted, a number that does not fit is
an overflow. An object that is no number can stand for one if its class has a method for that.

* **`indexOf`** — the whole number that an object stands for, by its class's method if need be.
* **`asSigned64`**, **`asUnsigned64`** — a whole number in 64 bits.
* **`asFloat`** — the floating-point number that an object stands for.
-/

namespace DdsBridge.Interpreter

variable {C : Type} [HostCode C]

/-- A whole number in 64 bits with a sign. -/
def asSigned64 (n : Int) : ObjectAction C Int :=
  if Int64.minValue.toInt ≤ n ∧ n ≤ Int64.maxValue.toInt then return n
  else raiseNew .overflowError "Python int too large to convert to C long"

/-- A whole number in 64 bits without a sign. -/
def asUnsigned64 (n : Int) : ObjectAction C Int :=
  if n < 0 then raiseNew .overflowError "can't convert negative int to unsigned"
  else if n < UInt64.size then return n
  else raiseNew .overflowError "int too big to convert"

/-- The failure of a use as a whole number; `name` is the name of the object's class. -/
def notAnInteger {α : Type} (name : String) : ObjectAction C α :=
  raiseType s!"'{name}' object cannot be interpreted as an integer"

/-- The whole number of an object that is one. -/
def exactInt (obj : Ref) : ObjectAction C Int := do
  let w ← Action.world
  match intValue? w obj with
  | some n => return n
  | none => notAnInteger (typeName w obj)

/-- A whole number, rounded. -/
def floatOfInt (n : Int) : ObjectAction C Number.Binary64 := do
  let x := Number.Binary64.ofInt n
  if x.isFinite then return x
  else raiseNew .overflowError "int too large to convert to float"

section Nested

variable (inner : Host (Body C))

/-- The whole number that the method of an object's class gives. -/
def indexByMethod (method obj : Ref) : ObjectAction C Int := do
  let result ← callSpecial inner method obj []
  let w ← Action.world
  match intValue? w result with
  | some n => return n
  | none => raiseType s!"__index__ returned non-int (type {fullTypeName w result})"

/-- The whole number that an object stands for. -/
def indexOf (obj : Ref) : ObjectAction C Int := do
  let w ← Action.world
  match intValue? w obj, lookupInClass w (typeOf w obj) "__index__" with
  | some n, _ => return n
  | none, some method => indexByMethod inner method obj
  | none, none => notAnInteger (fullTypeName w obj)

/-- The floating-point number that the method of an object's class gives. -/
def floatByMethod (method obj : Ref) : ObjectAction C Number.Binary64 := do
  let result ← callSpecial inner method obj []
  let w ← Action.world
  match core? w result with
  | some (.float x) => return x
  | _ =>
    raiseType
      s!"{fullTypeName w obj}.__float__ returned non-float (type {fullTypeName w result})"

/-- The floating-point number that an object stands for; `refuse` is the failure of one that
stands for none. -/
def floatOr (refuse : ObjectAction C Number.Binary64) (obj : Ref) :
    ObjectAction C Number.Binary64 := do
  let w ← Action.world
  match core? w obj with
  | some (.float x) => return x
  | _ =>
    match lookupInClass w (typeOf w obj) "__float__", intValue? w obj,
        lookupInClass w (typeOf w obj) "__index__" with
    | some method, _, _ => floatByMethod inner method obj
    | none, some n, _ => floatOfInt n
    | none, none, some method => do floatOfInt (← indexByMethod inner method obj)
    | none, none, none => refuse

/-- The floating-point number that an object stands for. -/
def asFloat (obj : Ref) : ObjectAction C Number.Binary64 := do
  let name := fullTypeName (← Action.world) obj
  floatOr inner (raiseType s!"must be real number, not {name}") obj

end Nested

end DdsBridge.Interpreter
