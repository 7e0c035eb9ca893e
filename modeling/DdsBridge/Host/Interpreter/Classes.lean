import DdsBridge.Host.Interpreter.Failure
import DdsBridge.Host.Interpreter.Linearization

/-!
# New classes

A class is made from its bases. The bases must be classes that can be derived from, whose layouts
and orders of ancestors fit together; what does not fit is told in this order.

* **`createClass`** — a class whose bases are known to fit.
* **`deriveClass`** — a class, after all these tests.
-/

namespace DdsBridge.Interpreter

variable {C : Type} [HostCode C]

/-! ## The tests -/

/-- The class that a class with the given bases is an instance of; bases of unrelated kinds have
none. -/
def metaclass (w : World (Body C)) : List Ref → Ref → Option Ref
  | [], winner => some winner
  | base :: rest, winner =>
    let kind := typeOf w base
    if isSubclass w winner kind then metaclass w rest winner
    else if isSubclass w kind winner then metaclass w rest kind
    else none

/-- The layout of a class with the given bases. -/
def commonLayout : List Ref → Ref → ObjectAction C Ref
  | [], winner => return winner
  | base :: rest, winner => do
    let w ← Action.world
    match classInfo? w base with
    | none => raiseType "bases must be types"
    | some info =>
      if (Builtin.at? base).any Builtin.isFinal then
        raiseType s!"type '{fullClassName w base}' is not an acceptable base type"
      else if isSubclass w winner info.layout then commonLayout rest winner
      else if isSubclass w info.layout winner then commonLayout rest info.layout
      else raiseType "multiple bases have instance lay-out conflict"

/-- The first item that occurs again later. -/
def firstRepeated : List Ref → Option Ref
  | [] => none
  | r :: rest => if rest.contains r then some r else firstRepeated rest

/-- The ancestors of a class with the given bases. -/
def orderAncestors (bases : List Ref) : ObjectAction C (List Ref) := do
  let w ← Action.world
  match bases with
  | [base] => return lineage w base
  | _ =>
    if let some base := firstRepeated bases then
      raiseType s!"duplicate base class {className w base}"
    match Linearization.merge (bases.map (lineage w) ++ [bases]) with
    | .ok ancestors => return ancestors
    | .error heads =>
      let names := ", ".intercalate (heads.map (className w))
      raiseType s!"Cannot create a consistent method resolution\norder (MRO) for bases {names}"

/-! ## Classes -/

/-- The layout of a class among classes whose layouts are known to fit. -/
def deepestLayout (w : World (Body C)) (bases : List Ref) : Ref :=
  bases.foldl (fun winner base =>
    match classInfo? w base with
    | some info => if isSubclass w info.layout winner then info.layout else winner
    | none => winner) Builtin.object.ref

/-- A new class of a module. -/
def createClass (kind : Builtin) (home name qualified : String) (bases ancestors : List Ref) :
    ObjectAction C Ref := do
  let layout := deepestLayout (← Action.world) bases
  let cls ← Action.alloc
    ⟨kind.ref, .cls { name, qualified, bases, ancestors, layout }⟩
  let home ← newText home
  Action.change (World.storeAttr · cls "__module__" home)
  return cls

/-- A new class of a module, whose bases must fit together. -/
def deriveClass (home name : String) (bases : List Ref) : ObjectAction C Ref := do
  let w ← Action.world
  match metaclass w bases Builtin.type.ref with
  | none =>
    raiseType ("metaclass conflict: the metaclass of a derived class must be a (non-strict) " ++
      "subclass of the metaclasses of all its bases")
  | some kind =>
    if derivesFrom w kind .enumType then
      raiseAttribute "'dict' object has no attribute '_member_names'"
    let _ ← commonLayout bases Builtin.object.ref
    if name.contains '\x00' then raiseNew .valueError "type name must not contain null characters"
    let ancestors ← orderAncestors bases
    createClass .type home name name bases ancestors

end DdsBridge.Interpreter
