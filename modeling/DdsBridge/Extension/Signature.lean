import DdsBridge.Host.Interpreter.Operations

/-!
# Parameters of native functions

A native function has parameters with names and kinds. A call gives arguments by position and by
name; each must find its parameter, and each parameter that has no default must find its argument.
Only then are the arguments converted, in the order of the parameters.

* **`Parameter`**, **`Signature`** — what a function takes.
* **`Argument`** — a converted argument.
* **`Signature.accept`** — the arguments of a call, matched and converted.
-/

namespace DdsBridge.Extension

open Interpreter

/-- What a parameter takes. -/
inductive ParameterKind where
  /-- Any object. -/
  | object
  /-- A whole number of 32 bits without a sign. -/
  | word
  /-- A whole number of 64 bits with a sign. -/
  | signed
  /-- A whole number of 64 bits without a sign. -/
  | unsigned
  | text
  | truth
  | float
  deriving DecidableEq, Repr

/-- A parameter. One that is `optional` takes the empty object for no argument, and is not needed
in a call; one with a `default` is not needed either. -/
structure Parameter where
  name : String
  kind : ParameterKind
  isOptional : Bool := false
  hasDefault : Bool := false

/-- Whether a call must give an argument for a parameter. -/
def Parameter.isRequired (p : Parameter) : Bool := !(p.isOptional || p.hasDefault)

/-- What a function takes. A function that `collects` takes any number of arguments by position,
and its parameters only by name. -/
structure Signature where
  name : String
  parameters : List Parameter
  collects : Bool := false

/-- A converted argument. -/
inductive Argument where
  | object (r : Ref)
  | number (n : Int)
  | text (s : String)
  | truth (b : Bool)
  | float (x : Number.Binary64)
  /-- None was given. -/
  | absent

/-- The arguments of a call: those for the parameters, and those that were collected. -/
structure Accepted where
  arguments : List Argument
  collected : List Ref

variable {C : Type} [HostCode C]

namespace Signature

/-! ## Matching -/

/-- How many arguments a call must give by position or by name. -/
def requiredCount (s : Signature) : Nat := (s.parameters.filter Parameter.isRequired).length

/-- The failure of too many arguments by position. -/
def tooMany {α : Type} (s : Signature) (given : Nat) : ObjectAction C α :=
  let total := s.parameters.length
  let range :=
    if s.requiredCount = total then toString total else s!"from {s.requiredCount} to {total}"
  let verb := if given = 1 then "was" else "were"
  raiseType s!"{s.name}() takes {range} positional arguments but {given} {verb} given"

/-- Names in quotes, the last one after an "and". -/
def listNames : List String → String
  | [] => ""
  | [name] => s!"'{name}'"
  | [a, b] => s!"'{a}' and '{b}'"
  | names =>
    let quoted := names.map fun name => s!"'{name}'"
    ", ".intercalate quoted.dropLast ++ ", and " ++ (quoted.getLast?.getD "")

/-- The failure of missing arguments. -/
def missing {α : Type} (s : Signature) (names : List String) : ObjectAction C α :=
  let noun := if names.length = 1 then "argument" else "arguments"
  raiseType
    s!"{s.name}() missing {names.length} required positional {noun}: {listNames names}"

/-- Puts the arguments given by name in their places. -/
def placeNamed (s : Signature) : List (String × Ref) → List (Option Ref) →
    ObjectAction C (List (Option Ref))
  | [], places => return places
  | (name, arg) :: rest, places =>
    match s.parameters.findIdx? fun p => p.name == name with
    | none => raiseType s!"{s.name}() got an unexpected keyword argument '{name}'"
    | some index =>
      if (places[index]?.join).isSome then
        raiseType s!"{s.name}() got multiple values for argument '{name}'"
      else placeNamed s rest (places.set index (some arg))

/-- The arguments of a call, each in the place of its parameter. -/
def place (s : Signature) (args : List Ref) (named : List (String × Ref)) :
    ObjectAction C (List (Option Ref)) := do
  let byPosition := if s.collects then [] else args
  if s.parameters.length < byPosition.length then s.tooMany byPosition.length
  let empty := List.replicate (s.parameters.length - byPosition.length) none
  let places ← s.placeNamed named (byPosition.map some ++ empty)
  let absent := (s.parameters.zip places).filter fun (p, arg) => p.isRequired && arg.isNone
  if !absent.isEmpty then s.missing (absent.map fun entry => entry.1.name)
  return places

/-- The failure of arguments to a function without parameters. -/
def refuseAll (s : Signature) (home : String) (args : List Ref) (named : List (String × Ref)) :
    ObjectAction C Unit := do
  if !named.isEmpty then raiseType s!"{home}.{s.name}() takes no keyword arguments"
  if !args.isEmpty then raiseType s!"{home}.{s.name}() takes no arguments ({args.length} given)"

/-! ## Converting -/

section Nested

variable (inner : Host (Body C))

/-- The failure of an object of the wrong class. -/
def wrongClass {α : Type} (obj : Ref) (wanted : String) : ObjectAction C α := do
  let w ← Action.world
  let name := match classInfo? w (typeOf w obj) with
    | some info => info.qualified
    | none => "object"
  raiseType s!"'{name}' object cannot be converted to '{wanted}'"

/-- A whole number of 32 bits without a sign, which must first fit in 64 bits with a sign. -/
def wordOf (obj : Ref) : ObjectAction C Int := do
  let n ← asSigned64 (← indexOf inner obj)
  if n < 0 then raiseNew .overflowError "number too small to fit in target type"
  else if UInt32.size ≤ n then raiseNew .overflowError "number too large to fit in target type"
  else return n

/-- An argument of a kind. -/
def convert (kind : ParameterKind) (obj : Ref) : ObjectAction C Argument := do
  match kind, core? (← Action.world) obj with
  | .object, _ => return .object obj
  | .word, _ => return .number (← wordOf inner obj)
  | .signed, _ => return .number (← asSigned64 (← indexOf inner obj))
  | .unsigned, _ => return .number (← asUnsigned64 (← indexOf inner obj))
  | .float, _ => return .float (← asFloat inner obj)
  | .text, some (.str s) => return .text (← encodable s)
  | .text, _ => wrongClass obj "PyString"
  | .truth, some (.bool b) => return .truth b
  | .truth, _ => wrongClass obj "PyBool"

/-- Whether a failure is a type error and not one of a class derived from it. -/
def isPlainTypeError (w : World (Body C)) (error : HostError) : Bool :=
  match error.payload with
  | some (.object exception) => typeOf w exception = Builtin.typeError.ref
  | _ => false

/-- The failure to convert an argument names the parameter if it is a plain type error. -/
def nameParameter {α : Type} (p : Parameter) (error : HostError) : ObjectAction C α := do
  if isPlainTypeError (← Action.world) error then
    raiseType s!"argument '{p.name}': {error.message}"
  else Action.raise error

/-- The argument for a parameter. -/
def convertFor (p : Parameter) (arg : Option Ref) : ObjectAction C Argument := do
  match arg with
  | none => return .absent
  | some obj =>
    if p.isOptional && obj = Builtin.none.ref then return .absent
    match ← (convert inner p.kind obj).attempt (δ := HostError) with
    | .ok argument => return argument
    | .error error => nameParameter p error

/-- The arguments of a call, matched and converted; `home` is the function's module. -/
def accept (s : Signature) (home : String) (args : List Ref) (named : List (String × Ref)) :
    ObjectAction C Accepted := do
  if s.parameters.isEmpty then s.refuseAll home args named
  let places ← s.place args named
  let arguments ← (s.parameters.zip places).mapM fun (p, arg) => convertFor inner p arg
  return ⟨arguments, if s.collects then args else []⟩

end Nested

end Signature

end DdsBridge.Extension
