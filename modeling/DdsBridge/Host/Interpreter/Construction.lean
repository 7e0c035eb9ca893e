import DdsBridge.Host.Interpreter.Attributes
import DdsBridge.Host.Interpreter.Numbers
import DdsBridge.Number.Numeral

/-!
# Making instances

Calling a class makes an instance of it. What the instance is made of is decided by the layout of
the class: a whole number, a text, a list and so on are made from the argument, an exception keeps
its arguments, and everything else takes none unless the class has a method that initializes its
instances. Calling an enumeration class finds the member with a value.

* **`wholeOf`**, **`floatOf`**, **`truthOf`**, **`iterate`** — what built-in classes make of an
  argument.
* **`instantiate`** — a call of a class.
-/

namespace DdsBridge.Interpreter

variable {C : Type} [HostCode C]

section Nested

variable (inner : Host (Body C))

/-! ## Values from other values -/

/-- The whole number of a numeral. -/
def parseWhole (s : Text.Points) : ObjectAction C Int := do
  match Number.Numeral.wholeDigits? s.lossy.toList with
  | none =>
    let shown := (Text.literal s).toList.take 200
    raiseNew .valueError s!"invalid literal for int() with base 10: {String.ofList shown}"
  | some (negative, digits) =>
    if maxDigits < digits.length then
      raiseNew .valueError
        (s!"Exceeds the limit ({maxDigits} digits) for integer string conversion: " ++
          s!"value has {digits.length} digits; use sys.set_int_max_str_digits() to increase " ++
          "the limit")
    let n : Int := Number.Numeral.digitsValue digits
    return if negative then -n else n

/-- A floating-point number without its fraction. -/
def truncate (x : Number.Binary64) : ObjectAction C Int :=
  match x.shape with
  | .nan => raiseNew .valueError "cannot convert float NaN to integer"
  | .infinite _ => raiseNew .overflowError "cannot convert float infinity to integer"
  | .finite negative _ _ =>
    return if negative then -(x.wholePart : Int) else x.wholePart

/-- The whole number that an object is turned into. -/
def wholeOf (obj : Ref) : ObjectAction C Int := do
  let w ← Action.world
  match core? w obj, intValue? w obj with
  | some (.float x), _ => truncate x
  | some (.str s), _ => parseWhole s
  | _, some n => return n
  | _, none =>
    match lookupInClass w (typeOf w obj) "__index__" with
    | some method => indexByMethod inner method obj
    | none =>
      raiseType ("int() argument must be a string, a bytes-like object or a real number, " ++
        s!"not '{fullTypeName w obj}'")

/-- The floating-point number that an object is turned into. -/
def floatOf (obj : Ref) : ObjectAction C Number.Binary64 := do
  let w ← Action.world
  match core? w obj with
  | some (.str s) =>
    match Number.Numeral.decimal? s.lossy.toList with
    | some x => return x
    | none => raiseNew .valueError s!"could not convert string to float: {Text.literal s}"
  | _ =>
    let name := fullTypeName w obj
    floatOr inner
      (raiseType s!"float() argument must be a string or a real number, not '{name}'") obj

/-- Whether an object counts as true. -/
def truthOf (w : World (Body C)) (obj : Ref) : Bool :=
  match core? w obj with
  | some (.float x) => !(x.isFinite && x.units = 0)
  | some (.str s) => !s.codes.isEmpty
  | some (.list items) => !items.isEmpty
  | some (.tuple items) => !items.isEmpty
  | some (.dict entries) => !entries.isEmpty
  | _ =>
    match intValue? w obj with
    | some n => n ≠ 0
    | none => obj ≠ Builtin.none.ref

/-- The objects that an iteration over an object gives. -/
def iterate (obj : Ref) : ObjectAction C (List Ref) := do
  let w ← Action.world
  match core? w obj with
  | some (.list items) => return items
  | some (.tuple items) => return items
  | some (.dict entries) => return entries.map Prod.fst
  | some (.str s) => s.codes.mapM fun code => Action.alloc ⟨Builtin.str.ref, .str ⟨[code]⟩⟩
  | _ => raiseType s!"'{fullTypeName w obj}' object is not iterable"

/-! ## Members of enumerations -/

/-- The members of an enumeration class with their values. -/
def members (w : World (Body C)) (cls : Ref) : List (Ref × Int) :=
  match w.heap.get? cls with
  | none => []
  | some node =>
    node.attrs.values.filterMap fun r =>
      match core? w r with
      | some (.enumerator _ value) => if typeOf w r = cls then some (r, value) else none
      | _ => none

/-- Whether an object equals a whole number. -/
def equalsInt (w : World (Body C)) (obj : Ref) (n : Int) : Bool :=
  match core? w obj with
  | some (.float x) => x.isWhole && (if x.isNegative then -(x.wholePart : Int) else x.wholePart) = n
  | _ => intValue? w obj = some n

/-- The member of an enumeration class that an argument names. -/
def callEnum (cls : Ref) (info : ClassInfo) (args : List Ref) : ObjectAction C Ref := do
  let w ← Action.world
  match args with
  | [] => raiseType "EnumType.__call__() missing 1 required positional argument: 'value'"
  | [arg] =>
    match (members w cls).find? fun member => equalsInt w arg member.2 with
    | some member => return member.1
    | none =>
      let shown ← encodable (← literalOf inner arg)
      raiseNew .valueError s!"{shown} is not a valid {info.qualified}"
  | [label, _] =>
    let shown ← encodable (← literalOf inner label)
    raiseType s!"<enum {shown}> cannot extend {classText w cls info}"
  | _ =>
    raiseType ("EnumType.__call__() takes from 2 to 3 positional arguments but " ++
      s!"{args.length + 1} were given")

/-! ## Instances -/

/-- The failure of a class of values that gets more than one argument. -/
def atMostOne {α : Type} (name : String) (args : List Ref) : ObjectAction C α :=
  raiseType s!"{name} expected at most 1 argument, got {args.length}"

/-- How the failure of an argument of the wrong class names the class: the empty object by its own
name. -/
def argumentClass (w : World (Body C)) (arg : Ref) : String :=
  if arg = Builtin.none.ref then Builtin.none.name else fullTypeName w arg

/-- The failure of a text that is to be decoded: nothing here can be decoded. -/
def refuseDecoding {α : Type} (source : Ref) (codec : List Ref) : ObjectAction C α := do
  let w ← Action.world
  let isText (r : Ref) : Bool := match core? w r with
    | some (.str _) => true
    | _ => false
  if 2 < codec.length then
    raiseType s!"str() takes at most 3 arguments ({codec.length + 1} given)"
  match (["encoding", "errors"].zip codec).find? fun entry => !isText entry.2 with
  | some (role, arg) => raiseType s!"str() argument '{role}' must be str, not {argumentClass w arg}"
  | none =>
    if isText source then raiseType "decoding str is not supported"
    else raiseType s!"decoding to str: need a bytes-like object, {fullTypeName w source} found"

/-- What a new instance of a class is made of. -/
def newCore (cls : Ref) (info : ClassInfo) (args : List Ref) : ObjectAction C (Core C) := do
  match Builtin.at? info.layout, args with
  | some .int, [] => return .int 0
  | some .int, [arg] => return .int (← wholeOf inner arg)
  | some .int, _ => raiseType "int() can't convert non-string with explicit base"
  | some .float, [] => return .float (.ofInt 0)
  | some .float, [arg] => return .float (← floatOf inner arg)
  | some .float, _ => atMostOne "float" args
  | some .str, [] => return .str (.ofString "")
  | some .str, [arg] => return .str (← textOf inner arg)
  | some .str, source :: codec => refuseDecoding source codec
  | some .list, [] => return .list []
  | some .list, [arg] => return .list (← iterate arg)
  | some .list, _ => atMostOne "list" args
  | some .tuple, [] => return .tuple []
  | some .tuple, [arg] => return .tuple (← iterate arg)
  | some .tuple, _ => atMostOne "tuple" args
  | some .dict, _ => return .dict []
  | _, _ =>
    let w ← Action.world
    if derivesFrom w cls .baseException then return .exception args
    if !args.isEmpty && (lookupInClass w cls "__init__").isNone then
      raiseType s!"{info.name}() takes no arguments"
    return .plain

/-- Runs the method of a class that initializes its instances. -/
def initInstance (obj : Ref) (args : List Ref) : ObjectAction C Unit := do
  let w ← Action.world
  match lookupInClass w (typeOf w obj) "__init__", args with
  | some method, _ =>
    let result ← callSpecial inner method obj args
    if result ≠ Builtin.none.ref then
      let w ← Action.world
      raiseType s!"__init__() should return None, not '{fullTypeName w result}'"
  | none, [arg] =>
    if isA w obj .importError then Action.change (World.storeAttr · obj "msg" arg)
  | none, _ => pure ()

/-- A new instance of a class. -/
def newInstance (cls : Ref) (info : ClassInfo) (args : List Ref) : ObjectAction C Ref := do
  let core ← newCore inner cls info args
  let obj ← Action.alloc ⟨cls, core⟩
  Action.pinning [obj] (initInstance inner obj args)
  return obj

/-- The built-in classes whose instances are given back as they are when they are turned into an
instance of their own class. -/
def keptClasses : List Builtin := [.int, .float, .str, .tuple]

/-- A call of a built-in class that does not make an ordinary instance. -/
def callBuiltin (b : Builtin) (args : List Ref) : ObjectAction C (Option Ref) := do
  let w ← Action.world
  match b, args with
  | .type, [arg] => return some (typeOf w arg)
  | .type, _ => raiseType "type() takes 1 or 3 arguments"
  | .bool, [] => return some Builtin.false.ref
  | .bool, [arg] => return some (if truthOf w arg then Builtin.true.ref else Builtin.false.ref)
  | .bool, _ => atMostOne "bool" args
  | .noneType, [] => return some Builtin.none.ref
  | .noneType, _ => raiseType "NoneType takes no arguments"
  | .handle, _ => raiseType "No constructor defined for NativeHandle"
  | .function, _ => raiseType "function() missing required argument 'code' (pos 1)"
  | .module, _ => raiseType "module() missing required argument 'name' (pos 1)"
  | .nativeFunction, _ => raiseType s!"cannot create '{b.name}' instances"
  | .method, _ => raiseType s!"method expected 2 arguments, got {args.length}"
  | _, [arg] => return if keptClasses.contains b && typeOf w arg = b.ref then some arg else none
  | _, _ => return none

/-- A call of a class. -/
def instantiate (cls : Ref) (info : ClassInfo) (args : List Ref) : ObjectAction C Ref := do
  if isEnumClass (← Action.world) cls then callEnum inner cls info args
  else
    match Builtin.at? cls with
    | none => newInstance inner cls info args
    | some b =>
      match ← callBuiltin b args with
      | some found => return found
      | none => newInstance inner cls info args

end Nested

end DdsBridge.Interpreter
