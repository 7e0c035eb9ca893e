import DdsBridge.Host.Interpreter.Failure
import DdsBridge.Number.Literal

/-!
# Objects as text

An object has a plain text and a literal. A class can have a method for either; otherwise the kind
of the object decides, and where only the literal is given the text is the same. Objects that
contain themselves are cut off where they occur again.

* **`Style`**, **`render`** — the two texts of an object.
* **`textOf`**, **`literalOf`** — the same, as they are asked for from outside.
* **`callSpecial`** — calls a method of an object's class on the object.
-/

namespace DdsBridge.Interpreter

variable {C : Type} [HostCode C]

/-- The greatest number of digits that a whole number may have in a text. -/
def maxDigits : Nat := 4300

/-- The digits of a whole number. -/
def digitsOf (n : Int) : ObjectAction C Text.Points := do
  let digits := toString n
  if maxDigits < (toString n.natAbs).length then
    raiseNew .valueError
      (s!"Exceeds the limit ({maxDigits} digits) for integer string conversion; " ++
        "use sys.set_int_max_str_digits() to increase the limit")
  return .ofString digits

/-- A class as text. -/
def classText (w : World (Body C)) (cls : Ref) (info : ClassInfo) : String :=
  if isEnumClass w cls then s!"<enum '{info.name}'>"
  else if homeOf w cls = "builtins" then s!"<class '{info.name}'>"
  else s!"<class '{qualifiedName w cls}'>"

/-- A module as text. -/
def moduleText (name : String) : String :=
  if name = "builtins" then s!"<module '{name}' (built-in)>" else s!"<module '{name}'>"

/-- Items between brackets. -/
def bracketed (opening closing : String) (items : List Text.Points) : Text.Points :=
  .ofString opening ++ Text.Points.intercalate ", " items ++ .ofString closing

/-- Items between round brackets; a single item is followed by a comma. -/
def tupleText (items : List Text.Points) : Text.Points :=
  bracketed "(" (if items.length = 1 then ",)" else ")") items

/-- How a text presents an object. -/
inductive Style where
  /-- As plain text. -/
  | text
  /-- As a literal. -/
  | literal
  deriving DecidableEq, Repr

/-- The method of a class for texts in a style. -/
def Style.method : Style → String
  | .text => "__str__"
  | .literal => "__repr__"

section Nested

variable (inner : Host (Body C))

/-- Calls a method of an object's class on the object. -/
def callSpecial (method obj : Ref) (args : List Ref) : ObjectAction C Ref := do
  if (boundCode? (← Action.world) method).isSome then inner.call method (obj :: args)
  else inner.call method args

/-- The text that a method gives, which must be a text. -/
def renderByMethod (style : Style) (method obj : Ref) : ObjectAction C Text.Points := do
  let result ← callSpecial inner method obj []
  let w ← Action.world
  match core? w result with
  | some (.str s) => return s
  | _ => raiseType s!"{style.method} returned non-string (type {fullTypeName w result})"

/-- Which built-in class decides how an exception is shown as text. -/
def textRule (w : World (Body C)) (cls : Ref) : Builtin :=
  let rules : List Builtin := [.keyError, .osError, .unicodeEncodeError, .baseException]
  ((lineage w cls).findSome? fun c => rules.find? fun b => b.ref = c).getD .baseException

/-- The text of a failure to encode, from its arguments. -/
def unicodeText (w : World (Body C)) (args : List Ref) : Option Text.Points :=
  match args.map (core? w) with
  | [_, some (.str s), some (.int start), some (.int stop), _] =>
    some (.ofString (surrogateText s start.toNat stop.toNat))
  | _ => none

/-- An exception, whose arguments are shown by `show'`. -/
def renderException (show' : Style → Ref → ObjectAction C Text.Points) (style : Style)
    (cls : Ref) (args : List Ref) : ObjectAction C Text.Points := do
  let w ← Action.world
  match style, textRule w cls, args with
  | .literal, _, [arg] =>
    return .ofString (className w cls ++ "(") ++ (← show' .literal arg) ++ .ofString ")"
  | .literal, _, _ =>
    return .ofString (className w cls) ++ tupleText (← args.mapM (show' .literal))
  | .text, _, [] => return .ofString ""
  | .text, .keyError, [arg] => show' .literal arg
  | .text, _, [arg] => show' .text arg
  | .text, .osError, [number, reason] =>
    return .ofString "[Errno " ++ (← show' .text number) ++ .ofString "] " ++
      (← show' .text reason)
  | .text, .unicodeEncodeError, _ =>
    match unicodeText w args with
    | some text => return text
    | none => return tupleText (← args.mapM (show' .literal))
  | .text, _, _ => return tupleText (← args.mapM (show' .literal))

/-- An object whose class has no method for its text. -/
def renderByKind (show' : Style → Ref → ObjectAction C Text.Points) (style : Style) (obj : Ref)
    (again : Bool) : ObjectAction C Text.Points := do
  let w ← Action.world
  match core? w obj with
  | some (.bool b) => return .ofString (if b then "True" else "False")
  | some (.int n) => digitsOf n
  | some (.float x) => return .ofString x.literal
  | some (.str s) => return if style = .text then s else .ofString (Text.literal s)
  | some (.list items) =>
    if again then return .ofString "[...]"
    return bracketed "[" "]" (← items.mapM (show' .literal))
  | some (.tuple items) =>
    if again then return .ofString "(...)"
    return tupleText (← items.mapM (show' .literal))
  | some (.dict entries) =>
    if again then return .ofString "\x7b...\x7d"
    let shown ← entries.mapM fun (key, value) => do
      return (← show' .literal key) ++ .ofString ": " ++ (← show' .literal value)
    return bracketed "\x7b" "\x7d" shown
  | some (.module name) => return .ofString (moduleText name)
  | some (.cls info) => return .ofString (classText w obj info)
  | some (.enumerator name value) =>
    if style = .text then digitsOf value
    else return .ofString s!"<{typeName w obj}.{name}: {value}>"
  | some (.exception args) => renderException show' style (typeOf w obj) args
  | some (.capsule capsule) => return .ofString s!"<{capsule.kind.name} {capsule.handle.text}>"
  | some (.function _) => return .ofString "<function>"
  | some (.method ..) => return .ofString "<bound method>"
  | some (.weakReference _) => return .ofString "<weakref>"
  | some .plain =>
    if obj = Builtin.none.ref then return .ofString "None"
    else return .ofString s!"<{qualifiedName w (typeOf w obj)} object>"
  | none => return .ofString "<gone>"

/-- An object inside others, as deep as `depth`; `path` are the objects around it. -/
def render : (depth : Nat) → (path : List Ref) → Style → Ref → ObjectAction C Text.Points
  | 0, _, _, _ => Action.never
  | depth + 1, path, style, obj => do
    let w ← Action.world
    let byMethod (style : Style) (otherwise : ObjectAction C Text.Points) :
        ObjectAction C Text.Points :=
      match lookupInClass w (typeOf w obj) style.method with
      | some method => renderByMethod inner style method obj
      | none => otherwise
    let byKind (style : Style) :=
      renderByKind (render depth (obj :: path)) style obj (path.contains obj)
    byMethod style do
      match style, core? w obj with
      | .literal, _ => byKind .literal
      | .text, some (.exception _) => byKind .text
      | .text, some (.enumerator ..) => byKind .text
      | .text, some (.str _) => byKind .text
      | .text, _ => byMethod .literal (byKind .literal)

/-- The text of an object. -/
def textOf (obj : Ref) : ObjectAction C Text.Points := do
  render inner ((← Action.world).heap.size + 1) [] .text obj

/-- The literal of an object. -/
def literalOf (obj : Ref) : ObjectAction C Text.Points := do
  render inner ((← Action.world).heap.size + 1) [] .literal obj

/-- The text of an object in characters. -/
def strOf (obj : Ref) : ObjectAction C String := do encodable (← textOf inner obj)

/-- Raises an object, which must be an exception. If it has no text that can be encoded, its text
is empty. -/
def raiseObject {α : Type} (exception : Ref) : ObjectAction C α := do
  if !isA (← Action.world) exception .baseException then
    raiseType "exceptions must derive from BaseException"
  match ← (strOf inner exception).attempt (δ := HostError) with
  | .ok text => raiseWith exception text
  | .error _ => raiseWith exception ""

end Nested

end DdsBridge.Interpreter
