import DdsBridge.Idl.Shown
import DdsBridge.Program.Command

/-!
# Objects as an observer of a program sees them

A program's objects as trees of plain data. A value is shown by what it is, an exception by its
class and its text, any other object by its class and its attributes, and the attributes of its
attributes, three levels down. Showing an exception asks for its text, and so can run code.

* **`showObject`** — an object.
* **`exceptionFields`** — an exception: its class, its text and its return code, if it has one.
-/

namespace DdsBridge.Program

open Interpreter

/-- A text, by its code points if surrogates occur in it. -/
def textView (s : Text.Points) : View :=
  match s.toString? with
  | some text => .text text
  | none => .fields [("chr", .list (s.codes.map fun (code : Nat) => .number code))]

/-- A whole number. -/
def intView (n : Int) : View := .fields [("int", .decimal n)]

/-- A floating-point number. -/
def floatView (x : Number.Binary64) : View := .fields [("float", .float64 x)]

/-- A class by its full name. -/
def classView (w : ProgramWorld) (cls : Ref) : View := .text (qualifiedName w cls)

/-- How many levels of attributes are shown. -/
def shownLevels : Nat := 3

/-- The attributes of an object that are shown at a level. -/
def shownAttrs (w : ProgramWorld) (level : Nat) (obj : Ref) : List (String × Ref) :=
  if level < shownLevels && takesAttrs w (typeOf w obj) then
    ((w.heap.get? obj).map fun node => node.attrs.entries).getD []
  else []

section Nested

variable (h : ProgramHost)

/-- The text of an exception, empty if it has none. -/
def exceptionText (exception : Ref) : ProgramAction Text.Points := do
  match ← (textOf h exception).attempt (δ := HostError) with
  | .ok text => return text
  | .error _ => return .ofString ""

/-- The return code that an exception carries as an attribute, unless it is the empty object. -/
def returnCodeOf (exception : Ref) : ProgramAction (Option View) := do
  match ← (h.getAttr exception "return_code").attempt (δ := HostError) with
  | .error _ => return none
  | .ok code =>
    if code = h.none then return none
    match intValue? (← Action.world) code with
    | some n => return some (.number n)
    | none => return some (textView (← textOf h code))

/-- An exception: its class, its text and its return code. -/
def exceptionParts (exception : Ref) : ProgramAction (String × Text.Points × Option View) := do
  let cls := qualifiedName (← Action.world) (typeOf (← Action.world) exception)
  return (cls, ← exceptionText h exception, ← returnCodeOf h exception)

/-- An exception as fields. -/
def exceptionFields (exception : Ref) : ProgramAction (List (String × View)) := do
  let (cls, text, code) ← exceptionParts h exception
  return [("error", .text cls), ("message", .points text)] ++
    (code.map fun code => ("code", code)).toList

/-- A key of a dictionary. -/
def keyText (w : ProgramWorld) (key : Ref) : String :=
  match core? w key with
  | some (.str s) => s.lossy
  | _ => ""

/-- An object, as deep as `depth`; `level` counts the attributes on the way. -/
def showWithin : (depth : Nat) → (level : Nat) → Ref → ProgramAction View
  | 0, _, _ => return .none
  | depth + 1, level, obj => do
    let w ← Action.world
    match core? w obj with
    | some (.bool b) => return .bool b
    | some (.int n) => return intView n
    | some (.float x) => return floatView x
    | some (.str s) => return textView s
    | some (.list items) => return .list (← items.mapM (showWithin depth level))
    | some (.tuple items) =>
      return .fields [("tuple", .list (← items.mapM (showWithin depth level)))]
    | some (.dict entries) =>
      let shown ← entries.mapM fun (key, value) => do
        return (keyText w key, ← showWithin depth level value)
      return .fields [("dict", .fields shown)]
    | some (.cls _) => return .fields [("class", classView w obj)]
    | some (.module name) => return .fields [("module", .text name)]
    | some (.enumerator name _) =>
      return .fields [("enum", classView w (typeOf w obj)), ("name", .text name)]
    | some (.capsule _) => return .fields [("handle", textView (← literalOf h obj))]
    | some (.exception _) =>
      return .fields ((← exceptionFields h obj) ++ [("exception", .bool true)])
    | some (.function _) | some (.method ..) => return .fields [("fn", .bool true)]
    | _ =>
      if obj = h.none then return .none
      let attrs ← (shownAttrs w level obj).mapM fun (name, value) => do
        return (name, ← showWithin depth (level + 1) value)
      let cls := ("obj", classView w (typeOf w obj))
      return .fields (cls :: if attrs.isEmpty then [] else [("attrs", .fields attrs)])

/-- An object. Lists and the like are nested no deeper than there are objects. -/
def showObject (obj : Ref) : ProgramAction View := do
  showWithin h ((shownLevels + 1) * ((← Action.world).heap.size + 1)) 0 obj

end Nested

end DdsBridge.Program
