import DdsBridge.Host.Interpreter.Object

/-!
# Raising exceptions

Every failure of the interpreter is an exception object. Outside the interpreter it is known by the
kind of its class and by its text, and it carries the object along, so that the very same exception
can be raised again.

* **`raiseObject`** — raises an exception object whose text is known.
* **`raiseNew`** — raises a new exception of a built-in class.
* **`encodable`** — the characters of a text, which must not hold a surrogate.
-/

namespace DdsBridge.Interpreter

variable {C : Type}

/-- An action on the objects of an interpreter. -/
abbrev ObjectAction (C α : Type) := HostAction (Body C) α

/-- The built-in exception classes that have a kind of their own. The first that an exception is
an instance of gives its kind. -/
def kindClasses : List (Builtin × HostErrorKind) :=
  [(.attributeError, .attribute), (.importError, .missingModule), (.typeError, .type),
    (.overflowError, .overflow), (.unicodeError, .encoding), (.valueError, .value)]

/-- The kind of an exception. -/
def kindOf (w : World (Body C)) (exception : Ref) : HostErrorKind :=
  match kindClasses.find? fun entry => isA w exception entry.1 with
  | some entry => entry.2
  | none => .other

/-- The built-in class of the exceptions of a kind. -/
def classOfKind : HostErrorKind → Builtin
  | .attribute => .attributeError
  | .missingModule => .importError
  | .type => .typeError
  | .overflow => .overflowError
  | .value => .valueError
  | .encoding => .unicodeError
  | .other => .exception

/-- The failure that an exception object stands for. -/
def failureOf (w : World (Body C)) (exception : Ref) (text : String) : HostError :=
  { kind := kindOf w exception, message := text, payload := some (.object exception) }

/-- Raises an exception object with the given text. It stays alive until the running frame ends. -/
def raiseWith {α : Type} (exception : Ref) (text : String) : ObjectAction C α := do
  Action.pin exception
  Action.raise (failureOf (← Action.world) exception text)

/-- A new text object. -/
def newText (s : String) : ObjectAction C Ref := Action.alloc ⟨Builtin.str.ref, .str (.ofString s)⟩

/-- A new whole number. -/
def newInt (n : Int) : ObjectAction C Ref := Action.alloc ⟨Builtin.int.ref, .int n⟩

/-- A new tuple. -/
def newTuple (items : List Ref) : ObjectAction C Ref := Action.alloc ⟨Builtin.tuple.ref, .tuple items⟩

/-- A new list. -/
def newList (items : List Ref) : ObjectAction C Ref := Action.alloc ⟨Builtin.list.ref, .list items⟩

/-- A new exception of a built-in class. -/
def newExceptionOf (b : Builtin) (args : List Ref) : ObjectAction C Ref :=
  Action.alloc ⟨b.ref, .exception args⟩

/-- Raises a new exception of a built-in class. -/
def raiseNew {α : Type} (b : Builtin) (text : String) : ObjectAction C α := do
  let arg ← newText text
  raiseWith (← newExceptionOf b [arg]) text

/-- Raises a type error. -/
def raiseType {α : Type} (text : String) : ObjectAction C α := raiseNew .typeError text

/-- Raises an attribute error. -/
def raiseAttribute {α : Type} (text : String) : ObjectAction C α := raiseNew .attributeError text

/-! ## Texts that cannot be encoded -/

/-- Where the surrogates of a text are, as an error text says it: the last position of a run is
named. -/
def surrogatePlace (s : Text.Points) (start stop : Nat) : String :=
  if stop = start + 1 then
    s!"character '{Text.escapePoint ((s.codes[start]?).getD 0)}' in position {start}"
  else s!"characters in position {start}-{stop - 1}"

/-- The text of the failure to encode surrogates. -/
def surrogateText (s : Text.Points) (start stop : Nat) : String :=
  s!"'utf-8' codec can't encode {surrogatePlace s start stop}: surrogates not allowed"

/-- The characters of a text; one with surrogates cannot be encoded. -/
def encodable (s : Text.Points) : ObjectAction C String := do
  match s.toString?, s.surrogates? with
  | some text, _ => return text
  | none, none => return s.lossy
  | none, some (start, stop) =>
    let codec ← newText "utf-8"
    let obj ← Action.alloc ⟨Builtin.str.ref, .str s⟩
    let first ← newInt start
    let last ← newInt stop
    let reason ← newText "surrogates not allowed"
    let args := [codec, obj, first, last, reason]
    raiseWith (← newExceptionOf .unicodeEncodeError args) (surrogateText s start stop)

end DdsBridge.Interpreter
