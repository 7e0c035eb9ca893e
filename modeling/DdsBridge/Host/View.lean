import DdsBridge.Dds.Entity
import DdsBridge.Error
import DdsBridge.Text.Points

/-!
# What an observer sees

The steps of a session have outcomes, and host code that runs in their course leaves traces. Both
are shown as trees of plain data, because what they speak of may be gone by the time somebody
looks.

* **`View`** — a tree of plain data.
* **`Outcome`** — how a step ended.
* **`Event`** — what happened in the course of a step.
* **`Release`** — an entity that a proxy gave back in the course of a step.
-/

namespace DdsBridge

/-- A tree of plain data. -/
inductive View where
  | none
  | bool (b : Bool)
  | number (n : Int)
  | text (s : String)
  /-- A text in which surrogates can occur. -/
  | points (s : Text.Points)
  | list (items : List View)
  | fields (entries : List (String × View))
  deriving Repr, Inhabited

/-- A list of texts. -/
def View.texts (items : List String) : View := .list (items.map .text)

/-- A number in decimal digits, as text. -/
def View.decimal (n : Int) : View := .text (toString n)

/-- A value that may be absent. -/
def View.optional {α : Type} (show' : α → View) : Option α → View
  | some a => show' a
  | Option.none => .none

/-- How a step ended. -/
inductive Outcome where
  /-- With a value. -/
  | ok (view : View)
  /-- With a failure of the bridge or of the host. -/
  | failed (error : Error)
  /-- With a provider's return code. -/
  | refused (code : ReturnCode)
  /-- With an exception of the interpreter: its class, its text and its return code, if any. -/
  | raised (className : String) (message : Text.Points) (code : Option View)
  /-- Not at all: the step could not be carried out. -/
  | invalid (message : String)
  deriving Repr, Inhabited

/-- What happened in the course of a step. -/
inductive Event where
  /-- Host code that records its calls was called. -/
  | recorded (name : String) (args : List View)
  /-- A listener was called. -/
  | listened (label : String) (reader : Handle) (status : StatusKind)
  /-- Host code carried out a step of its own. -/
  | stepped (outcome : Outcome)
  deriving Repr, Inhabited

/-- An entity that a proxy gave back: to the provider, or, for a capsule bound without a bridge, to
nobody in particular. -/
inductive Release where
  | toProvider (kind : EntityKind) (handle : Handle)
  | loose (kind : EntityKind) (handle : Handle)
  deriving DecidableEq, Repr

/-- A release as text. -/
def Release.text : Release → String
  | .toProvider kind handle => s!"{kind.name} {handle.text}"
  | .loose kind handle => s!"own {kind.name} {handle.text}"

end DdsBridge
