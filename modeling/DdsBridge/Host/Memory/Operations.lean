import DdsBridge.Host.Memory.Object

/-!
# Operations of the host in memory

The operations that the bridge asks of a host, on the objects in memory. Three of them can run
host code: a call, the text of an instance whose class has a method for it, and the assignment of
an attribute on an instance whose class has a guard against it. What host code does is a
parameter, and so are the operations that it is carried out with, so none of the definitions here
refers to itself.

* **`Memory.host`** — the host, given the host that nested operations go to and the meaning of
  code.
-/

namespace DdsBridge.Memory

variable {C : Type} [HostCode C]

/-- An action on the objects in memory. -/
abbrev MemoryAction (C α : Type) := HostAction (Body C) α

/-- The failure of an attribute access. -/
def noAttribute (w : World (Body C)) (obj : Ref) (name : String) : HostError :=
  .attribute s!"'{typeName w obj}' object has no attribute '{name}'"

/-- The failure of a use as a whole number. -/
def notAnInteger (w : World (Body C)) (obj : Ref) : HostError :=
  .type s!"'{typeName w obj}' object cannot be interpreted as an integer"

/-- The attribute of an object. -/
def getAttr (obj : Ref) (name : String) : MemoryAction C Ref := do
  let w ← Action.world
  match lookup w obj name with
  | some found => return found
  | Option.none => Action.raise (noAttribute w obj name)

/-- Deletes an attribute of the object itself. -/
def delAttr (obj : Ref) (name : String) : MemoryAction C Unit := do
  let w ← Action.world
  match ownAttr? w obj name with
  | some _ => Action.change (World.removeAttr · obj name)
  | Option.none => Action.raise (noAttribute w obj name)

/-- Whether attributes can be stored on an object. -/
def takesAttrs : Option (Body C) → Bool
  | some (.module _) | some (.cls _) | some (.instance ..) | some (.function _) => true
  | _ => false

/-- The guard against assignments on an object. -/
def guardOf (w : World (Body C)) (obj : Ref) : Option Ref :=
  match body? w obj with
  | some (.instance cls _) => lookupInClass w cls "__setattr__"
  | _ => Option.none

/-- The whole number of an object within bounds; below them fails `low`, above them `high`. -/
def asBounded (least greatest : Int) (low high : String) (obj : Ref) : MemoryAction C Int := do
  let w ← Action.world
  match intValue? w obj with
  | Option.none => Action.raise (notAnInteger w obj)
  | some n =>
    if n < least then Action.raise { kind := .overflow, message := low }
    else if greatest < n then Action.raise { kind := .overflow, message := high }
    else return n

/-- The floating-point number of an object; whole numbers are rounded. -/
def asFloat (obj : Ref) : MemoryAction C Number.Binary64 := do
  let w ← Action.world
  match body? w obj with
  | some (.float x) => return x
  | _ =>
    match intValue? w obj with
    | some n => return .ofInt n
    | Option.none => Action.raise (.type s!"must be real number, not {typeName w obj}")

/-- The objects of a list or tuple. -/
def listItems (obj : Ref) : MemoryAction C (List Ref) := do
  let w ← Action.world
  match body? w obj with
  | some (.list items) => return items
  | some (.tuple items) => return items
  | _ => Action.raise (.type s!"'{typeName w obj}' object is not iterable")

/-- Creates a class under a qualified name. -/
def newClass (qualified : String) (bases : List Ref) (init : Option C) : MemoryAction C Ref := do
  let w ← Action.world
  let cls ← Action.alloc (.cls ⟨qualified, bases, bases.flatMap (lineage w), init⟩)
  let name ← Action.alloc (.str (shortName qualified))
  Action.change (World.storeAttr · cls "__name__" name)
  match moduleName? qualified with
  | Option.none => return cls
  | some module =>
    let name ← Action.alloc (.str module)
    Action.change (World.storeAttr · cls "__module__" name)
    return cls

/-- Creates an exception class; without bases it derives from the built-in one. -/
def newExceptionClass (qualified : String) (bases : List Ref) : MemoryAction C Ref :=
  newClass qualified (if bases.isEmpty then [Builtin.exception.ref] else bases) Option.none

/-- Whether an object is an instance of a class. -/
def isInstance (obj cls : Ref) : MemoryAction C Bool := do
  let w ← Action.world
  match classInfo? w cls with
  | Option.none => Action.raise (.type "isinstance() arg 2 must be a type")
  | some _ => return isSubclass w (typeOf w obj) cls

/-- The entity that a capsule stands for. -/
def capsuleHandle (w : World (Body C)) (obj : Ref) : Option (EntityKind × Handle) :=
  match body? w obj with
  | some (.capsule capsule) => some (capsule.kind, capsule.handle)
  | _ => Option.none

/-! ## Operations that can run host code -/

section Nested

variable (inner : Host (Body C)) (invoke : C → List Ref → MemoryAction C Ref)

/-- Runs code on arguments, which live at least until it ends. -/
def runCode (code : C) (args : List Ref) : MemoryAction C Ref :=
  Action.pinning args (invoke code args)

/-- Assigns an attribute. A guard of the class is called first, with the object, the name and the
value, and the value is stored only if the guard does not fail. -/
def setAttr (obj : Ref) (name : String) (value : Ref) : MemoryAction C Unit := do
  match guardOf (← Action.world) obj with
  | some guard =>
    let text ← Action.alloc (.str name)
    let _ ← inner.call guard [obj, text, value]
  | Option.none => pure ()
  let w ← Action.world
  if takesAttrs (body? w obj) then Action.change (World.storeAttr · obj name value)
  else Action.raise (.attribute s!"'{typeName w obj}' object attribute '{name}' is read-only")

/-- The whole number of a new instance: the first argument, or zero without arguments. -/
def instanceValue (cls : Ref) (args : List Ref) : MemoryAction C (Option Int) := do
  let w ← Action.world
  if isSubclass w cls Builtin.int.ref then
    match args with
    | [] => return some 0
    | arg :: _ =>
      match intValue? w arg with
      | some n => return some n
      | Option.none => Action.raise (notAnInteger w arg)
  else return Option.none

/-- Gives a new exception its arguments and its message, the text of the first argument. -/
def fillException (exception : Ref) (args : List Ref) : MemoryAction C Unit := do
  let message ← match args with
    | [] => pure ""
    | arg :: _ => inner.strOf arg
  inner.setAttr exception "args" (← Action.alloc (.tuple args))
  inner.setAttr exception "message" (← Action.alloc (.str message))

/-- Creates an instance of a class. -/
def instantiate (cls : Ref) (info : ClassInfo C) (args : List Ref) : MemoryAction C Ref := do
  let value ← instanceValue cls args
  let obj ← Action.alloc (.instance cls value)
  Action.pinning [obj] do
    let isException := isSubclass (← Action.world) cls Builtin.exception.ref
    if isException then fillException inner obj args
    match initOf (← Action.world) cls with
    | some code =>
      let _ ← runCode invoke code (obj :: args)
    | Option.none =>
      if !args.isEmpty && value.isNone && !isException then
        Action.raise (.type s!"{shortName info.qualified}() takes no arguments")
  return obj

/-- Calls a function or a class. -/
def call (callable : Ref) (args : List Ref) : MemoryAction C Ref := do
  let w ← Action.world
  match body? w callable with
  | some (.function code) => runCode invoke code args
  | some (.cls info) => instantiate inner invoke callable info args
  | _ => Action.raise (.type s!"'{typeName w callable}' object is not callable")

/-- The text that the method of an instance's class gives. -/
def strByMethod (method obj : Ref) : MemoryAction C String := do
  let text ← inner.call method [obj]
  let w ← Action.world
  match body? w text with
  | some (.str s) => return s
  | _ => Action.raise (.type s!"__str__ returned non-string (type {typeName w text})")

/-- The text of an object without a method for it. -/
def strByKind (obj : Ref) : MemoryAction C String := do
  let w ← Action.world
  match body? w obj with
  | some .none => return "None"
  | some (.bool b) => return if b then "True" else "False"
  | some (.int n) => return toString n
  | some (.float x) => return if x.isWhole then x.wholeText else x.text
  | some (.str s) => return s
  | some (.list items) =>
    let parts ← Action.pinning items (items.mapM inner.strOf)
    return "[" ++ ", ".intercalate parts ++ "]"
  | some (.tuple items) =>
    let parts ← Action.pinning items (items.mapM inner.strOf)
    return "(" ++ ", ".intercalate parts ++ ")"
  | some (.module name) => return s!"<module '{name}'>"
  | some (.cls info) => return s!"<class '{info.qualified}'>"
  | some (.instance _ (some n)) => return toString n
  | some (.instance cls Option.none) =>
    match ownAttr? w obj "message" with
    | some message =>
      if isSubclass w cls Builtin.exception.ref then inner.strOf message
      else return s!"<{typeName w obj} object>"
    | Option.none => return s!"<{typeName w obj} object>"
  | some (.capsule _) => return "<capsule object>"
  | some (.function _) => return "<built-in function>"
  | Option.none => return "<gone>"

/-- The text of an object. -/
def strOf (obj : Ref) : MemoryAction C String := do
  let w ← Action.world
  match body? w obj with
  | some (.instance cls _) =>
    match lookupInClass w cls "__str__" with
    | some method => strByMethod inner method obj
    | Option.none => strByKind inner obj
  | _ => strByKind inner obj

/-- The host in memory. -/
def host : Host (Body C) where
  none := Builtin.none.ref
  ofBool b := if b then Builtin.true.ref else Builtin.false.ref
  checkWeak _ := pure ()
  importModule name := do
    match (← Action.world).modules.get? name with
    | some module => return module
    | Option.none =>
      Action.raise { kind := .missingModule, message := s!"No module named '{name}'" }
  getAttr := getAttr
  setAttr := setAttr inner
  delAttr := delAttr
  call := call inner invoke
  typeOf := typeOf
  isInstance := isInstance
  newInt n := Action.alloc (.int n)
  newFloat x := Action.alloc (.float x)
  asSigned := asBounded Int64.minValue.toInt Int64.maxValue.toInt
    "Python int too large to convert to C long"
    "Python int too large to convert to C long"
  asUnsigned := asBounded 0 (UInt64.size - 1) "can't convert negative int to unsigned"
    "int too big to convert"
  asFloat := asFloat
  newStr s := Action.alloc (.str s)
  strOf := strOf inner
  newList items := Action.alloc (.list items)
  listItems := listItems
  newTuple items := Action.alloc (.tuple items)
  newCapsule capsule := Action.alloc (.capsule capsule)
  capsuleHandle := capsuleHandle
  newExceptionClass := newExceptionClass

end Nested

/-- A host whose operations that can run host code do not end, the bottom of the nesting. -/
def stuck : Host (Body C) where
  none := Builtin.none.ref
  ofBool b := if b then Builtin.true.ref else Builtin.false.ref
  checkWeak _ := Action.never
  importModule _ := Action.never
  getAttr _ _ := Action.never
  setAttr _ _ _ := Action.never
  delAttr _ _ := Action.never
  call _ _ := Action.never
  typeOf := typeOf
  isInstance _ _ := Action.never
  newInt _ := Action.never
  newFloat _ := Action.never
  asSigned _ := Action.never
  asUnsigned _ := Action.never
  asFloat _ := Action.never
  newStr _ := Action.never
  strOf _ := Action.never
  newList _ := Action.never
  listItems _ := Action.never
  newTuple _ := Action.never
  newCapsule _ := Action.never
  capsuleHandle := capsuleHandle
  newExceptionClass _ _ := Action.never

end DdsBridge.Memory
