import DdsBridge.Host.Interpreter.Texts

/-!
# Attributes

An attribute is looked for first among those that are computed, then on the object itself, then on
its class and the ancestors of its class; a function found there takes the object as its first
argument. A class can have methods that take over: one for attributes that are not found, one for
assignments and one for deletions.

* **`getAttr`**, **`setAttr`**, **`delAttr`** — the three operations.
* **`storeDirectly`** — an assignment past the method for it.
* **`takesAttrs`** — whether instances of a class have attributes of their own.
-/

namespace DdsBridge.Interpreter

variable {C : Type} [HostCode C]

/-! ## Looking up -/

/-- The fields of the failure to encode a text, in the order of its arguments. -/
def unicodeFields : List String := ["encoding", "object", "start", "end", "reason"]

/-- An attribute of an exception that is computed from its arguments. -/
def exceptionField (w : World (Body C)) (obj : Ref) (args : List Ref) (name : String) :
    ObjectAction C (Option Ref) := do
  if name = "args" then return some (← newTuple args)
  else if isA w obj .unicodeEncodeError then
    return (unicodeFields.idxOf? name).bind fun index => args[index]?
  else return none

/-- An attribute of a class that is computed. -/
def classField (w : World (Body C)) (cls : Ref) (info : ClassInfo) (name : String) :
    ObjectAction C (Option Ref) := do
  match name with
  | "__name__" => return some (← newText info.name)
  | "__qualname__" => return some (← newText info.qualified)
  | "__bases__" => return some (← newTuple info.bases)
  | "__mro__" => return some (← newTuple (lineage w cls))
  | "__module__" =>
    match Builtin.at? cls with
    | some b => return some (← newText b.home)
    | none => return none
  | _ => return none

/-- An attribute of an enumerator that is computed. -/
def enumeratorField (label : String) (value : Int) (name : String) :
    ObjectAction C (Option Ref) := do
  match name with
  | "name" | "_name_" => return some (← newText label)
  | "value" | "_value_" => return some (← newInt value)
  | _ => return none

/-- An attribute that is computed. -/
def computedAttr (obj : Ref) (name : String) : ObjectAction C (Option Ref) := do
  let w ← Action.world
  if name = "__class__" then return some (typeOf w obj)
  match core? w obj with
  | some (.cls info) => classField w obj info name
  | some (.exception args) => exceptionField w obj args name
  | some (.enumerator label value) => enumeratorField label value name
  | _ => return none

/-- The attributes that exceptions of some classes have even if nobody gave them any. -/
def blankFields (w : World (Body C)) (obj : Ref) : List String :=
  if isA w obj .attributeError then ["name", "obj"]
  else if isA w obj .importError then ["msg", "name", "path"]
  else []

/-- What a class gives to an instance. -/
def bindAttr (obj found : Ref) : ObjectAction C Ref := do
  if (boundCode? (← Action.world) found).isSome then
    Action.alloc ⟨Builtin.method.ref, .method obj found⟩
  else return found

/-- An attribute of an object, if it has one. -/
def findAttr? (obj : Ref) (name : String) : ObjectAction C (Option Ref) := do
  if let some computed ← computedAttr obj name then return some computed
  let w ← Action.world
  if let some own := ownAttr? w obj name then return some own
  match core? w obj with
  | some (.cls _) => return lookupInClass w obj name
  | some (.method _ callee) => return ownAttr? w callee name
  | _ =>
    match lookupInClass w (typeOf w obj) name with
    | some found => return some (← bindAttr obj found)
    | none => return if (blankFields w obj).contains name then some Builtin.none.ref else none

/-- The text of the failure to find an attribute. -/
def missingText (w : World (Body C)) (obj : Ref) (name : String) : String :=
  match core? w obj with
  | some (.module moduleName) => s!"module '{moduleName}' has no attribute '{name}'"
  | some (.cls _) =>
    if isEnumClass w obj then name
    else s!"type object '{fullClassName w obj}' has no attribute '{name}'"
  | some (.method _ callee) => s!"'{fullTypeName w callee}' object has no attribute '{name}'"
  | _ => s!"'{fullTypeName w obj}' object has no attribute '{name}'"

/-- The failure to find an attribute tells the object and the name, unless it tells some already. -/
def tellSubject (obj : Ref) (name : String) (error : HostError) : ObjectAction C Unit := do
  let w ← Action.world
  match error.payload with
  | some (.object exception) =>
    let told := (ownAttr? w exception "name").isSome || (ownAttr? w exception "obj").isSome
    if isA w exception .attributeError && !told then
      let text ← newText name
      Action.change (World.storeAttr · exception "name" text)
      Action.change (World.storeAttr · exception "obj" obj)
  | _ => return

section Nested

variable (inner : Host (Body C))

/-- The method of a class that takes over, if the class has one. -/
def takeover (method : String) (obj : Ref) : ObjectAction C (Option Ref) := do
  let w ← Action.world
  return lookupInClass w (typeOf w obj) method

/-- An attribute of an object that the object does not have. -/
def missingAttr (obj : Ref) (name : String) : ObjectAction C Ref := do
  let w ← Action.world
  match ← takeover "__getattr__" obj with
  | some method => callSpecial inner method obj [← newText name]
  | none =>
    match core? w obj, ownAttr? w obj "__getattr__" with
    | some (.module _), some function => inner.call function [← newText name]
    | _, _ => raiseAttribute (missingText w obj name)

/-- The attribute of an object. -/
def getAttr (obj : Ref) (name : String) : ObjectAction C Ref := do
  match ← findAttr? obj name with
  | some found => return found
  | none =>
    match ← (missingAttr inner obj name).attempt (δ := HostError) with
    | .ok found => return found
    | .error error =>
      tellSubject obj name error
      Action.raise error

/-! ## Assigning and deleting -/

/-- Whether instances of a class have attributes of their own. -/
def takesAttrs (w : World (Body C)) (cls : Ref) : Bool :=
  (lineage w cls).any fun c =>
    match Builtin.at? c with
    | some b => b.isException || [.module, .function, .enum].contains b
    | none => (classInfo? w c).any fun info => info.slots.isNone

/-- Whether a class reserves a place for an attribute of its instances. -/
def hasSlot (w : World (Body C)) (cls : Ref) (name : String) : Bool :=
  (lineage w cls).any fun c =>
    (classInfo? w c).any fun info => info.slots.any fun slots => slots.contains name

/-- Whether an attribute of an enumeration class is a member. -/
def isMember (w : World (Body C)) (cls : Ref) (name : String) : Bool :=
  match (ownAttr? w cls name).bind (core? w) with
  | some (.enumerator ..) => isEnumClass w cls
  | _ => false

/-- Changes what a class knows about itself. -/
def changeInfo (cls : Ref) (f : ClassInfo → ClassInfo) : ObjectAction C Unit :=
  Action.change fun w =>
    match w.heap.get? cls, classInfo? w cls with
    | some node, some info =>
      { w with heap := w.heap.set cls { node with body := { node.body with core := .cls (f info) } } }
    | _, _ => w

/-- Replaces the arguments of an exception. -/
def changeArgs (exception : Ref) (args : List Ref) : ObjectAction C Unit :=
  Action.change fun w =>
    match w.heap.get? exception with
    | some node =>
      World.collect
        { w with
          heap := w.heap.set exception
            { node with body := { node.body with core := .exception args } } }
    | none => w

/-- The text for a name of a class. -/
def nameText (cls : Ref) (attr : String) (value : Ref) : ObjectAction C String := do
  let w ← Action.world
  match core? w value with
  | some (.str s) => encodable s
  | _ =>
    raiseType (s!"can only assign string to {fullClassName w cls}.{attr}, " ++
      s!"not '{fullTypeName w value}'")

/-- Whether nothing can be stored on a class. -/
def isImmutable (cls : Ref) : Bool := (Builtin.at? cls).any Builtin.isImmutable

/-- The failure to change an attribute of a class. -/
def immutableClass {α : Type} (action : String) (cls : Ref) (name : String) : ObjectAction C α := do
  let w ← Action.world
  raiseType s!"cannot {action} '{name}' attribute of immutable type '{fullClassName w cls}'"

/-- Assigns an attribute of a class. -/
def setClassAttr (cls : Ref) (name : String) (value : Ref) : ObjectAction C Unit := do
  let w ← Action.world
  if isImmutable cls then immutableClass "set" cls name
  else if isMember w cls name then raiseAttribute s!"cannot reassign member '{name}'"
  else if name = "__name__" then
    let text ← nameText cls name value
    changeInfo cls fun info => { info with name := text }
  else if name = "__qualname__" then
    let text ← nameText cls name value
    changeInfo cls fun info => { info with qualified := text }
  else Action.change (World.storeAttr · cls name value)

/-- Assigns the arguments of an exception. -/
def setArgs (exception value : Ref) : ObjectAction C Unit := do
  let w ← Action.world
  match items? w value with
  | some args => changeArgs exception args
  | none => raiseType s!"'{fullTypeName w value}' object is not iterable"

/-- The attributes of an enumerator that cannot be changed. -/
def memberFields : List String := ["name", "value"]

/-- Assigns an attribute past the method for assignments. -/
def storeDirectly (obj : Ref) (name : String) (value : Ref) : ObjectAction C Unit := do
  let w ← Action.world
  match core? w obj with
  | some (.cls _) => setClassAttr obj name value
  | some (.enumerator ..) =>
    if memberFields.contains name then
      raiseAttribute s!"<enum 'Enum'> cannot set attribute '{name}'"
    else Action.change (World.storeAttr · obj name value)
  | some (.exception _) =>
    if name = "args" then setArgs obj value
    else Action.change (World.storeAttr · obj name value)
  | _ =>
    if takesAttrs w (typeOf w obj) || hasSlot w (typeOf w obj) name then
      Action.change (World.storeAttr · obj name value)
    else raiseAttribute s!"'{fullTypeName w obj}' object has no attribute '{name}'"

/-- Assigns an attribute. -/
def setAttr (obj : Ref) (name : String) (value : Ref) : ObjectAction C Unit := do
  match ← takeover "__setattr__" obj with
  | some method =>
    let _ ← callSpecial inner method obj [← newText name, value]
  | none => storeDirectly obj name value

/-- The failure to delete an attribute that is not there. -/
def cannotDelete (obj : Ref) (name : String) : ObjectAction C Unit := do
  let w ← Action.world
  match core? w obj with
  | some (.cls _) => raiseAttribute s!"type object '{fullClassName w obj}' has no attribute '{name}'"
  | _ =>
    if hasSlot w (typeOf w obj) name then raiseAttribute name
    else raiseAttribute s!"'{fullTypeName w obj}' object has no attribute '{name}'"

/-- Deletes an attribute past the method for deletions. -/
def deleteDirectly (obj : Ref) (name : String) : ObjectAction C Unit := do
  let w ← Action.world
  match core? w obj with
  | some (.cls _) =>
    if isImmutable obj then immutableClass "set" obj name
    else if ["__name__", "__qualname__", "__module__"].contains name then
      immutableClass "delete" obj name
    else if isMember w obj name then
      raiseAttribute s!"'{className w obj}' cannot delete member '{name}'."
  | some (.enumerator ..) =>
    if memberFields.contains name then
      raiseAttribute s!"<enum 'Enum'> cannot delete attribute '{name}'"
  | some (.exception _) =>
    if name = "args" then raiseType "args may not be deleted"
  | _ => pure ()
  if (ownAttr? w obj name).isSome then Action.change (World.removeAttr · obj name)
  else if !(blankFields w obj).contains name then cannotDelete obj name

/-- Deletes an attribute. -/
def delAttr (obj : Ref) (name : String) : ObjectAction C Unit := do
  match ← takeover "__delattr__" obj with
  | some method =>
    let _ ← callSpecial inner method obj [← newText name]
  | none => deleteDirectly obj name

end Nested

end DdsBridge.Interpreter
