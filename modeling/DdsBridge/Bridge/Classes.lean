import DdsBridge.Host.Interface

/-!
# Host classes of types

A structure or enumeration has a host class, which is found by following attributes from a module.
The search is done once for each type; afterwards the class is remembered.

* **`ClassStore`** — where classes are remembered.
* **`classOf`** — the host class of a type.
-/

namespace DdsBridge

/-- Where classes are remembered: by the bridge, or by a session apart from it. -/
inductive ClassStore where
  | bridge
  | session
  deriving DecidableEq, Repr

variable {B : Type}

/-- The classes remembered in a place. -/
def World.classes (w : World B) : ClassStore → Table String Ref
  | .bridge => w.bridge.classes
  | .session => w.sessionClasses

/-- Remembers the class of a type. -/
def World.rememberClass (w : World B) (store : ClassStore) (name : String) (cls : Ref) : World B :=
  match store with
  | .bridge => { w with bridge := { w.bridge with classes := w.bridge.classes.insert name cls } }
  | .session => { w with sessionClasses := w.sessionClasses.insert name cls }

/-- Follows a path of attributes from a module. -/
def findClass (h : Host B) (path : ClassPath) : HostAction B Ref := do
  let module ← h.importModule path.moduleName
  path.path.foldlM h.getAttr module

/-- The host class of the type with a name. -/
def classOf (h : Host B) (store : ClassStore) (name : String) (path : ClassPath) :
    HostAction B Ref := do
  match ((← Action.world).classes store).get? name with
  | some cls => return cls
  | none =>
    let cls ← findClass h path
    Action.change fun w => w.rememberClass store name cls
    return cls

end DdsBridge
