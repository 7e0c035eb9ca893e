/-!
# References to host objects

A scripting host keeps its objects in a heap; from outside an object is named by a reference. No
reference is issued twice, so a reference to an object that is gone never names another one.
-/

namespace DdsBridge

/-- The identity of a host object. -/
structure Ref where
  id : Nat
  deriving DecidableEq, Repr, Inhabited

end DdsBridge
