import DdsBridge.Proofs.Bridge.Conversion
import DdsBridge.Proofs.Bridge.Samples

/-!
# To the host and back

A value that was converted to a host object is read from it again, up to the fields that the host
does not see.

* **`fromHost_toHost`** — right after the conversion, and without changing anything.
-/

namespace DdsBridge

open Memory

namespace Marshal

open Bridge (pointHost)

variable {C : Type} [HostCode C] {inner : Host (Body C)} {invoke : C → List Ref → MemoryAction C Ref}
variable {classes : String → Ref} {store : ClassStore} {w w' : World (Body C)} {obj : Ref}

/-- A value that was converted to a host object reads back, up to the fields that the host does not
see, and the reading changes nothing. -/
theorem fromHost_toHost {type : IdlType} {v : Value} (htype : type.Exact) (hv : type.Admits v)
    (hi : Issued w) (hclasses : type.Hosted inner classes store w)
    (hok : (toHost (host inner invoke) store type v).apply w = (.ok obj, w')) :
    (fromHost (host inner invoke) store type obj).apply w' = (.ok (type.seen v), w') :=
  (toHost_eq_ok htype hv hclasses hi (.refl w) hok).2 inner invoke w' (.refl w')

/-! A fault: a structure whose class is an exception class, with an enumerator, a coded text in the
place of the exception's own message, a field that the host does not see, and a sequence. -/

/-- How bad a fault is. -/
def gravity : EnumDef := ⟨"Gravity", ⟨"app", ["Gravity"]⟩, [("minor", 1), ("major", 5)]⟩

/-- A fault with a gravity, a message, a number that the host does not see, and codes. -/
def faultType : IdlType :=
  .struct ⟨"Fault", "Fault", ⟨"app", ["Fault"]⟩⟩ <|
    .cons ⟨"gravity", some "gravity"⟩ (.enumeration gravity) <|
      .cons ⟨"message", some "message"⟩ (.coded .latin1) <|
        .cons ⟨"serial", none⟩ (.int .u64) <|
          .cons ⟨"codes", some "codes"⟩ (.seq (.int .i16)) .nil

/-- The built-in objects, the module and the two classes. -/
def faultObjects : List (Node (Body Session.Code)) :=
  Builtin.all.map (fun b => ⟨.empty, b.body⟩) ++
    [⟨Bridge.attrsOf [("Fault", ⟨17⟩), ("Gravity", ⟨18⟩)], .module "app"⟩,
      ⟨.empty, .cls ⟨"app.Fault", [Builtin.exception.ref],
        [Builtin.exception.ref, Builtin.object.ref], none⟩⟩,
      ⟨.empty, .cls ⟨"app.Gravity", [Builtin.int.ref], [Builtin.int.ref, Builtin.object.ref], none⟩⟩]

/-- The world with these objects. -/
def faultWorld : World (Body Session.Code) :=
  { (World.empty : World (Body Session.Code)) with
    heap := ⟨(faultObjects.map some).toArray⟩
    modules := Bridge.attrsOf [("app", ⟨16⟩)]
    permanent := 16
    mark := 19 }

/-- The host without functions, with one level of nesting. -/
def faultHost : Host (Body Session.Code) := host pointHost fun _ _ => Action.never

/-- A fault of which the host does not see the number 7. -/
def fault : Value := .record [.variant 1, .bytes [0x68, 0xe9], .int 7, .seq [.int (-3)]]

/-- The classes of the two types. -/
def faultClasses (name : String) : Ref := if name = "Fault" then ⟨17⟩ else ⟨18⟩

/-- A fault comes back from the host without its number. -/
theorem fromHost_toHost_fault :
    ∃ obj w', (toHost faultHost .session faultType fault).apply faultWorld = (.ok obj, w') ∧
      (fromHost faultHost .session faultType obj).apply w' =
        (.ok (.record [.variant 1, .bytes [0x68, 0xe9], .int 0, .seq [.int (-3)]]), w') := by
  have htype : faultType.Exact :=
    ⟨by decide, ⟨by decide, by decide, by decide⟩, trivial, trivial, trivial, trivial⟩
  have hv : faultType.Admits fault := by
    refine ⟨show 1 < 2 by decide, trivial, ⟨by decide, by decide⟩, fun v hv => ?_, trivial⟩
    cases List.mem_singleton.mp hv
    exact ⟨by decide, by decide⟩
  have hfault : StructClass pointHost faultWorld ⟨17⟩ :=
    ⟨rfl, rfl, by decide, fun _ => ⟨.inr ⟨_, _, rfl⟩, by decide, by decide⟩⟩
  have hgravity : NumberClass faultWorld ⟨18⟩ := ⟨rfl, by decide, by decide, rfl⟩
  have hclasses : faultType.Hosted pointHost faultClasses .session faultWorld :=
    ⟨fun cls h => (Option.some.inj h).symm, hfault,
      fun _ => ⟨fun cls h => (Option.some.inj h).symm, hgravity⟩, fun _ => trivial,
      fun _ => trivial, fun _ => trivial, trivial⟩
  have hends : ((toHost faultHost .session faultType fault).apply faultWorld).1.toOption =
      some ⟨24⟩ := by decide +kernel
  cases hrun : (toHost faultHost .session faultType fault).apply faultWorld with
  | mk result w' =>
      cases result with
      | ok obj =>
          exact ⟨obj, w', rfl, fromHost_toHost htype hv (issued_of_check (by decide)) hclasses hrun⟩
      | error stop =>
          rw [hrun] at hends
          cases hends

end Marshal

end DdsBridge
