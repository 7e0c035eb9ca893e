import DdsBridge.Proofs.Bridge.Additions
import DdsBridge.Proofs.Bridge.Samples
import DdsBridge.Proofs.Bridge.Within
import DdsBridge.Proofs.Idl.WellFormed
import DdsBridge.Session.Run

/-!
# Structures in place

The conversion of a structure into an existing instance converts every field first, then tests the
instance, and assigns the attributes last. Where the host code that it runs leaves the instance alone,
a conversion that fails has changed none of its attributes, and one that succeeds has changed those of
the fields, to the converted fields.

* **`Marshal.FilledInPlace`** — what the instance holds afterwards.
* **`Marshal.InPlace`** — how such a conversion ends.
* **`Marshal.assignAll_in_place`** — the assignments, on an instance without a guard.
* **`Marshal.structToHost_in_place`** — whole conversions.
* **`Marshal.nested_guard_moves_note`** — the guard of a nested class that does not leave the instance
  alone.
-/

namespace DdsBridge

open Memory

namespace Marshal

variable {C : Type} [HostCode C] {I : World (Body C) → Prop} {inner : Host (Body C)}
variable {invoke : C → List Ref → MemoryAction C Ref} {store : ClassStore} {s : StructType}
variable {first : Nat} {obj : Ref} {w w' : World (Body C)}

/-- An object that passes the test is an instance of exactly the class, and only the class was
remembered. -/
theorem checkInstance_eq_ok {head : StructHead} {u : Unit}
    (hok : (checkInstance (host inner invoke) store head obj).apply w = (.ok u, w')) :
    classFor? store w head.name head.host = some (Memory.typeOf w obj) ∧ w'.heap = w.heap := by
  obtain ⟨cls, w₁, hfound, hcheck⟩ := Action.apply_bind_eq_ok_iff.mp hok
  rcases classOf_cases inner invoke store head.name head.host w with
    ⟨stop, hrun⟩ | ⟨found, w₂, hrun, hfor, -, hafter⟩
  · cases hrun.symm.trans (Action.apply_lift_eq_ok hfound)
  · obtain ⟨rfl, rfl⟩ : found = cls ∧ w₂ = w₁ := by
      cases hrun.symm.trans (Action.apply_lift_eq_ok hfound)
      exact ⟨rfl, rfl⟩
    have hheap : w₂.heap = w.heap := by
      rcases hafter with rfl | ⟨-, rfl⟩
      · rfl
      · cases store <;> rfl
    rw [Action.apply_bind_of_ok (Action.apply_world w₂)] at hcheck
    split at hcheck
    · obtain ⟨_, _, _, hraise⟩ := Action.apply_bind_eq_ok_iff.mp hcheck
      exact absurd (congrArg Prod.fst hraise) (by simp)
    · rename_i htype
      cases hcheck
      have htype : Memory.typeOf w' obj = found := Decidable.not_not.mp htype
      have hsame : Memory.typeOf w' obj = Memory.typeOf w obj := by
        rw [Memory.typeOf, Memory.typeOf, body?, body?, hheap]
      exact ⟨hfor.trans (congrArg some (htype.symm.trans hsame)), hheap⟩

/-- Assignments of different attributes on an object without a guard, which takes attributes. -/
theorem assignEach_unguarded (inner : Host (Body C)) (invoke : C → List Ref → MemoryAction C Ref)
    {P : Ref → Prop} {attrs : List (String × Ref)} (hs : w.Supported P) (hobj : P obj)
    (hu : Unguarded w obj) (htakes : takesAttrs (body? w obj) = true)
    (hnodup : (attrs.map Prod.fst).Nodup) :
    ∃ w', (assignEach (host inner invoke) obj attrs).apply w = (.ok (), w') ∧
      w.Upholds P (fun r name => r = obj ∧ name ∈ attrs.map Prod.fst) w' ∧
      ∀ attr ∈ attrs, w'.attrAt obj attr.1 = some attr.2 := by
  induction attrs generalizing w with
  | nil => exact ⟨w, rfl, .refl w, fun attr hattr => absurd hattr List.not_mem_nil⟩
  | cons attr rest ih =>
      obtain ⟨name, x⟩ := attr
      obtain ⟨hfirst, hrest⟩ := List.nodup_cons.mp hnodup
      have hset : (setAttr inner obj name x).apply w = (.ok (), w.storeAttr obj name x) := by
        rcases setAttr_of_noGuard inner hu.noGuard name x with ⟨-, hset⟩ | ⟨hrefuses, -⟩
        · exact hset
        · cases htakes.symm.trans hrefuses
      have hstored : w.Upholds P (Only obj name) (w.storeAttr obj name x) :=
        hs.storeAttr x fun _ => ⟨rfl, rfl⟩
      -- an attribute does not change what kind of object it is, so it takes the rest as well
      have htakes₁ : takesAttrs (body? (w.storeAttr obj name x) obj) = true := by
        rw [show body? (w.storeAttr obj name x) obj = body? w obj from hstored.body hobj]
        exact htakes
      obtain ⟨w', hrun, hupholds, hlisted⟩ :=
        ih (hs.upheld hstored) (hu.storeAttr name x) htakes₁ hrest
      refine ⟨w', ?_, ?_, List.forall_mem_cons.mpr ⟨?_, hlisted⟩⟩
      · exact (Action.apply_bind_of_ok (Action.apply_lift_of_ok hset)).trans hrun
      · exact (hstored.mono fun ⟨hr, hname⟩ => ⟨hr, hname ▸ List.mem_cons_self⟩).trans
          (hupholds.mono fun ⟨hr, hname⟩ => ⟨hr, List.mem_cons_of_mem _ hname⟩)
      · rw [hupholds.attr hobj fun hchanges => hfirst hchanges.2]
        exact hs.storeAttr_attrAt hobj name x

/-- An instance was filled in place: it is of exactly the class of the structure, its attributes for
the fields hold the converted fields, which are there as they were converted, and its other
attributes are what they were. -/
structure FilledInPlace (store : ClassStore) (s : StructType) (obj : Ref) (w : World (Body C))
    (attrs : List (String × Ref)) (w₁ w' : World (Body C)) : Prop where
  ofClass : classFor? store w₁ s.head.name s.head.host = some (Memory.typeOf w obj)
  names : attrs.map Prod.fst = s.fields.attrs
  listed : ∀ attr ∈ attrs, w'.attrAt obj attr.1 = some attr.2
  others : ∀ name, name ∉ s.fields.attrs → w'.attrAt obj name = w.attrAt obj name
  there : ∀ attr ∈ attrs, ∀ body, w₁.bodyAt attr.2 = some body → w'.bodyAt attr.2 = some body
  within : ∀ attr ∈ attrs, (w₁.bodyAt attr.2).isSome → attr.2 ≠ obj → ∀ name,
    w'.attrAt attr.2 name = w₁.attrAt attr.2 name

/-- How the conversion of a value into an existing instance ends. -/
inductive InPlace (h : Host (Body C)) (store : ClassStore) (s : StructType) (obj : Ref)
    (w : World (Body C)) : Value → Except (Stop Error) Ref × World (Body C) → Prop
  /-- It fails, and no attribute of the instance has changed. -/
  | failed {v : Value} {error : Error} {w' : World (Body C)}
      (kept : ∀ name, w'.attrAt obj name = w.attrAt obj name) :
      InPlace h store s obj w v (.error (.raised error), w')
  /-- Every field was converted, and then the instance was filled. -/
  | filled {values : List Value} {attrs : List (String × Ref)} {w₁ w' : World (Body C)}
      (converted : (fieldsToHost h store s.fields values).apply w = (.ok attrs, w₁))
      (filled : FilledInPlace store s obj w attrs w₁ w') :
      InPlace h store s obj w (.record values) (.ok obj, w')
  /-- It does not come to an end. -/
  | endless {v : Value} {w' : World (Body C)} : InPlace h store s obj w v (.error .endless, w')

/-- Converted fields on an existing object without a guard. If it takes no attributes, the first
assignment fails. -/
theorem assignAll_in_place (inner : Host (Body C)) (invoke : C → List Ref → MemoryAction C Ref)
    {attrs : List (String × Ref)} (hh : w.InHand obj) (hu : Unguarded w obj)
    (hnodup : (attrs.map Prod.fst).Nodup) :
    (∃ error, (assignAll (host inner invoke) obj attrs).apply w = (.error (.raised error), w)) ∨
      ∃ w', (assignAll (host inner invoke) obj attrs).apply w = (.ok (), w') ∧
        (∀ attr ∈ attrs, w'.attrAt obj attr.1 = some attr.2) ∧
        (∀ name, name ∉ attrs.map Prod.fst → w'.attrAt obj name = w.attrAt obj name) ∧
        ∀ x ∈ attrs.map Prod.snd, ∀ body, w.bodyAt x = some body →
          w'.bodyAt x = some body ∧ (x ≠ obj → ∀ name, w'.attrAt x name = w.attrAt x name) := by
  -- the object and what it is to hold are pinned while they are assigned
  let refs := obj :: attrs.map Prod.snd
  let v : World (Body C) := { w with pinned := refs ++ w.pinned }
  have hassign : ∀ result w', (assignEach (host inner invoke) obj attrs).apply v = (result, w') →
      (assignAll (host inner invoke) obj attrs).apply w = (result, { w' with pinned := w.pinned }) := by
    intro result w' hrun
    rw [assignAll_eq, Action.apply_pinning, hrun]
  cases htakes : takesAttrs (body? w obj) with
  | true =>
      have hs : v.Supported fun r => r ∈ refs ∧ (w.bodyAt r).isSome :=
        ⟨fun hr => Option.isSome_iff_exists.mp hr.2,
          fun hr => .inr (.inl (List.mem_append_left _ hr.1))⟩
      have hobj : obj ∈ refs ∧ (w.bodyAt obj).isSome :=
        ⟨List.mem_cons_self, Option.isSome_iff_exists.mpr (World.Supported.there hh rfl)⟩
      obtain ⟨w', hrun, hupholds, hlisted⟩ := assignEach_unguarded inner invoke hs hobj
        ⟨hu.noGuard, hu.apart⟩ htakes hnodup
      refine .inr ⟨_, hassign _ _ hrun, hlisted, fun name hname => ?_, fun x hx body hbody => ?_⟩
      · exact hupholds.attr hobj fun hchanges => hname hchanges.2
      · have hP : x ∈ refs ∧ (w.bodyAt x).isSome :=
          ⟨List.mem_cons_of_mem _ hx, Option.isSome_iff_exists.mpr ⟨body, hbody⟩⟩
        exact ⟨(hupholds.body hP).trans hbody,
          fun hne name => hupholds.attr hP fun hchanges => hne hchanges.1⟩
  | false =>
      cases attrs with
      | nil =>
          exact .inr ⟨w, rfl, fun _ hattr => absurd hattr List.not_mem_nil, fun _ _ => rfl,
            fun _ hx => absurd hx List.not_mem_nil⟩
      | cons attr rest =>
          have hguard : guardOf v obj = none := hu.noGuard
          rcases setAttr_of_noGuard inner hguard attr.1 attr.2 with ⟨htaken, -⟩ | ⟨-, error, hset⟩
          · cases htakes.symm.trans htaken
          · have hfails : (assignEach (host inner invoke) obj (attr :: rest)).apply v =
                (.error (.raised (.host error)), v) :=
              Action.apply_bind_of_error (Action.apply_lift_of_error hset)
            exact .inl ⟨.host error, hassign _ v hfails⟩

/-- The existing instance, once it has passed the test. -/
def existingTarget {B : Type} (h : Host B) (store : ClassStore) (head : StructHead) (obj : Ref) :
    BridgeAction B Ref := do
  checkInstance h store head obj
  return obj

/-- How the test of an existing instance ends, while the converted fields are pinned. -/
theorem existingTarget_cases (h : Undisturbed I inner invoke store s first obj) (hI : I w)
    (hh : w.InHand obj) (refs : List Ref) :
    (∃ stop w', (Action.pinning refs (existingTarget (host inner invoke) store s.head obj)).apply w =
        (.error stop, w') ∧ (stop ≠ .endless → w.Spares obj w')) ∨
      ∃ w', (Action.pinning refs (existingTarget (host inner invoke) store s.head obj)).apply w =
          (.ok obj, w') ∧ I w' ∧ w.Spares obj w' ∧ w'.heap = w.heap ∧
        classFor? store w s.head.name s.head.host = some (Memory.typeOf w obj) := by
  have hends : (Action.pinning refs (existingTarget (host inner invoke) store s.head obj)).WithinAt
      (World.Sparing I obj) w :=
    .pinning_sparing h.pinned
      ((h.checkInstance_spares _).bind_sparing fun _ _ _ _ _ _ _ => .of_unchanged rfl)
  rcases hrun : (Action.pinning refs (existingTarget (host inner invoke) store s.head obj)).apply w
    with ⟨stop | target, w'⟩
  · refine .inl ⟨stop, w', rfl, fun hstop => ?_⟩
    unfold Action.WithinAt at hends
    rw [hrun] at hends
    exact (hends (fun he => hstop (Except.error.inj he)) hI hh).2
  · obtain ⟨hI', hspares⟩ := hends.of_ok hrun hI hh
    obtain ⟨v, hpassed, rfl⟩ := Action.apply_pinning_eq_ok hrun
    obtain ⟨_, v, hpassed, hreturn⟩ := Action.apply_bind_eq_ok_iff.mp hpassed
    obtain ⟨hclass, hheap⟩ := checkInstance_eq_ok hpassed
    cases hreturn
    exact .inr ⟨_, rfl, hI', hspares, hheap, hclass⟩

/-- What happens once every field was converted. -/
theorem fillInstance_in_place (h : Undisturbed I inner invoke store s first obj)
    (hnodup : s.fields.attrs.Nodup) (hh : w.InHand obj) {values : List Value}
    {attrs : List (String × Ref)} {w₁ : World (Body C)}
    (hconverted : (fieldsToHost (host inner invoke) store s.fields values).apply w =
      (.ok attrs, w₁)) (hI₁ : I w₁) (hspares₁ : w.Spares obj w₁) :
    InPlace (host inner invoke) store s obj w (.record values)
      ((fillInstance (host inner invoke) store s.head (some obj) attrs).apply w₁) := by
  have hnames : attrs.map Prod.fst = s.fields.attrs := fieldsToHost_attrs hconverted
  rcases existingTarget_cases h hI₁ (hh.spared hspares₁) (attrs.map Prod.snd) with
    ⟨stop, w₂, hcheck, hspares₂⟩ | ⟨w₂, hcheck, hI₂, hspares₂, hheap, hclass⟩
  · have hrun : (fillInstance (host inner invoke) store s.head (some obj) attrs).apply w₁ =
        (.error stop, w₂) := Action.apply_bind_of_error hcheck
    rw [hrun]
    cases stop with
    | raised error => exact .failed (hspares₁.trans (hspares₂ nofun)).attr
    | endless => exact .endless
  · -- the object has passed, and nothing has happened to it since before the conversion
    have hspares : w.Spares obj w₂ := hspares₁.trans hspares₂
    have hfill : (fillInstance (host inner invoke) store s.head (some obj) attrs).apply w₁ =
        (do
          assignAll (host inner invoke) obj attrs
          return obj : BridgeAction (Body C) Ref).apply w₂ := Action.apply_bind_of_ok hcheck
    have hsame : Memory.typeOf w₁ obj = Memory.typeOf w obj := by
      rw [Memory.typeOf, Memory.typeOf, show body? w₁ obj = body? w obj from hspares₁.body]
    have hbody : ∀ x, w₂.bodyAt x = w₁.bodyAt x := fun x => by rw [World.bodyAt, hheap]; rfl
    have hattr : ∀ x name, w₂.attrAt x name = w₁.attrAt x name := fun x name => by
      rw [World.attrAt, hheap]
      rfl
    rw [hfill]
    rcases assignAll_in_place inner invoke (hh.spared hspares) (h.unguarded hI₂) (hnames ▸ hnodup)
      with
      ⟨error, hrun⟩ | ⟨w', hrun, hlisted, hothers, hthere⟩
    · rw [Action.apply_bind_of_error hrun]
      exact .failed hspares.attr
    · rw [Action.apply_bind_of_ok hrun]
      refine .filled hconverted
        { ofClass := hclass.trans (congrArg some hsame)
          names := hnames
          listed := hlisted
          others := fun name hname => (hothers name (hnames ▸ hname)).trans (hspares.attr name)
          there := fun attr hmem body hfound =>
            (hthere attr.2 (List.mem_map_of_mem hmem) body ((hbody _).trans hfound)).1
          within := fun attr hmem hfound hne name => ?_ }
      obtain ⟨body, hfound⟩ := Option.isSome_iff_exists.mp hfound
      have hkept := (hthere attr.2 (List.mem_map_of_mem hmem) body ((hbody _).trans hfound)).2
      exact (hkept hne name).trans (hattr attr.2 name)

/-- The conversion of a structure into an existing instance fails and leaves the attributes of the
instance as they are, or it converts every field first and then assigns just the attributes for
them. -/
theorem structToHost_in_place (h : Undisturbed I inner invoke store s first obj)
    (hnodup : s.fields.attrs.Nodup) (hI : I w) (hh : w.InHand obj) (v : Value) :
    InPlace (host inner invoke) store s obj w v
      ((structToHost (host inner invoke) store s v (some obj)).apply w) := by
  cases v with
  | record values =>
      -- until every field is converted, only new objects are written to
      have hends := Undisturbed.fieldsToHost_spares h s.fields values (fun _ _ hm => hm) w
      rw [structToHost, Action.apply_bind]
      rcases hrun : (fieldsToHost (host inner invoke) store s.fields values).apply w with
        ⟨(error | _) | attrs, w₁⟩
      · unfold Action.WithinAt at hends
        rw [hrun] at hends
        exact .failed (hends nofun hI hh).2.attr
      · exact .endless
      · obtain ⟨hI₁, hspares⟩ := hends.of_ok hrun hI hh
        exact fillInstance_in_place h hnodup hh hrun hI₁ hspares
  | _ => exact .failed fun _ => rfl

/-! ## An envelope

An envelope with a seal and a label is put into an existing instance that has a note, too. The class
of seals has a constructor, if there is code for it, and a guard. -/

/-- An envelope: a seal with a number, and a label. -/
def envelopeType : StructType where
  head := ⟨"Envelope", "Envelope", ⟨"app", ["Envelope"]⟩⟩
  fields :=
    .cons ⟨"seal", some "seal"⟩
      (.struct ⟨"Seal", "Seal", ⟨"app", ["Seal"]⟩⟩
        (.cons ⟨"number", some "number"⟩ (.int .i16) .nil)) <|
      .cons ⟨"label", some "label"⟩ (.coded .ascii) .nil

/-- The built-in objects, the module and the two classes, the guard, an envelope, and the names of the
classes. -/
def envelopeObjects (init : Option Session.Code) (guard : Session.Code) :
    List (Node (Body Session.Code)) :=
  Builtin.all.map (fun b => ⟨.empty, b.body⟩) ++
    [⟨Bridge.attrsOf [("Envelope", ⟨17⟩), ("Seal", ⟨18⟩)], .module "app"⟩,
      ⟨Bridge.attrsOf [("__name__", ⟨21⟩)],
        .cls ⟨"app.Envelope", [Builtin.object.ref], [Builtin.object.ref], none⟩⟩,
      ⟨Bridge.attrsOf [("__name__", ⟨22⟩), ("__setattr__", ⟨19⟩)],
        .cls ⟨"app.Seal", [Builtin.object.ref], [Builtin.object.ref], init⟩⟩,
      ⟨.empty, .function guard⟩,
      ⟨Bridge.attrsOf [("label", Builtin.none.ref), ("note", Builtin.true.ref)],
        .instance ⟨17⟩ none⟩,
      ⟨.empty, .str "Envelope"⟩,
      ⟨.empty, .str "Seal"⟩]

/-- The world with these objects, in which the envelope is in a register. -/
def envelopeWorld (init : Option Session.Code) (guard : Session.Code) :
    World (Body Session.Code) :=
  { (World.empty : World (Body Session.Code)) with
    heap := ⟨((envelopeObjects init guard).map some).toArray⟩
    permanent := Builtin.all.length
    mark := Builtin.all.length
    modules := Bridge.attrsOf [("app", ⟨16⟩)]
    registers := Bridge.attrsOf [("envelope", ⟨20⟩)] }

/-- The classes of the two types. -/
def envelopeClasses (name : String) : Ref := if name = "Envelope" then ⟨17⟩ else ⟨18⟩

/-- An envelope with the seal 7 and a label of certain bytes. -/
def envelope (label : List UInt8) : Value := .record [.record [.int 7], .bytes label]

/-- The envelope in the register is in hand. -/
theorem inHand_envelope (init : Option Session.Code) (guard : Session.Code) :
    (envelopeWorld init guard).InHand ⟨20⟩ := by
  refine ⟨fun hr => ?_, fun hr => ?_⟩
  · subst hr
    exact ⟨_, rfl⟩
  · subst hr
    have hregister : (⟨20⟩ : Ref) ∈ (envelopeWorld init guard).registers.values := by
      show (⟨20⟩ : Ref) ∈ (Bridge.attrsOf [("envelope", ⟨20⟩)]).values
      decide
    refine .inr (.inr (.inl ?_))
    simp only [World.anchors, List.mem_append]
    exact .inl (.inl (.inr hregister))

/-- Code that only leaves a trace does nothing to the objects. -/
theorem record_spares {v : World (Body Session.Code)} {classes : String → Ref} {obj : Ref}
    (isFile : String → Bool) (h : Session.SessionHost) (name : String) (args : List Ref) :
    (Session.invoke isFile h (.record name) args).Within
      (World.Sparing (GrownFrom classes .session v) obj) := by
  refine fun w => .world (Action.WithinAt.bind_sparing ?_ fun _ _ _ _ _ _ _ => .of_unchanged rfl)
  exact fun _ hI _ => ⟨⟨hI.1.trans ⟨Nat.le_refl _, fun _ _ => rfl, rfl, fun _ => .inl rfl⟩, hI.2⟩,
    ⟨rfl, rfl, id, rfl, fun _ => rfl, Nat.le_refl _, fun _ _ _ => id⟩⟩

/-- The host of a session for the constructors and guards, which call no others. -/
def nestedHost : Session.SessionHost := Session.hostAt (fun _ => false) 1

/-- The host of a session that runs them. -/
def envelopeHost : Session.SessionHost :=
  host nestedHost (Session.invoke (fun _ => false) nestedHost)

/-- A world in which the constructor of seals and their guard only leave a trace. -/
def tracedWorld : World (Body Session.Code) :=
  envelopeWorld (some (.record "sealed")) (.record "set")

/-- The envelope is left alone there. -/
theorem undisturbed_envelope :
    Undisturbed (GrownFrom envelopeClasses .session tracedWorld) nestedHost
      (Session.invoke (fun _ => false) nestedHost) .session envelopeType 23 ⟨20⟩ := by
  have hnested : ∀ name path, envelopeType.fields.Mentions name path →
      name = "Seal" ∧ path = ⟨"app", ["Seal"]⟩ := by
    rintro name path (⟨-, ⟨rfl, rfl⟩ | ⟨-, hm⟩ | hm⟩ | ⟨-, hm⟩ | hm)
    · exact ⟨rfl, rfl⟩
    all_goals exact hm.elim
  refine Undisturbed.of_grown (v := tracedWorld) (issued_of_check (by decide)) (by decide)
    ⟨rfl, by decide⟩ ⟨⟨21⟩, "Envelope", rfl, rfl⟩ ?_ ?_ ?_ ?_
  · rintro name path (⟨rfl, rfl⟩ | hm) cls hfor
    · cases hfor
      rfl
    · obtain ⟨rfl, rfl⟩ := hnested name path hm
      cases hfor
      rfl
  · intro name path hm
    obtain ⟨rfl, rfl⟩ := hnested name path hm
    exact ⟨rfl, by decide⟩
  · intro name path code hm hcode args
    obtain ⟨rfl, rfl⟩ := hnested name path hm
    cases hcode
    exact record_spares _ _ _ args
  · intro name path guard w hm hguard hg args
    obtain ⟨rfl, rfl⟩ := hnested name path hm
    cases hguard
    refine .world ?_
    have hbody : body? w ⟨19⟩ = some (.function (.record "set")) := body?_of_grows hg (by decide)
    rw [hbody]
    exact .pinning_sparing (fun pinned hI => ⟨hI.1.pinned pinned, hI.2⟩)
      (record_spares _ _ _ args _)

/-- What there is of an attempt to fill the envelope if it fails: the error, and the note that the
envelope has then. -/
def failedNote (h : Host (Body Session.Code)) (v : Value) (w : World (Body Session.Code)) :
    Option (Error × Option Ref) :=
  match (structToHost h .session envelopeType v (some ⟨20⟩)).apply w with
  | (.error (.raised error), w') => some (error, w'.attrAt ⟨20⟩ "note")
  | _ => none

theorem failedNote_eq_some {h : Host (Body Session.Code)} {v : Value}
    {w : World (Body Session.Code)} {error : Error} {note : Option Ref}
    (hfails : failedNote h v w = some (error, note)) :
    ∃ w', (structToHost h .session envelopeType v (some ⟨20⟩)).apply w =
      (.error (.raised error), w') ∧ w'.attrAt ⟨20⟩ "note" = note := by
  unfold failedNote at hfails
  split at hfails
  · rename_i w' hrun
    cases hfails
    exact ⟨w', hrun, rfl⟩
  · cases hfails

/-- Why the byte 255 is no label. -/
def labelFault : CodecFault := ⟨"ascii", "decode", "byte 0xff in position 0"⟩

/-- An envelope is filled in place, and it is kept as it is where the label is none. -/
theorem envelope_filled_or_kept :
    (∃ attrs w₁ w', (structToHost envelopeHost .session envelopeType (envelope [0x61])
        (some ⟨20⟩)).apply tracedWorld = (.ok ⟨20⟩, w') ∧
      FilledInPlace .session envelopeType ⟨20⟩ tracedWorld attrs w₁ w' ∧
      w'.attrAt ⟨20⟩ "note" = some Builtin.true.ref) ∧
    ∃ w', (structToHost envelopeHost .session envelopeType (envelope [255])
        (some ⟨20⟩)).apply tracedWorld = (.error (.raised (.encoding labelFault)), w') ∧
      ∀ name, w'.attrAt ⟨20⟩ name = tracedWorld.attrAt ⟨20⟩ name := by
  have hends : ∀ v, InPlace envelopeHost .session envelopeType ⟨20⟩ tracedWorld v
      ((structToHost envelopeHost .session envelopeType v (some ⟨20⟩)).apply tracedWorld) :=
    structToHost_in_place undisturbed_envelope (by decide) ⟨.refl tracedWorld, by decide⟩
      (inHand_envelope _ _)
  constructor
  · have hfills : ((structToHost envelopeHost .session envelopeType (envelope [0x61])
        (some ⟨20⟩)).apply tracedWorld).1.toOption.isSome := by decide +kernel
    have hlabelled := hends (envelope [0x61])
    generalize (structToHost envelopeHost .session envelopeType (envelope [0x61])
      (some ⟨20⟩)).apply tracedWorld = ran at hfills hlabelled ⊢
    cases hlabelled with
    | failed _ => cases hfills
    | filled _ hfilled => exact ⟨_, _, _, rfl, hfilled, hfilled.others "note" (by decide)⟩
    | endless => cases hfills
  · have hnote : failedNote envelopeHost (envelope [255]) tracedWorld =
        some (.encoding labelFault, some Builtin.true.ref) := by decide +kernel
    obtain ⟨w', hrun, -⟩ := failedNote_eq_some hnote
    have hkept := hends (envelope [255])
    rw [hrun] at hkept
    cases hkept with
    | failed kept => exact ⟨w', hrun, kept⟩

/-- A guard that looks for the envelope. -/
def meddlingGuard : Session.Code :=
  .script [⟨.host (.setAttr (.register "envelope") "note" .none), none⟩]

/-- The label of an envelope cannot be converted, and the note of the existing envelope is another one
after that: the guard of the class of seals has changed it. -/
theorem nested_guard_moves_note :
    Unguarded (envelopeWorld none meddlingGuard) ⟨20⟩ ∧ envelopeType.fields.attrs.Nodup ∧
      (envelopeWorld none meddlingGuard).InHand ⟨20⟩ ∧
      initOf (envelopeWorld none meddlingGuard) ⟨18⟩ = none ∧
      (envelopeWorld none meddlingGuard).attrAt ⟨20⟩ "note" = some Builtin.true.ref ∧
      Codec.ascii.decode [255] = .error labelFault ∧
      ∃ w', (structToHost (Session.hostAt (fun _ => false) 4) .session envelopeType
          (envelope [255]) (some ⟨20⟩)).apply (envelopeWorld none meddlingGuard) =
            (.error (.raised (.encoding labelFault)), w') ∧
        w'.attrAt ⟨20⟩ "note" = some Builtin.none.ref := by
  have hnote : failedNote (Session.hostAt (fun _ => false) 4) (envelope [255])
      (envelopeWorld none meddlingGuard) =
        some (.encoding labelFault, some Builtin.none.ref) := by decide +kernel
  exact ⟨⟨rfl, by decide⟩, by decide, inHand_envelope _ _, rfl, rfl, by decide +kernel,
    failedNote_eq_some hnote⟩

end Marshal

end DdsBridge
