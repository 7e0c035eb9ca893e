import DdsBridge.Proofs.Bridge.Carries
import DdsBridge.Proofs.Bridge.Ready
import DdsBridge.Proofs.Text.Codec

/-!
# Objects that read back

A conversion to the host only adds to the world, so every part that was converted still reads as it
did when the whole is complete.

* **`ReadsBack`** — an object reads as a value, now and in every world that grows out of this one.
* **`readsBack_int`**, …, **`readsBack_struct`** — objects that do, by the type.
* **`assignAll_readsBack`** — converted fields on a new instance make it such an object.
-/

namespace DdsBridge.Marshal

open Memory

variable {C : Type} [HostCode C]

/-- Reading an object as a value of a type gives the value and changes nothing, in this world and in
every world that grows out of it, whatever host code there is. -/
def ReadsBack (classes : String → Ref) (store : ClassStore) (w : World (Body C)) (type : IdlType)
    (obj : Ref) (v : Value) : Prop :=
  ∀ (inner : Host (Body C)) (invoke : C → List Ref → MemoryAction C Ref) (w' : World (Body C)),
    w.Grows classes store w' →
      (fromHost (host inner invoke) store type obj).apply w' = (.ok v, w')

variable {inner : Host (Body C)} {invoke : C → List Ref → MemoryAction C Ref}
variable {classes : String → Ref} {store : ClassStore} {w₀ w w' : World (Body C)} {obj : Ref}

theorem ReadsBack.mono {type : IdlType} {v : Value} (h : ReadsBack classes store w type obj v)
    (hg : w.Grows classes store w') : ReadsBack classes store w' type obj v :=
  fun inner invoke _ hg' => h inner invoke _ (hg.trans hg')

omit [HostCode C] in
theorem body?_some_of_grows {body : Body C} (hg : w.Grows classes store w')
    (h : body? w obj = some body) : body? w' obj = some body := by
  obtain ⟨node, hnode, -⟩ := Option.map_eq_some_iff.mp h
  exact (body?_of_grows hg (Heap.lt_size_of_get? hnode)).trans h

omit [HostCode C] in
theorem body?_alloc (w : World (Body C)) (node : Node (Body C)) :
    body? { w with heap := (w.heap.alloc node).2 } (w.heap.alloc node).1 = some node.body := by
  rw [body?, Heap.get?_alloc_self]
  rfl

/-! ## Scalars -/

theorem readsBack_bool (b : Bool) :
    ReadsBack classes store w .bool (if b then Builtin.true.ref else Builtin.false.ref)
      (.bool b) := by
  intro inner invoke w' _
  rw [fromHost]
  cases b <;> rfl

omit [HostCode C] in
theorem asBounded_apply {least greatest n : Int} {low high : String}
    (hvalue : intValue? w obj = some n) (hleast : least ≤ n) (hgreatest : n ≤ greatest) :
    (asBounded least greatest low high obj : MemoryAction C Int).apply w = (.ok n, w) := by
  rw [asBounded, Action.apply_bind_of_ok (Action.apply_world w), hvalue]
  dsimp only
  rw [if_neg (by omega), if_neg (by omega)]
  rfl

theorem signed_bounds {kind : IntKind} (h : kind.isSigned = true) :
    Int64.minValue.toInt ≤ kind.least ∧ kind.greatest ≤ Int64.maxValue.toInt := by
  cases kind <;> first | decide | exact absurd h (by decide)

theorem unsigned_bounds {kind : IntKind} (h : kind.isSigned = false) :
    0 ≤ kind.least ∧ kind.greatest ≤ UInt64.size - 1 := by
  cases kind <;> first | decide | exact absurd h (by decide)

/-- The host's numbers of 64 bits contain every kind. -/
theorem asNumber_apply {kind : IntKind} {n : Int} (hn : kind.holds n = true)
    (hvalue : intValue? w obj = some n) :
    (if kind.isSigned then (host inner invoke).asSigned obj
      else (host inner invoke).asUnsigned obj).apply w = (.ok n, w) := by
  obtain ⟨hleast, hgreatest⟩ := IntKind.holds_iff.mp hn
  cases hsigned : kind.isSigned with
  | true =>
      have hbounds := signed_bounds hsigned
      rw [if_pos rfl]
      exact asBounded_apply hvalue (Int.le_trans hbounds.1 hleast)
        (Int.le_trans hgreatest hbounds.2)
  | false =>
      have hbounds := unsigned_bounds hsigned
      rw [if_neg (by simp)]
      exact asBounded_apply hvalue (Int.le_trans hbounds.1 hleast)
        (Int.le_trans hgreatest hbounds.2)

theorem intFromHost_apply {kind : IntKind} {n : Int} (hn : kind.holds n = true)
    (hvalue : intValue? w obj = some n) :
    (intFromHost (host inner invoke) kind obj).apply w = (.ok n, w) := by
  rw [intFromHost,
    Action.apply_bind_of_ok (Action.apply_attempt_of_ok (asNumber_apply hn hvalue))]
  dsimp only
  rw [if_pos hn]
  rfl

theorem readsBack_int {kind : IntKind} {n : Int} (hn : kind.holds n = true)
    (hbody : body? w obj = some (.int n)) :
    ReadsBack classes store w (.int kind) obj (.int n) := by
  intro inner invoke w' hg
  have hvalue : intValue? w' obj = some n := by rw [intValue?, body?_some_of_grows hg hbody]
  rw [fromHost, Action.apply_bind_of_ok (intFromHost_apply hn hvalue)]
  rfl

theorem readsBack_float {x : Number.Binary64} (hbody : body? w obj = some (.float x)) :
    ReadsBack classes store w .float64 obj (.float64 x) := by
  intro inner invoke w' hg
  have hfloat : ((host inner invoke).asFloat obj).apply w' = (.ok x, w') := by
    show (asFloat obj).apply w' = _
    rw [asFloat, Action.apply_bind_of_ok (Action.apply_world w'), body?_some_of_grows hg hbody]
    rfl
  have hread : (floatFromHost (host inner invoke) obj).apply w' = (.ok x, w') := by
    rw [floatFromHost, Action.apply_bind_of_ok (Action.apply_attempt_of_ok hfloat)]
    rfl
  rw [fromHost, Action.apply_bind_of_ok hread]
  rfl

theorem strOf_str {s : String} (hbody : body? w obj = some (.str s)) :
    ((host inner invoke).strOf obj).apply w = (.ok s, w) := by
  show (strOf inner obj).apply w = _
  rw [strOf, Action.apply_bind_of_ok (Action.apply_world w), hbody]
  dsimp only
  rw [strByKind, Action.apply_bind_of_ok (Action.apply_world w), hbody]
  rfl

theorem codedFromHost_apply {codec : Codec} {text : String} {bytes : List UInt8}
    (hbody : body? w obj = some (.str text)) (hbytes : codec.encode text = .ok bytes) :
    (codedFromHost (host inner invoke) codec obj).apply w = (.ok bytes, w) := by
  rw [codedFromHost, Action.apply_bind_of_ok (Action.apply_attempt_of_ok (strOf_str hbody))]
  dsimp only
  rw [hbytes]
  rfl

theorem readsBack_coded {codec : Codec} {text : String} {bytes : List UInt8}
    (hbody : body? w obj = some (.str text)) (hbytes : codec.encode text = .ok bytes) :
    ReadsBack classes store w (.coded codec) obj (.bytes bytes) := by
  intro inner invoke w' hg
  rw [fromHost,
    Action.apply_bind_of_ok (codedFromHost_apply (body?_some_of_grows hg hbody) hbytes)]
  rfl

theorem readsBack_text {s : String} (hbody : body? w obj = some (.str s)) :
    ReadsBack classes store w .string obj (.text s) := by
  intro inner invoke w' hg
  have hread : (textFromHost (host inner invoke) obj).apply w' = (.ok s, w') := by
    rw [textFromHost,
      Action.apply_bind_of_ok (codedFromHost_apply (body?_some_of_grows hg hbody) rfl),
      Codec.decode_encode rfl]
    rfl
  rw [fromHost, Action.apply_bind_of_ok hread]
  rfl

theorem readsBack_variant {e : EnumDef} {index : Nat} {n : Int} {cls : Ref}
    (hn : IntKind.u32.holds n = true) (hindex : variantIndex? e n = some index)
    (hbody : body? w obj = some (.instance cls (some n))) :
    ReadsBack classes store w (.enumeration e) obj (.variant index) := by
  intro inner invoke w' hg
  have hvalue : intValue? w' obj = some n := by rw [intValue?, body?_some_of_grows hg hbody]
  have hread : (variantFromHost (host inner invoke) e obj).apply w' = (.ok index, w') := by
    rw [variantFromHost, Action.apply_bind_of_ok (intFromHost_apply hn hvalue), hindex]
    rfl
  rw [fromHost, Action.apply_bind_of_ok hread]
  rfl

/-! ## Sequences -/

/-- Reading objects one after the other gives the values. -/
def AllReadBack (classes : String → Ref) (store : ClassStore) (w : World (Body C)) (item : IdlType)
    (objs : List Ref) (values : List Value) : Prop :=
  ∀ (inner : Host (Body C)) (invoke : C → List Ref → MemoryAction C Ref) (w' : World (Body C)),
    w.Grows classes store w' →
      (objs.mapM (fromHost (host inner invoke) store item)).apply w' = (.ok values, w')

theorem ReadsBack.cons {item : IdlType} {v : Value} {objs : List Ref} {values : List Value}
    (h : ReadsBack classes store w item obj v)
    (hrest : AllReadBack classes store w item objs values) :
    AllReadBack classes store w item (obj :: objs) (v :: values) := by
  intro inner invoke w' hg
  rw [List.mapM_cons, Action.apply_bind_of_ok (h inner invoke w' hg),
    Action.apply_bind_of_ok (hrest inner invoke w' hg)]
  rfl

theorem readsBack_seq {item : IdlType} {objs : List Ref} {values : List Value}
    (hbody : body? w obj = some (.list objs)) (h : AllReadBack classes store w item objs values) :
    ReadsBack classes store w (.seq item) obj (.seq values) := by
  intro inner invoke w' hg
  have hlist : ((host inner invoke).listItems obj).apply w' = (.ok objs, w') := by
    show (listItems obj).apply w' = _
    rw [listItems, Action.apply_bind_of_ok (Action.apply_world w'), body?_some_of_grows hg hbody]
    rfl
  have hread : (readItems (fromHost (host inner invoke) store item) objs).apply w' =
      (.ok values, w') :=
    Action.apply_pinning_of_unchanged (h inner invoke _ (hg.pinned _))
  rw [fromHost, Action.apply_bind_of_ok (Action.apply_attempt_of_ok hlist)]
  dsimp only
  rw [Action.apply_bind_of_ok hread]
  rfl

/-! ## Structures -/

/-- Reading the fields of an instance with certain attributes gives the values. -/
def FieldsReadBack (classes : String → Ref) (store : ClassStore) (w : World (Body C))
    (fields : Fields) (attrs : List (String × Ref)) (values : List Value) : Prop :=
  ∀ (inner : Host (Body C)) (invoke : C → List Ref → MemoryAction C Ref) (w' : World (Body C))
    (obj : Ref), w.Grows classes store w' →
      (∀ attr ∈ attrs, ownAttr? w' obj attr.1 = some attr.2) →
      (fieldsFromHost (host inner invoke) store fields obj).apply w' = (.ok values, w')

theorem FieldsReadBack.mono {fields : Fields} {attrs : List (String × Ref)} {values : List Value}
    (h : FieldsReadBack classes store w fields attrs values) (hg : w.Grows classes store w') :
    FieldsReadBack classes store w' fields attrs values :=
  fun inner invoke _ obj hg' hattrs => h inner invoke _ obj (hg.trans hg') hattrs

/-- A field that the host does not see. -/
theorem FieldsReadBack.hidden {field : FieldName} {type : IdlType} {rest : Fields}
    {attrs : List (String × Ref)} {values : List Value} (hname : field.hostName = none)
    (h : FieldsReadBack classes store w rest attrs values) :
    FieldsReadBack classes store w (.cons field type rest) attrs (type.default :: values) := by
  intro inner invoke w' obj hg hattrs
  rw [fieldsFromHost, hname]
  dsimp only
  rw [Action.apply_bind_of_ok (Action.apply_pure _ w'),
    Action.apply_bind_of_ok (h inner invoke w' obj hg hattrs)]
  rfl

/-- A field that the host sees. -/
theorem FieldsReadBack.seen {field : FieldName} {type : IdlType} {rest : Fields} {name : String}
    {x : Ref} {v : Value} {attrs : List (String × Ref)} {values : List Value}
    (hname : field.hostName = some name) (hv : ReadsBack classes store w type x v)
    (h : FieldsReadBack classes store w rest attrs values) :
    FieldsReadBack classes store w (.cons field type rest) ((name, x) :: attrs) (v :: values) := by
  intro inner invoke w' obj hg hattrs
  obtain ⟨hx, hrest⟩ := List.forall_mem_cons.mp hattrs
  have hlookup : lookup w' obj name = some x := by
    simp only [lookup, hx]
    rfl
  have hget : (liftM ((host inner invoke).getAttr obj name) : BridgeAction (Body C) Ref).apply w' =
      (.ok x, w') := Action.apply_lift_of_ok (getAttr_found hlookup)
  have hread : (Action.pinning [x] (fromHost (host inner invoke) store type x)).apply w' =
      (.ok v, w') := Action.apply_pinning_of_unchanged (hv inner invoke _ (hg.pinned _))
  rw [fieldsFromHost, hname]
  dsimp only
  rw [Action.apply_bind_of_ok hget, Action.apply_bind_of_ok hread,
    Action.apply_bind_of_ok (h inner invoke w' obj hg hrest)]
  rfl

/-- An instance of the class of a structure. -/
theorem readsBack_struct {head : StructHead} {fields : Fields} {attrs : List (String × Ref)}
    {values : List Value} {node : Node (Body C)} {value : Option Int}
    (hcls : (w.classes store).get? head.name = some (classes head.name))
    (hobj : w.heap.get? obj = some node)
    (hbody : node.body = .instance (classes head.name) value)
    (hattrs : ∀ attr ∈ attrs, node.attrs.get? attr.1 = some attr.2)
    (h : FieldsReadBack classes store w fields attrs values) :
    ReadsBack classes store w (.struct head fields) obj (.record values) := by
  intro inner invoke w' hg
  have hobj' : w'.heap.get? obj = some node := (hg.old obj (Heap.lt_size_of_get? hobj)).trans hobj
  have htype : (host inner invoke).typeOf w' obj = classes head.name := by
    show typeOf w' obj = _
    rw [typeOf, body?, hobj', Option.map_some, hbody]
  have hfound : (liftM (classOf (host inner invoke) store head.name head.host) :
      BridgeAction (Body C) Ref).apply w' = (.ok (classes head.name), w') :=
    Action.apply_lift_of_ok (classOf_remembered (hg.classes_eq hcls))
  have hcheck : (checkInstance (host inner invoke) store head obj).apply w' = (.ok (), w') := by
    rw [checkInstance, Action.apply_bind_of_ok hfound,
      Action.apply_bind_of_ok (Action.apply_world w'), if_neg (by rw [htype]; simp)]
    rfl
  have hfields := h inner invoke w' obj hg fun attr hattr => by
    rw [ownAttr?, hobj']
    exact hattrs attr hattr
  rw [fromHost, Action.apply_bind_of_ok hcheck, Action.apply_bind_of_ok hfields]
  rfl

/-! ## Making instances -/

/-- Assignments one after the other. -/
def assignEach {B : Type} (h : Host B) (target : Ref) : List (String × Ref) → BridgeAction B Unit
  | [] => return
  | (name, value) :: rest => do
    h.setAttr target name value
    assignEach h target rest

theorem assignAll_eq {B : Type} (h : Host B) (target : Ref) (attrs : List (String × Ref)) :
    assignAll h target attrs =
      Action.pinning (target :: attrs.map Prod.snd) (assignEach h target attrs) := by
  rw [assignAll]
  refine congrArg (Action.pinning _) ?_
  induction attrs with
  | nil => rfl
  | cons attr rest ih =>
      rw [List.forIn_cons, assignEach, ← ih]
      simp only [bind_assoc, pure_bind]

/-- Assignments to a new instance leave all attributes there, and touch nothing else. -/
structure Assigned (classes : String → Ref) (store : ClassStore) (w w' : World (Body C))
    (target : Ref) (before : Node (Body C)) (attrs : List (String × Ref)) (after : Node (Body C)) :
    Prop where
  grows : ∀ w₀ : World (Body C), w₀.Grows classes store w → w₀.heap.size ≤ target.id →
    w₀.Grows classes store w'
  beside : ∃ heap, w' = { w with heap }
  found : w'.heap.get? target = some after
  body : after.body = before.body
  kept : ∀ name x, name ∉ attrs.map Prod.fst → before.attrs.get? name = some x →
    after.attrs.get? name = some x
  assigned : ∀ attr ∈ attrs, after.attrs.get? attr.1 = some attr.2

omit [HostCode C] in
theorem Assigned.classes_eq {target : Ref} {before after : Node (Body C)}
    {attrs : List (String × Ref)} (h : Assigned classes store w w' target before attrs after) :
    w'.classes store = w.classes store := by
  obtain ⟨heap, rfl⟩ := h.beside
  cases store <;> rfl

variable (inner) (invoke) in
/-- Assigning attributes to a new instance of a class without a guard. It does not have them yet, or
else nothing is left that could go when one of its own is replaced. -/
theorem assignEach_new (target : Ref) (hi : Issued w₀) {cls : Ref}
    (hcls : (classInfo? w₀ cls).isSome) (hunguarded : lookupInClass w₀ cls "__setattr__" = none)
    (hnew : w₀.heap.size ≤ target.id) {attrs : List (String × Ref)}
    (hnodup : (attrs.map Prod.fst).Nodup) {node : Node (Body C)} {value : Option Int}
    (hg : w₀.Grows classes store w) (hobj : w.heap.get? target = some node)
    (hbody : node.body = .instance cls value)
    (hquiet : (∀ attr ∈ attrs, node.attrs.get? attr.1 = none) ∨
      (w₀.Settled ∧ w₀.Extends classes store w)) :
    ∃ w' after, (assignEach (host inner invoke) target attrs).apply w = (.ok (), w') ∧
      Assigned classes store w w' target node attrs after := by
  induction attrs generalizing w node with
  | nil => exact ⟨w, node, rfl, fun _ h _ => h, ⟨_, rfl⟩, hobj, rfl, fun _ _ _ h => h,
      fun attr hattr => absurd hattr List.not_mem_nil⟩
  | cons attr rest ih =>
      obtain ⟨name, x⟩ := attr
      obtain ⟨hfirst, hrest⟩ := List.nodup_cons.mp hnodup
      obtain ⟨info, hinfo⟩ := Option.isSome_iff_exists.mp hcls
      let node₁ : Node (Body C) := { node with attrs := node.attrs.insert name x }
      have hstored : (w.heap.set target node₁).get? target = some node₁ := by
        rw [Heap.get?_set hobj, if_pos rfl]
      have hset : (liftM ((host inner invoke).setAttr target name x) :
          BridgeAction (Body C) Unit).apply w =
            (.ok (), { w with heap := w.heap.set target node₁ }) := by
        have hguard : lookupInClass w cls "__setattr__" = none :=
          (lookupInClass_of_grows hg hi (lt_of_classInfo? hinfo) _).trans hunguarded
        -- storing collects nothing: the name is new here, or whatever it named is held elsewhere
        have hclean := hquiet.imp (fun hfree => hfree (name, x) List.mem_cons_self)
          fun hs => (hs.1.of_extends (hs.2.set hobj hnew node₁)).clean
        exact Action.apply_lift_of_ok
          ((setAttr_unguarded hobj hbody hguard).trans (by rw [World.storeAttr_eq hobj hclean]))
      have hstillQuiet : (∀ attr ∈ rest, node₁.attrs.get? attr.1 = none) ∨
          (w₀.Settled ∧
            w₀.Extends classes store { w with heap := w.heap.set target node₁ }) := by
        refine hquiet.imp (fun hfree attr hattr => ?_) fun hs => ⟨hs.1, hs.2.set hobj hnew node₁⟩
        have hmem : attr.1 ∈ rest.map Prod.fst := List.mem_map_of_mem hattr
        have hne : attr.1 ≠ name := fun he => hfirst (he ▸ hmem)
        rw [Table.get?_insert, if_neg hne]
        exact hfree attr (List.mem_cons_of_mem _ hattr)
      obtain ⟨w', after, hrun, hassigned⟩ :=
        ih hrest (hg.set hobj hnew node₁) hstored hbody hstillQuiet
      refine ⟨w', after, ?_, ?_⟩
      · rw [assignEach, Action.apply_bind_of_ok hset]
        exact hrun
      · -- the assignments that follow are to other names
        have hlast : after.attrs.get? name = some x :=
          hassigned.kept name x hfirst (by
            show (node.attrs.insert name x).get? name = some x
            rw [Table.get?_insert, if_pos rfl])
        exact
          { grows := fun v hv hlt => hassigned.grows v (hv.set hobj hlt node₁) hlt
            beside := hassigned.beside
            found := hassigned.found
            body := hassigned.body
            kept := fun other y hother hy => by
              obtain ⟨hne, hother⟩ := not_or.mp fun h => hother (List.mem_cons.mpr h)
              refine hassigned.kept other y hother ?_
              show (node.attrs.insert name x).get? other = some y
              rw [Table.get?_insert, if_neg hne]
              exact hy
            assigned := List.forall_mem_cons.mpr ⟨hlast, hassigned.assigned⟩ }

variable (inner) (invoke) in
/-- Converted fields on a new instance, which was made in a world that grew to one in which its
class is remembered. -/
theorem assignAll_readsBack (w₁ : World (Body C)) (target : Ref) (hi : Issued w₀)
    (hg₀ : w₀.Grows classes store w) (hg : w.Grows classes store w₁) {head : StructHead}
    {fields : Fields} {attrs : List (String × Ref)} {values : List Value} {node : Node (Body C)}
    {value : Option Int} (hcls : (classInfo? w₀ (classes head.name)).isSome)
    (hunguarded : lookupInClass w₀ (classes head.name) "__setattr__" = none)
    (hremembered : (w₁.classes store).get? head.name = some (classes head.name))
    (hnew : w.heap.size ≤ target.id) (hobj : w₁.heap.get? target = some node)
    (hbody : node.body = .instance (classes head.name) value)
    (hquiet : (∀ attr ∈ attrs, node.attrs.get? attr.1 = none) ∨
      (w₀.Settled ∧ w₀.Extends classes store w₁))
    (hnodup : (attrs.map Prod.fst).Nodup) (h : FieldsReadBack classes store w fields attrs values) :
    ∃ heap, (assignAll (host inner invoke) target attrs).apply w₁ = (.ok (), { w₁ with heap }) ∧
      w.Grows classes store { w₁ with heap } ∧
      ReadsBack classes store { w₁ with heap } (.struct head fields) target (.record values) ∧
      Memory.typeOf { w₁ with heap } target = classes head.name := by
  obtain ⟨w₂, after, hrun, hassigned⟩ := assignEach_new inner invoke target
    (w := { w₁ with pinned := (target :: attrs.map Prod.snd) ++ w₁.pinned })
    hi hcls hunguarded (Nat.le_trans hg₀.size_le hnew) hnodup ((hg₀.trans hg).pinned _) hobj hbody
    (hquiet.imp id fun hs => ⟨hs.1, hs.2.pin _⟩)
  have hclasses := hassigned.classes_eq
  have hgrown := hassigned.grows w (hg.pinned _) hnew
  have hfound := hassigned.found
  obtain ⟨heap, rfl⟩ := hassigned.beside
  have hfinal : w.Grows classes store { w₁ with heap } := hgrown.pinned _
  have hassign : (assignAll (host inner invoke) target attrs).apply w₁ =
      (.ok (), { w₁ with heap }) := by
    rw [assignAll_eq, Action.apply_pinning, hrun]
  have hsame : World.classes { w₁ with heap } store = w₁.classes store := by
    cases store <;> exact hclasses
  refine ⟨heap, hassign, hfinal, ?_, ?_⟩
  · exact readsBack_struct (hsame ▸ hremembered) hfound (hassigned.body.trans hbody)
      hassigned.assigned (h.mono hfinal)
  · rw [Memory.typeOf, body?, show heap.get? target = some after from hfound, Option.map_some,
      hassigned.body, hbody]

end DdsBridge.Marshal
