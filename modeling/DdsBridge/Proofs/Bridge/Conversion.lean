import DdsBridge.Proofs.Bridge.Carries
import DdsBridge.Proofs.Bridge.Construction
import DdsBridge.Proofs.Bridge.Marshal
import DdsBridge.Proofs.Text.Codec

/-!
# Conversions to the host

Whatever value of a type was converted to a host object, the object reads as that value, up to the
fields that the host does not see. Nothing is assumed of how the conversion ends: where it did, the
classes that it needed were found, the bytes of coded texts were texts, and by induction on the type
every part that was converted reads back in the world in which the whole is complete.

That it ends is another matter. A value that came from the host is converted if the classes of its
type are ready, and what was said of any conversion is then true of this one.

* **`IdlType.seen`**, **`Fields.seen`** — what the host sees of a value.
* **`IdlType.Hosted`**, **`Fields.Hosted`** — types whose classes can stand for them.
* **`toHost_eq_ok`** — what was converted reads back.
* **`toHost_ready`** — what came from the host is converted, if the classes are ready.
* **`toHost_struct`** — both together, for the structure of a sample.
-/

namespace DdsBridge

open Memory

variable {C : Type} [HostCode C]

mutual

/-- What the host sees of a value: the fields that it does not see have the value that nobody set. -/
def IdlType.seen : IdlType → Value → Value
  | .struct _ fields, .record values => .record (fields.seen values)
  | .seq item, .seq items => .seq (items.map item.seen)
  | _, v => v

/-- What the host sees of the values of fields. -/
def Fields.seen : Fields → List Value → List Value
  | .cons field type rest, v :: values =>
    (match field.hostName with
      | none => type.default
      | some _ => type.seen v) :: rest.seen values
  | _, values => values

end

mutual

/-- Where the names of a type and of everything that the host sees in it lead to classes, these are
classes that can stand for it. Of a name that leads nowhere, `classes` may say any class of the kind,
such as the base of all. -/
def IdlType.Hosted (inner : Host (Body C)) (classes : String → Ref) (store : ClassStore)
    (w : World (Body C)) : IdlType → Prop
  | .enumeration e => LeadsTo classes store w e.name e.host ∧ NumberClass w (classes e.name)
  | .struct head fields =>
    LeadsTo classes store w head.name head.host ∧ StructClass inner w (classes head.name) ∧
      fields.Hosted inner classes store w
  | .seq item => item.Hosted inner classes store w
  | _ => True

/-- The same of the types of the fields that the host sees. -/
def Fields.Hosted (inner : Host (Body C)) (classes : String → Ref) (store : ClassStore)
    (w : World (Body C)) : Fields → Prop
  | .nil => True
  | .cons field type rest =>
    (field.hostName.isSome → type.Hosted inner classes store w) ∧
      rest.Hosted inner classes store w

end

variable {inner : Host (Body C)} {classes : String → Ref} {store : ClassStore} {w : World (Body C)}

mutual

/-- Classes that are ready can stand for their type. -/
theorem IdlType.Ready.hosted : ∀ {type : IdlType}, type.Ready classes store w →
    type.Hosted inner classes store w
  | .enumeration _, h => ⟨h.1.leadsTo, h.2⟩
  | .struct _ _, h =>
    ⟨h.1.leadsTo, h.2.1.structClass, Fields.Ready.hosted h.2.2⟩
  | .seq item, h => show item.Hosted inner classes store w from IdlType.Ready.hosted h
  | .bool, _ | .int _, _ | .float32, _ | .float64, _ | .string, _ | .coded _, _ => trivial

theorem Fields.Ready.hosted : ∀ {fields : Fields}, fields.Ready classes store w →
    fields.Hosted inner classes store w
  | .nil, _ => trivial
  | .cons _ _ _, h => ⟨fun _ => IdlType.Ready.hosted h.1, Fields.Ready.hosted h.2⟩

end

mutual

/-- The host sees the whole of a value that came from it. -/
theorem IdlType.Carries.seen_eq : ∀ {type : IdlType} {v : Value}, type.Carries v → type.seen v = v
  | .struct _ fields, .record values, h => by
      rw [IdlType.seen, Fields.Carry.seen_eq h]
  | .seq item, .seq items, h => by
      rw [IdlType.seen, List.map_congr_left fun v hv => IdlType.Carries.seen_eq (h v hv),
        List.map_id']
  | .bool, v, _ | .int _, v, _ | .float32, v, _ | .float64, v, _ | .string, v, _
  | .coded _, v, _ | .enumeration _, v, _ => by cases v <;> rfl

theorem Fields.Carry.seen_eq : ∀ {fields : Fields} {values : List Value}, fields.Carry values →
    fields.seen values = values
  | .nil, _, _ => rfl
  | .cons field type rest, v :: values, ⟨hv, hrest⟩ => by
      rw [Fields.seen, Fields.Carry.seen_eq hrest]
      cases hname : field.hostName with
      | none =>
          rw [hname] at hv
          rw [hv]
      | some name =>
          rw [hname] at hv
          rw [IdlType.Carries.seen_eq hv]

end

namespace Marshal

variable {inner : Host (Body C)} {invoke : C → List Ref → MemoryAction C Ref}
variable {classes : String → Ref} {store : ClassStore} {w₀ w w₁ w' : World (Body C)} {obj : Ref}

/-! ## Enumerators -/

/-- The value of an enumerator. -/
def valueAt (e : EnumDef) (index : Nat) : Nat := (e.variants[index]?.map Prod.snd).getD 0

theorem valueAt_of_lt {e : EnumDef} {index : Nat} (hlt : index < e.variants.length) :
    valueAt e index = e.variants[index].2 := by
  rw [valueAt, List.getElem?_eq_getElem hlt]
  rfl

theorem valueAt_holds {e : EnumDef} (he : e.WellFormed) {index : Nat}
    (hlt : index < e.variants.length) : IntKind.u32.holds (valueAt e index) = true := by
  have hbound := he.bounded _ (List.getElem_mem hlt)
  rw [← valueAt_of_lt hlt] at hbound
  refine IntKind.holds_iff.mpr ⟨Int.natCast_nonneg _, ?_⟩
  show (valueAt e index : Int) ≤ Nat.pow 2 32 - 1
  omega

/-- An enumerator is found by its value. -/
theorem variantIndex?_of_lt {e : EnumDef} (he : e.WellFormed) {index : Nat}
    (hlt : index < e.variants.length) : variantIndex? e (valueAt e index) = some index := by
  rw [valueAt_of_lt hlt]
  refine List.findIdx?_eq_some_iff_getElem.mpr ⟨hlt, decide_eq_true rfl, fun j hj hsame => ?_⟩
  have hdifferent := List.pairwise_iff_getElem.mp he.distinct j index
    (by rw [List.length_map]; omega) (by rw [List.length_map]; exact hlt) hj
  rw [List.getElem_map, List.getElem_map] at hdifferent
  exact hdifferent (Int.ofNat.inj (of_decide_eq_true hsame))

/-- The class of an enumeration was found, so an instance is made from the value of the enumerator. -/
theorem variantToHost_found (hi : Issued w₀) (hx : w₀.Extends classes store w₁) {e : EnumDef}
    (index : Nat) (hnumber : NumberClass w₀ (classes e.name))
    (hfound : (classOf (host inner invoke) store e.name e.host).apply w =
      (.ok (classes e.name), w₁)) :
    ∃ obj w', (variantToHost (host inner invoke) store e index).apply w = (.ok obj, w') ∧
      w₁.Extends classes store w' ∧
      body? w' obj = some (.instance (classes e.name) (some (valueAt e index))) := by
  obtain ⟨arg, w₂, hint, hx₂, harg⟩ : ∃ arg w₂,
      ((host inner invoke).newInt (valueAt e index)).apply w₁ = (.ok arg, w₂) ∧
        w₁.Extends classes store w₂ ∧ body? w₂ arg = some (.int (valueAt e index)) :=
    ⟨_, _, rfl, .alloc w₁ _, body?_alloc w₁ _⟩
  have hvalue : intValue? w₂ arg = some (valueAt e index : Int) := by rw [intValue?, harg]
  obtain ⟨obj, w₃, hcall, hx₃, hbody⟩ : ∃ obj w₃,
      ((host inner invoke).call (classes e.name) [arg]).apply w₂ = (.ok obj, w₃) ∧
        w₂.Extends classes store w₃ ∧
        body? w₃ obj = some (.instance (classes e.name) (some (valueAt e index))) :=
    ⟨_, _, call_number hi (hx.trans hx₂).toGrows hnumber hvalue, .alloc w₂ _, body?_alloc w₂ _⟩
  refine ⟨obj, w₃, ?_, hx₂.trans hx₃, hbody⟩
  rw [variantToHost, Action.apply_bind_of_ok (Action.apply_lift_of_ok hfound)]
  refine (Action.apply_bind_of_ok (Action.apply_lift_of_ok hint)).trans ?_
  exact Action.apply_lift_of_ok hcall

/-- The instance that was made from an enumerator has its value. -/
theorem variantToHost_eq_ok (hi : Issued w₀) (hx : w₀.Extends classes store w) {e : EnumDef}
    {index : Nat} (hleads : LeadsTo classes store w₀ e.name e.host)
    (hnumber : NumberClass w₀ (classes e.name))
    (hok : (variantToHost (host inner invoke) store e index).apply w = (.ok obj, w')) :
    w.Extends classes store w' ∧
      body? w' obj = some (.instance (classes e.name) (some (valueAt e index))) := by
  obtain ⟨cls, w₁, hfound, -⟩ := Action.apply_bind_eq_ok_iff.mp hok
  have hfound := Action.apply_lift_eq_ok hfound
  obtain ⟨rfl, hx₁, -, -⟩ := classOf_eq_ok hi hx hleads hfound
  obtain ⟨_, _, hrun, hx₂, hbody⟩ := variantToHost_found hi (hx.trans hx₁) index hnumber hfound
  cases hrun.symm.trans hok
  exact ⟨hx₁.trans hx₂, hbody⟩

/-! ## Structures -/

/-- The instance that was made for a structure is new, and its class is remembered. -/
theorem newInstance_eq_ok (hi : Issued w₀) (hx : w₀.Extends classes store w) {head : StructHead}
    (hleads : LeadsTo classes store w₀ head.name head.host)
    (hclass : StructClass inner w₀ (classes head.name))
    (hok : (newInstance (host inner invoke) store head).apply w = (.ok obj, w')) :
    w.heap.size ≤ obj.id ∧ w.Extends classes store w' ∧
      (w'.classes store).get? head.name = some (classes head.name) ∧
      ∃ node, Fresh w₀ w' (classes head.name) obj node := by
  obtain ⟨cls, w₁, hfound, hok⟩ := Action.apply_bind_eq_ok_iff.mp hok
  obtain ⟨rfl, hx₁, hremembered, -⟩ := classOf_eq_ok hi hx hleads (Action.apply_lift_eq_ok hfound)
  obtain ⟨rfl, heap, node, rfl, hgrown, hfresh⟩ :=
    call_eq_ok hclass hi (hx.trans hx₁).toGrows (Action.apply_lift_eq_ok hok)
  exact ⟨hx₁.size_le, hx₁.trans ((World.Extends.refl w₁).heap hgrown),
    by cases store <;> exact hremembered, node, hfresh⟩

/-- An instance was made for a structure, so the converted fields are stored on it and read back. -/
theorem fillInstance_made (hi : Issued w₀) (hx : w₀.Extends classes store w) {head : StructHead}
    (hleads : LeadsTo classes store w₀ head.name head.host)
    (hclass : StructClass inner w₀ (classes head.name)) {fields : Fields}
    {attrs : List (String × Ref)} {values : List Value} (hnodup : (attrs.map Prod.fst).Nodup)
    (hread : FieldsReadBack classes store w fields attrs values)
    (hmade : (newInstance (host inner invoke) store head).apply
      { w with pinned := attrs.map Prod.snd ++ w.pinned } = (.ok obj, w₁)) :
    ∃ w', (fillInstance (host inner invoke) store head none attrs).apply w = (.ok obj, w') ∧
      w.Extends classes store w' ∧
      ReadsBack classes store w' (.struct head fields) obj (.record values) ∧
      w.heap.size ≤ obj.id ∧ Memory.typeOf w' obj = classes head.name := by
  obtain ⟨hnew, hx₁, hremembered, node, hfresh⟩ :=
    newInstance_eq_ok hi (hx.pin (attrs.map Prod.snd)) hleads hclass hmade
  have hgrown : w.Extends classes store { w₁ with pinned := w.pinned } := hx₁.unpin
  obtain ⟨value, hbody⟩ := hfresh.body
  have hquiet : (∀ attr ∈ attrs, node.attrs.get? attr.1 = none) ∨
      (w₀.Settled ∧ w₀.Extends classes store { w₁ with pinned := w.pinned }) :=
    hfresh.quiet.imp (fun hempty _ _ => by rw [hempty]; rfl) fun hs => ⟨hs, hx.trans hgrown⟩
  obtain ⟨heap, hassign, hfinal, hreads, hcls⟩ := assignAll_readsBack inner invoke
    { w₁ with pinned := w.pinned } obj hi hx.toGrows hgrown.toGrows hclass.isClass
    hclass.unguarded (by cases store <;> exact hremembered) hnew hfresh.made hbody hquiet hnodup hread
  have htarget : (Action.pinning (attrs.map Prod.snd)
      (newInstance (host inner invoke) store head)).apply w =
        (.ok obj, { w₁ with pinned := w.pinned }) := by
    rw [Action.apply_pinning, hmade]
  refine ⟨_, ?_, hgrown.heap hfinal, hreads, hnew, hcls⟩
  rw [fillInstance, Action.apply_bind_of_ok htarget, Action.apply_bind_of_ok hassign]
  rfl

/-- What a structure was converted to is a new instance of its class, and it reads back if its
converted fields do. -/
theorem struct_eq_ok (hi : Issued w₀) (hx : w₀.Extends classes store w) {head : StructHead}
    {fields : Fields} {values seen : List Value}
    (hleads : LeadsTo classes store w₀ head.name head.host)
    (hclass : StructClass inner w₀ (classes head.name)) (hnodup : fields.attrs.Nodup)
    (hfields : ∀ attrs w₁,
      (fieldsToHost (host inner invoke) store fields values).apply w = (.ok attrs, w₁) →
        w.Extends classes store w₁ ∧ FieldsReadBack classes store w₁ fields attrs seen)
    (hok : (toHost (host inner invoke) store (.struct head fields) (.record values)).apply w =
      (.ok obj, w')) :
    w.Extends classes store w' ∧
      ReadsBack classes store w' (.struct head fields) obj (.record seen) ∧
      w.heap.size ≤ obj.id ∧ Memory.typeOf w' obj = classes head.name := by
  rw [toHost] at hok
  obtain ⟨attrs, w₁, hattrs, hok⟩ := Action.apply_bind_eq_ok_iff.mp hok
  obtain ⟨hx₁, hread⟩ := hfields attrs w₁ hattrs
  obtain ⟨target, _, hpinning, -⟩ := Action.apply_bind_eq_ok_iff.mp hok
  obtain ⟨w₂, hmade, -⟩ := Action.apply_pinning_eq_ok hpinning
  obtain ⟨_, hrun, hx₂, hreads, hnew, hcls⟩ := fillInstance_made hi (hx.trans hx₁) hleads hclass
    (fieldsToHost_attrs hattrs ▸ hnodup) hread hmade
  cases hrun.symm.trans hok
  exact ⟨hx₁.trans hx₂, hreads, Nat.le_trans hx₁.size_le hnew, hcls⟩

/-! ## Sequences -/

/-- Items that were converted one after the other read back as what each of them reads as. -/
theorem convertItems_eq_ok {item : IdlType} {x : Value → BridgeAction (Body C) Ref}
    {shown : Value → Value} {values : List Value}
    (hitem : ∀ v ∈ values, ∀ w w' obj, w₀.Extends classes store w →
      (x v).apply w = (.ok obj, w') →
      w.Extends classes store w' ∧ ReadsBack classes store w' item obj (shown v))
    (hx : w₀.Extends classes store w) {objs : List Ref}
    (hok : (convertItems x values).apply w = (.ok objs, w')) :
    w.Extends classes store w' ∧
      AllReadBack classes store w' item objs (values.map shown) := by
  induction values generalizing w w' objs with
  | nil =>
      cases hok
      exact ⟨.refl w, fun _ _ _ _ => rfl⟩
  | cons v rest ih =>
      obtain ⟨hv, hrest⟩ := List.forall_mem_cons.mp hitem
      obtain ⟨obj, w₁, hobj, hok⟩ := Action.apply_bind_eq_ok_iff.mp hok
      obtain ⟨hx₁, hread⟩ := hv w w₁ obj hx hobj
      obtain ⟨more, _, hpinning, hok⟩ := Action.apply_bind_eq_ok_iff.mp hok
      obtain ⟨w₂, hmore, rfl⟩ := Action.apply_pinning_eq_ok hpinning
      cases hok
      obtain ⟨hx₂, hreads⟩ := ih hrest ((hx.trans hx₁).pin [obj]) hmore
      have hx₃ : w₁.Extends classes store { w₂ with pinned := w₁.pinned } := hx₂.unpin
      exact ⟨hx₁.trans hx₃, (hread.mono hx₃.toGrows).cons fun inner invoke w' hg =>
        hreads inner invoke w' (World.Grows.trans ((World.Grows.refl w₂).pinned _) hg)⟩

/-! ## What was converted -/

mutual

/-- What a value was converted to reads back as what the host sees of it. -/
theorem toHost_eq_ok : ∀ {type : IdlType} {v : Value} {w w' : World (Body C)} {obj : Ref},
    type.Exact → type.Admits v → type.Hosted inner classes store w₀ → Issued w₀ →
    w₀.Extends classes store w → (toHost (host inner invoke) store type v).apply w = (.ok obj, w') →
    w.Extends classes store w' ∧ ReadsBack classes store w' type obj (type.seen v)
  | .bool, v, w, w', obj, _, hv, _, _, _, hok => by
      cases v with
      | bool b =>
          cases hok
          exact ⟨.refl w, readsBack_bool b⟩
      | _ => exact hv.elim
  | .int kind, v, w, w', obj, _, hv, _, _, _, hok => by
      cases v with
      | int n =>
          cases Action.apply_lift_eq_ok hok
          exact ⟨.alloc w ⟨.empty, .int n⟩,
            readsBack_int (IntKind.holds_iff.mpr hv) (body?_alloc w _)⟩
      | _ => exact hv.elim
  | .float64, v, w, w', obj, _, hv, _, _, _, hok => by
      cases v with
      | float64 x =>
          cases Action.apply_lift_eq_ok hok
          exact ⟨.alloc w ⟨.empty, .float x⟩, readsBack_float (body?_alloc w _)⟩
      | _ => exact hv.elim
  | .float32, _, _, _, _, htype, _, _, _, _, _ => htype.elim
  | .string, v, w, w', obj, _, hv, _, _, _, hok => by
      cases v with
      | text s =>
          cases Action.apply_lift_eq_ok hok
          exact ⟨.alloc w ⟨.empty, .str s⟩, readsBack_text (body?_alloc w _)⟩
      | _ => exact hv.elim
  | .coded codec, v, w, w', obj, _, hv, _, _, _, hok => by
      cases v with
      | bytes bytes =>
          rw [toHost] at hok
          obtain ⟨text, w₁, htext, hmade⟩ := Action.apply_bind_eq_ok_iff.mp hok
          obtain ⟨hdecode, rfl⟩ := Action.apply_ofExcept_eq_ok htext
          cases Action.apply_lift_eq_ok hmade
          -- the conversion decoded the bytes, so the text encodes to them again
          have hbytes : codec.encode text = .ok bytes := by
            cases hread : codec.decode bytes with
            | error fault =>
                rw [hread] at hdecode
                cases hdecode
            | ok found =>
                rw [hread] at hdecode
                cases hdecode
                exact Codec.encode_decode hread
          exact ⟨.alloc w₁ ⟨.empty, .str text⟩, readsBack_coded (body?_alloc w₁ _) hbytes⟩
      | _ => exact hv.elim
  | .enumeration e, v, w, w', obj, htype, hv, hr, hi, hx, hok => by
      cases v with
      | variant index =>
          obtain ⟨hx', hbody⟩ := variantToHost_eq_ok hi hx hr.1 hr.2 hok
          exact ⟨hx', readsBack_variant (valueAt_holds htype hv) (variantIndex?_of_lt htype hv) hbody⟩
      | _ => exact hv.elim
  | .struct head fields, v, w, w', obj, htype, hv, hr, hi, hx, hok => by
      cases v with
      | record values =>
          obtain ⟨hx', hreads, -, -⟩ := struct_eq_ok hi hx hr.1 hr.2.1 htype.1
            (fun _ _ hfields => fieldsToHost_eq_ok htype.2 hv hr.2.2 hi hx hfields) hok
          exact ⟨hx', hreads⟩
      | _ => exact hv.elim
  | .seq item, v, w, w', obj, htype, hv, hr, hi, hx, hok => by
      cases v with
      | seq values =>
          rw [toHost] at hok
          obtain ⟨objs, w₁, hobjs, hmade⟩ := Action.apply_bind_eq_ok_iff.mp hok
          have hitem : ∀ v ∈ values, ∀ w w' obj, w₀.Extends classes store w →
              (toHost (host inner invoke) store item v).apply w = (.ok obj, w') →
              w.Extends classes store w' ∧ ReadsBack classes store w' item obj (item.seen v) :=
            fun v hmem w w' obj hx hok => toHost_eq_ok htype (hv v hmem) hr hi hx hok
          obtain ⟨hx₁, hread⟩ := convertItems_eq_ok hitem hx hobjs
          cases Action.apply_lift_eq_ok hmade
          have hx₂ : w₁.Extends classes store _ := .alloc w₁ ⟨.empty, .list objs⟩
          exact ⟨hx₁.trans hx₂, readsBack_seq (body?_alloc w₁ _) fun inner invoke w' hg =>
            hread inner invoke w' (hx₂.toGrows.trans hg)⟩
      | _ => exact hv.elim

/-- What the fields that the host sees were converted to reads back as what the host sees of all
fields. -/
theorem fieldsToHost_eq_ok : ∀ {fields : Fields} {values : List Value} {w w' : World (Body C)}
    {attrs : List (String × Ref)}, fields.Exact → fields.Admit values →
    fields.Hosted inner classes store w₀ → Issued w₀ → w₀.Extends classes store w →
    (fieldsToHost (host inner invoke) store fields values).apply w = (.ok attrs, w') →
    w.Extends classes store w' ∧ FieldsReadBack classes store w' fields attrs (fields.seen values)
  | .nil, values, w, w', attrs, _, hv, _, _, _, hok => by
      cases values with
      | nil =>
          cases hok
          exact ⟨.refl w, fun _ _ _ _ _ _ => rfl⟩
      | cons => exact hv.elim
  | .cons field type rest, [], _, _, _, _, hv, _, _, _, _ => hv.elim
  | .cons field type rest, v :: values, w, w', attrs, htype, hv, hr, hi, hx, hok => by
      rw [fieldsToHost] at hok
      cases hname : field.hostName with
      | none =>
          rw [hname] at hok
          obtain ⟨hx', hread⟩ := fieldsToHost_eq_ok htype.2 hv.2 hr.2 hi hx hok
          refine ⟨hx', ?_⟩
          rw [Fields.seen, hname]
          exact .hidden hname hread
      | some name =>
          rw [hname] at hok
          obtain ⟨obj, w₁, hobj, hok⟩ := Action.apply_bind_eq_ok_iff.mp hok
          obtain ⟨hx₁, hread⟩ :=
            toHost_eq_ok htype.1 hv.1 (hr.1 (by rw [hname]; rfl)) hi hx hobj
          -- the object is pinned while the fields after it are converted
          obtain ⟨more, _, hpinning, hok⟩ := Action.apply_bind_eq_ok_iff.mp hok
          obtain ⟨w₂, hmore, rfl⟩ := Action.apply_pinning_eq_ok hpinning
          cases hok
          obtain ⟨hx₂, hreads⟩ :=
            fieldsToHost_eq_ok htype.2 hv.2 hr.2 hi ((hx.trans hx₁).pin [obj]) hmore
          have hx₃ : w₁.Extends classes store { w₂ with pinned := w₁.pinned } := hx₂.unpin
          refine ⟨hx₁.trans hx₃, ?_⟩
          rw [Fields.seen, hname]
          exact .seen hname (hread.mono hx₃.toGrows) (hreads.mono ((World.Grows.refl w₂).pinned _))

end

/-! ## What came from the host

The classes are ready now, and the value is one that was read from the host. Then no step of the
conversion fails; what the steps before it left behind is what was said of any conversion. -/

variable (inner) (invoke) in
theorem variantToHost_ready (hi : Issued w₀) (hx : w₀.Extends classes store w) {e : EnumDef}
    (index : Nat) (hclass : Resolves classes store w₀ e.name e.host)
    (hnumber : NumberClass w₀ (classes e.name)) :
    ∃ obj w', (variantToHost (host inner invoke) store e index).apply w = (.ok obj, w') := by
  obtain ⟨w₁, hfound⟩ := classOf_ready inner invoke hi hx.toGrows hclass
  obtain ⟨-, hx₁, -, -⟩ := classOf_eq_ok hi hx hclass.leadsTo hfound
  obtain ⟨obj, w', hrun, -⟩ := variantToHost_found hi (hx.trans hx₁) index hnumber hfound
  exact ⟨obj, w', hrun⟩

variable (inner) (invoke) in
theorem newInstance_ready (hi : Issued w₀) (hx : w₀.Extends classes store w) {head : StructHead}
    (hclass : Resolves classes store w₀ head.name head.host)
    (hplain : PlainClass w₀ (classes head.name)) :
    ∃ obj w', (newInstance (host inner invoke) store head).apply w = (.ok obj, w') := by
  obtain ⟨w₁, hfound⟩ := classOf_ready inner invoke hi hx.toGrows hclass
  obtain ⟨-, hx₁, -, -⟩ := classOf_eq_ok hi hx hclass.leadsTo hfound
  have hcall := call_plain inner invoke hi (hx.trans hx₁).toGrows hplain
  exact ⟨_, _, (Action.apply_bind_of_ok (Action.apply_lift_of_ok hfound)).trans
    (Action.apply_lift_of_ok hcall)⟩

omit [HostCode C] in
/-- Items are converted one after the other, if each of them can be. -/
theorem convertItems_ready {x : Value → BridgeAction (Body C) Ref} {values : List Value}
    (hitem : ∀ v ∈ values, ∀ w, w₀.Extends classes store w →
      ∃ obj w', (x v).apply w = (.ok obj, w') ∧ w.Extends classes store w')
    (hx : w₀.Extends classes store w) :
    ∃ objs w', (convertItems x values).apply w = (.ok objs, w') := by
  induction values generalizing w with
  | nil => exact ⟨[], w, rfl⟩
  | cons v rest ih =>
      obtain ⟨hv, hrest⟩ := List.forall_mem_cons.mp hitem
      obtain ⟨obj, w₁, hobj, hx₁⟩ := hv w hx
      obtain ⟨objs, w₂, hobjs⟩ := ih hrest ((hx.trans hx₁).pin [obj])
      have hpinned : (Action.pinning [obj] (convertItems x rest)).apply w₁ =
          (.ok objs, { w₂ with pinned := w₁.pinned }) := by
        rw [Action.apply_pinning, hobjs]
      refine ⟨obj :: objs, { w₂ with pinned := w₁.pinned }, ?_⟩
      rw [convertItems, Action.apply_bind_of_ok hobj, Action.apply_bind_of_ok hpinned]
      rfl

mutual

/-- A value that came from the host is converted, if the classes of its type are ready. -/
theorem toHost_ready : ∀ {type : IdlType} {v : Value} {w : World (Body C)},
    type.Exact → type.Carries v → type.Ready classes store w₀ → Issued w₀ →
    w₀.Extends classes store w →
    ∃ obj w', (toHost (host inner invoke) store type v).apply w = (.ok obj, w')
  | .bool, v, w, _, hv, _, _, _ => by
      cases v with
      | bool b => exact ⟨_, w, rfl⟩
      | _ => exact hv.elim
  | .int _, v, w, _, hv, _, _, _ => by
      cases v with
      | int n => exact ⟨_, _, rfl⟩
      | _ => exact hv.elim
  | .float64, v, w, _, hv, _, _, _ => by
      cases v with
      | float64 x => exact ⟨_, _, rfl⟩
      | _ => exact hv.elim
  | .float32, _, _, htype, _, _, _, _ => htype.elim
  | .string, v, w, _, hv, _, _, _ => by
      cases v with
      | text s => exact ⟨_, _, rfl⟩
      | _ => exact hv.elim
  | .coded codec, v, w, _, hv, _, _, _ => by
      cases v with
      | bytes bytes =>
          obtain ⟨text, htext⟩ := hv
          rw [toHost, Codec.decode_encode htext]
          exact ⟨_, _, rfl⟩
      | _ => exact hv.elim
  | .enumeration e, v, w, _, hv, hr, hi, hx => by
      cases v with
      | variant index => exact variantToHost_ready inner invoke hi hx index hr.1 hr.2
      | _ => exact hv.elim
  | .struct head fields, v, w, htype, hv, hr, hi, hx => by
      cases v with
      | record values =>
          obtain ⟨attrs, w₁, hfields⟩ := fieldsToHost_ready htype.2 hv hr.2.2 hi hx
          have hvalues : fields.Admit values := Fields.Carry.admit htype.2 hv
          obtain ⟨hx₁, hread⟩ :=
            fieldsToHost_eq_ok htype.2 hvalues (Fields.Ready.hosted hr.2.2) hi hx hfields
          obtain ⟨obj, w₂, hmade⟩ := newInstance_ready inner invoke hi
            ((hx.trans hx₁).pin (attrs.map Prod.snd)) hr.1 hr.2.1
          obtain ⟨w', hfill, -⟩ := fillInstance_made hi (hx.trans hx₁) hr.1.leadsTo
            hr.2.1.structClass (fieldsToHost_attrs hfields ▸ htype.1) hread hmade
          refine ⟨obj, w', ?_⟩
          rw [toHost, Action.apply_bind_of_ok hfields]
          exact hfill
      | _ => exact hv.elim
  | .seq item, v, w, htype, hv, hr, hi, hx => by
      cases v with
      | seq values =>
          have htype : item.Exact := htype
          have hr : item.Ready classes store w₀ := hr
          have hitem : ∀ v ∈ values, ∀ w, w₀.Extends classes store w →
              ∃ obj w', (toHost (host inner invoke) store item v).apply w = (.ok obj, w') ∧
                w.Extends classes store w' := by
            intro v hmem w hx
            obtain ⟨obj, w', hrun⟩ := toHost_ready htype (hv v hmem) hr hi hx
            exact ⟨obj, w', hrun, (toHost_eq_ok htype (IdlType.Carries.admits htype (hv v hmem))
              (IdlType.Ready.hosted hr) hi hx hrun).1⟩
          obtain ⟨objs, w₁, hobjs⟩ := convertItems_ready hitem hx
          exact ⟨_, _, (Action.apply_bind_of_ok hobjs).trans rfl⟩
      | _ => exact hv.elim

/-- The fields of a structure that came from the host are converted. -/
theorem fieldsToHost_ready : ∀ {fields : Fields} {values : List Value} {w : World (Body C)},
    fields.Exact → fields.Carry values → fields.Ready classes store w₀ → Issued w₀ →
    w₀.Extends classes store w →
    ∃ attrs w', (fieldsToHost (host inner invoke) store fields values).apply w = (.ok attrs, w')
  | .nil, values, w, _, hv, _, _, _ => by
      cases values with
      | nil => exact ⟨[], w, rfl⟩
      | cons => exact hv.elim
  | .cons field type rest, [], _, _, hv, _, _, _ => hv.elim
  | .cons field type rest, v :: values, w, htype, hv, hr, hi, hx => by
      obtain ⟨hv, hvalues⟩ := hv
      rw [fieldsToHost]
      cases hname : field.hostName with
      | none => exact fieldsToHost_ready htype.2 hvalues hr.2 hi hx
      | some name =>
          rw [hname] at hv
          obtain ⟨obj, w₁, hobj⟩ := toHost_ready htype.1 hv hr.1 hi hx
          have hx₁ := (toHost_eq_ok htype.1 (IdlType.Carries.admits htype.1 hv)
            (IdlType.Ready.hosted hr.1) hi hx hobj).1
          -- the object is pinned while the fields after it are converted
          obtain ⟨attrs, w₂, hattrs⟩ :=
            fieldsToHost_ready htype.2 hvalues hr.2 hi ((hx.trans hx₁).pin [obj])
          have hpinned : (Action.pinning [obj] (fieldsToHost (host inner invoke) store rest
              values)).apply w₁ = (.ok attrs, { w₂ with pinned := w₁.pinned }) := by
            rw [Action.apply_pinning, hattrs]
          refine ⟨(name, obj) :: attrs, { w₂ with pinned := w₁.pinned }, ?_⟩
          dsimp only
          rw [Action.apply_bind_of_ok hobj, Action.apply_bind_of_ok hpinned]
          rfl

end

variable (inner) (invoke) in
/-- A structure that came from the host becomes a new instance of its class that reads back. -/
theorem toHost_struct {head : StructHead} {fields : Fields} {v : Value}
    (htype : (IdlType.struct head fields).Exact) (hv : (IdlType.struct head fields).Carries v)
    (hr : (IdlType.struct head fields).Ready classes store w₀) (hi : Issued w₀)
    (hx : w₀.Extends classes store w) :
    ∃ obj w', (toHost (host inner invoke) store (.struct head fields) v).apply w = (.ok obj, w') ∧
      ReadsBack classes store w' (.struct head fields) obj v ∧
      w.heap.size ≤ obj.id ∧ Memory.typeOf w' obj = classes head.name := by
  obtain ⟨obj, w', hrun⟩ : ∃ obj w',
      (toHost (host inner invoke) store (.struct head fields) v).apply w = (.ok obj, w') :=
    toHost_ready htype hv hr hi hx
  cases v with
  | record values =>
      have hvalues : fields.Admit values := Fields.Carry.admit htype.2 hv
      obtain ⟨-, hreads⟩ := struct_eq_ok hi hx hr.1.leadsTo hr.2.1.structClass htype.1
        (fun _ _ hfields =>
          fieldsToHost_eq_ok htype.2 hvalues (Fields.Ready.hosted hr.2.2) hi hx hfields) hrun
      rw [Fields.Carry.seen_eq hv] at hreads
      exact ⟨obj, w', hrun, hreads⟩
  | _ => exact hv.elim

end Marshal

end DdsBridge
