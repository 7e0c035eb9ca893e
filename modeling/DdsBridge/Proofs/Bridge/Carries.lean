import DdsBridge.Bridge.Marshal
import DdsBridge.Proofs.Host.Action
import DdsBridge.Proofs.Idl.WellFormed

/-!
# Values that come from the host

Whatever host objects are, the values read from them are of a certain form: numbers belong to
their kind, coded texts are codings of texts, enumerators are found by their values, and fields
that the host does not see have the value that nobody set.

* **`IdlType.Carries`**, **`Fields.Carry`** — values of that form.
* **`IdlType.Carries.admits`** — they belong to their type.
* **`Marshal.fromHost_carries`** — they are what is read from any host.
* **`Marshal.fieldsToHost_attrs`** — what is converted for a host are the fields that it sees.
-/

namespace DdsBridge

mutual

/-- Values that come from the host. -/
def IdlType.Carries : IdlType → Value → Prop
  | .bool, .bool _ => True
  | .int kind, .int n => kind.holds n = true
  | .float64, .float64 _ => True
  | .string, .text _ => True
  | .coded codec, .bytes bytes => ∃ text, codec.encode text = .ok bytes
  | .enumeration e, .variant index =>
    ∃ n, IntKind.u32.holds n = true ∧ Marshal.variantIndex? e n = some index
  | .struct _ fields, .record values => fields.Carry values
  | .seq item, .seq items => ∀ v ∈ items, item.Carries v
  | _, _ => False

/-- Values of fields that come from the host. -/
def Fields.Carry : Fields → List Value → Prop
  | .nil, [] => True
  | .cons field type rest, v :: values =>
    (match field.hostName with
      | none => v = type.default
      | some _ => type.Carries v) ∧ rest.Carry values
  | _, _ => False

end

theorem IntKind.holds_iff {kind : IntKind} {n : Int} :
    kind.holds n = true ↔ kind.least ≤ n ∧ n ≤ kind.greatest := by
  simp [IntKind.holds]

theorem Marshal.variantIndex?_lt {e : EnumDef} {n : Int} {index : Nat}
    (h : variantIndex? e n = some index) : index < e.variants.length :=
  (List.findIdx?_eq_some_iff_getElem.mp h).1

mutual

/-- What comes from the host belongs to its type. -/
theorem IdlType.Carries.admits : ∀ {type : IdlType} {v : Value}, type.Exact → type.Carries v →
    type.Admits v
  | .bool, .bool _, _, _ => trivial
  | .int _, .int _, _, h => IntKind.holds_iff.mp h
  | .float64, .float64 _, _, _ => trivial
  | .string, .text _, _, _ => trivial
  | .coded _, .bytes _, _, _ => trivial
  | .enumeration _, .variant _, _, ⟨_, _, hindex⟩ => Marshal.variantIndex?_lt hindex
  | .struct _ _, .record _, hs, h => Fields.Carry.admit hs.2 h
  | .seq _, .seq _, hs, h => fun v hv => IdlType.Carries.admits hs (h v hv)

/-- What comes from the host belongs to its fields. -/
theorem Fields.Carry.admit : ∀ {fields : Fields} {values : List Value}, fields.Exact →
    fields.Carry values → fields.Admit values
  | .nil, [], _, _ => trivial
  | .cons field type _, v :: _, hs, ⟨hv, hrest⟩ => by
      refine ⟨?_, Fields.Carry.admit hs.2 hrest⟩
      cases hname : field.hostName with
      | none =>
          rw [hname] at hv
          exact hv ▸ IdlType.Admits.default type hs.1
      | some name =>
          rw [hname] at hv
          exact IdlType.Carries.admits hs.1 hv

end

namespace Marshal

variable {B : Type} {h : Host B} {store : ClassStore} {w w' : World B} {obj : Ref}

/-! ## Scalars -/

theorem numberFailure_ne_ok {target : String} {error : HostError} {α : Type} {a : α} :
    (numberFailure h target obj error : BridgeAction B α).apply w ≠ (.ok a, w') := by
  intro hok
  unfold numberFailure at hok
  split at hok
  · obtain ⟨text, w₁, -, hraise⟩ := Action.apply_bind_eq_ok_iff.mp hok
    exact absurd (congrArg Prod.fst hraise) (by simp)
  · exact absurd (congrArg Prod.fst hok) (by simp)
  · exact absurd (congrArg Prod.fst hok) (by simp)

theorem intFromHost_holds {kind : IntKind} {n : Int}
    (hok : (intFromHost h kind obj).apply w = (.ok n, w')) : kind.holds n = true := by
  obtain ⟨result, w₁, -, hok⟩ := Action.apply_bind_eq_ok_iff.mp hok
  cases result with
  | error error => exact absurd hok numberFailure_ne_ok
  | ok m =>
      dsimp only at hok
      split at hok
      · rename_i hholds
        cases hok
        exact hholds
      · exact absurd (congrArg Prod.fst hok) (by simp)

theorem codedFromHost_encodes {codec : Codec} {bytes : List UInt8}
    (hok : (codedFromHost h codec obj).apply w = (.ok bytes, w')) :
    ∃ text, codec.encode text = .ok bytes := by
  obtain ⟨result, w₁, -, hok⟩ := Action.apply_bind_eq_ok_iff.mp hok
  cases result with
  | error error =>
      dsimp only at hok
      split at hok
      · exact absurd (congrArg Prod.fst hok) (by simp)
      · exact absurd (congrArg Prod.fst hok) (by simp)
  | ok text =>
      obtain ⟨hencode, -⟩ := Action.apply_ofExcept_eq_ok hok
      refine ⟨text, ?_⟩
      cases hbytes : codec.encode text with
      | error fault =>
          rw [hbytes] at hencode
          cases hencode
      | ok found =>
          rw [hbytes] at hencode
          cases hencode
          rfl

theorem variantFromHost_finds {e : EnumDef} {index : Nat}
    (hok : (variantFromHost h e obj).apply w = (.ok index, w')) :
    ∃ n, IntKind.u32.holds n = true ∧ variantIndex? e n = some index := by
  obtain ⟨n, w₁, hn, hok⟩ := Action.apply_bind_eq_ok_iff.mp hok
  refine ⟨n, intFromHost_holds hn, ?_⟩
  cases hindex : variantIndex? e n with
  | none =>
      rw [hindex] at hok
      exact absurd (congrArg Prod.fst hok) (by simp)
  | some found =>
      rw [hindex] at hok
      cases hok
      rfl

/-! ## Everything else -/

theorem mapM_forall {P : Value → Prop} {item : Ref → BridgeAction B Value}
    (hitem : ∀ r w w' v, (item r).apply w = (.ok v, w') → P v) {objs : List Ref}
    {values : List Value} (hok : (objs.mapM item).apply w = (.ok values, w')) :
    ∀ v ∈ values, P v := by
  induction objs generalizing w values with
  | nil =>
      cases hok
      exact fun v hv => absurd hv List.not_mem_nil
  | cons r rest ih =>
      rw [List.mapM_cons] at hok
      obtain ⟨v, w₁, hv, hok⟩ := Action.apply_bind_eq_ok_iff.mp hok
      obtain ⟨more, w₂, hmore, hok⟩ := Action.apply_bind_eq_ok_iff.mp hok
      cases hok
      exact List.forall_mem_cons.mpr ⟨hitem r w w₁ v hv, ih hmore⟩

mutual

/-- What is read from the host as a value of a type is a value that comes from the host. -/
theorem fromHost_carries : ∀ {type : IdlType} {v : Value} {obj : Ref} {w w' : World B},
    type.Exact → (fromHost h store type obj).apply w = (.ok v, w') → type.Carries v
  | .bool, v, obj, w, w', _, hok => by
      rw [fromHost] at hok
      obtain ⟨b, w₁, -, hok⟩ := Action.apply_bind_eq_ok_iff.mp hok
      cases hok
      trivial
  | .int kind, v, obj, w, w', _, hok => by
      rw [fromHost] at hok
      obtain ⟨n, w₁, hn, hok⟩ := Action.apply_bind_eq_ok_iff.mp hok
      cases hok
      exact intFromHost_holds hn
  | .float64, v, obj, w, w', _, hok => by
      rw [fromHost] at hok
      obtain ⟨x, w₁, -, hok⟩ := Action.apply_bind_eq_ok_iff.mp hok
      cases hok
      trivial
  | .float32, _, _, _, _, hs, _ => hs.elim
  | .string, v, obj, w, w', _, hok => by
      rw [fromHost] at hok
      obtain ⟨s, w₁, -, hok⟩ := Action.apply_bind_eq_ok_iff.mp hok
      cases hok
      trivial
  | .coded codec, v, obj, w, w', _, hok => by
      rw [fromHost] at hok
      obtain ⟨bytes, w₁, hbytes, hok⟩ := Action.apply_bind_eq_ok_iff.mp hok
      cases hok
      exact codedFromHost_encodes hbytes
  | .enumeration e, v, obj, w, w', _, hok => by
      rw [fromHost] at hok
      obtain ⟨index, w₁, hindex, hok⟩ := Action.apply_bind_eq_ok_iff.mp hok
      cases hok
      exact variantFromHost_finds hindex
  | .struct head fields, v, obj, w, w', hs, hok => by
      rw [fromHost] at hok
      obtain ⟨-, w₁, -, hok⟩ := Action.apply_bind_eq_ok_iff.mp hok
      obtain ⟨values, w₂, hvalues, hok⟩ := Action.apply_bind_eq_ok_iff.mp hok
      cases hok
      exact fieldsFromHost_carry hs.2 hvalues
  | .seq item, v, obj, w, w', hs, hok => by
      rw [fromHost] at hok
      obtain ⟨result, w₁, -, hok⟩ := Action.apply_bind_eq_ok_iff.mp hok
      cases result with
      | error error =>
          dsimp only at hok
          split at hok
          · exact absurd (congrArg Prod.fst hok) (by simp)
          · exact absurd (congrArg Prod.fst hok) (by simp)
      | ok objs =>
          obtain ⟨values, w₂, hvalues, hok⟩ := Action.apply_bind_eq_ok_iff.mp hok
          cases hok
          obtain ⟨w₃, hmap, -⟩ := Action.apply_pinning_eq_ok hvalues
          have hitem : ∀ r w w' v, (fromHost h store item r).apply w = (.ok v, w') →
              item.Carries v := fun r w w' v hv => fromHost_carries hs hv
          exact mapM_forall hitem hmap

/-- What is read from the host as the values of fields comes from the host. -/
theorem fieldsFromHost_carry : ∀ {fields : Fields} {values : List Value} {obj : Ref}
    {w w' : World B}, fields.Exact →
    (fieldsFromHost h store fields obj).apply w = (.ok values, w') → fields.Carry values
  | .nil, values, obj, w, w', _, hok => by
      rw [fieldsFromHost] at hok
      cases hok
      trivial
  | .cons field type rest, values, obj, w, w', hs, hok => by
      rw [fieldsFromHost] at hok
      cases hname : field.hostName with
      | none =>
          rw [hname] at hok
          dsimp only at hok
          -- nobody sets the field, so it gets the default of its type
          obtain ⟨v, w₁, hv, hok⟩ := Action.apply_bind_eq_ok_iff.mp hok
          cases hv
          obtain ⟨more, w₂, hmore, hok⟩ := Action.apply_bind_eq_ok_iff.mp hok
          cases hok
          refine ⟨?_, fieldsFromHost_carry hs.2 hmore⟩
          rw [hname]
      | some name =>
          rw [hname] at hok
          obtain ⟨value, w₁, -, hok⟩ := Action.apply_bind_eq_ok_iff.mp hok
          obtain ⟨v, w₂, hv, hok⟩ := Action.apply_bind_eq_ok_iff.mp hok
          obtain ⟨more, w₃, hmore, hok⟩ := Action.apply_bind_eq_ok_iff.mp hok
          cases hok
          obtain ⟨w₄, hread, -⟩ := Action.apply_pinning_eq_ok hv
          refine ⟨?_, fieldsFromHost_carry hs.2 hmore⟩
          rw [hname]
          exact fromHost_carries hs.1 hread

end

theorem misfit_ne_ok {α : Type} {a : α} {w w' : World B} :
    (misfit : BridgeAction B α).apply w ≠ (.ok a, w') :=
  fun h => absurd (congrArg Prod.fst h) (by simp [misfit])

/-- The fields that are converted are those that the host sees, in order. -/
theorem fieldsToHost_attrs {h : Host B} {store : ClassStore} : ∀ {fields : Fields} {values : List Value}
    {attrs : List (String × Ref)} {w w' : World B},
    (fieldsToHost h store fields values).apply w = (.ok attrs, w') →
      attrs.map Prod.fst = fields.attrs
  | .nil, [], attrs, w, w', hrun => by
      rw [fieldsToHost] at hrun
      cases hrun
      rfl
  | .nil, _ :: _, _, _, _, hrun => by
      rw [fieldsToHost] at hrun
      · exact absurd hrun misfit_ne_ok
      · simp
      · simp
  | .cons _ _ _, [], _, _, _, hrun => by
      rw [fieldsToHost] at hrun
      · exact absurd hrun misfit_ne_ok
      · simp
      · simp
  | .cons field type rest, v :: values, attrs, w, w', hrun => by
      rw [fieldsToHost] at hrun
      rw [Fields.attrs]
      cases hname : field.hostName with
      | none =>
          rw [hname] at hrun
          exact fieldsToHost_attrs hrun
      | some name =>
          rw [hname] at hrun
          obtain ⟨x, w₁, _, hrun⟩ := Action.apply_bind_eq_ok_iff.mp hrun
          obtain ⟨more, w₂, hmore, hrun⟩ := Action.apply_bind_eq_ok_iff.mp hrun
          cases hrun
          obtain ⟨w₃, hmore, -⟩ := Action.apply_pinning_eq_ok hmore
          rw [List.map_cons, fieldsToHost_attrs hmore]
          rfl

end Marshal

end DdsBridge
