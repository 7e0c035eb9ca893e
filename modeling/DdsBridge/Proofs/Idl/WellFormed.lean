import DdsBridge.Idl.Coding

/-!
# Well-formed types

What a declaration of types promises: an enumeration has enumerators, with different values of 32
bits, and the fields of a structure that the host sees have different attributes. Types that are
exact on the host, the well-formed ones without floating-point numbers of 32 bits, are the ones
whose values survive the way to the host and back bit by bit.

* **`EnumDef.WellFormed`** — of an enumeration.
* **`IdlType.Exact`**, **`Fields.Exact`** — of a type and of fields.
* **`IdlType.Admits.default`** — the value that nobody set belongs to its type.
* **`SampleCoding.Faithful`** — what is asked of a coding of samples.
-/

namespace DdsBridge

/-- An enumeration has enumerators, and their values are different and fit 32 bits. -/
structure EnumDef.WellFormed (e : EnumDef) : Prop where
  inhabited : 0 < e.variants.length
  distinct : (e.variants.map Prod.snd).Nodup
  bounded : ∀ variant ∈ e.variants, variant.2 < Nat.pow 2 32

/-- Different numbers below a bound are no more than the bound. -/
theorem length_le_of_nodup {values : List Nat} {bound : Nat} (hnodup : values.Nodup)
    (hlt : ∀ n ∈ values, n < bound) : values.length ≤ bound := by
  have hsubset : values ⊆ List.range bound := fun n hn => List.mem_range.mpr (hlt n hn)
  have hlength := hnodup.length_le_of_subset hsubset
  rwa [List.length_range] at hlength

/-- The index of an enumerator fits 32 bits. -/
theorem EnumDef.WellFormed.index_lt {e : EnumDef} (h : e.WellFormed) {index : Nat}
    (hindex : index < e.variants.length) : index < Nat.pow 2 32 := by
  have hlt : ∀ n ∈ e.variants.map Prod.snd, n < Nat.pow 2 32 := by
    intro n hn
    obtain ⟨variant, hmem, rfl⟩ := List.mem_map.mp hn
    exact h.bounded variant hmem
  have hlength := length_le_of_nodup h.distinct hlt
  rw [List.length_map] at hlength
  exact Nat.lt_of_lt_of_le hindex hlength

/-- The attributes of the fields that the host sees. -/
def Fields.attrs : Fields → List String
  | .nil => []
  | .cons field _ rest => field.hostName.toList ++ rest.attrs

mutual

/-- Well-formed, and without floating-point numbers of 32 bits. -/
def IdlType.Exact : IdlType → Prop
  | .float32 => False
  | .enumeration e => e.WellFormed
  | .struct _ fields => fields.attrs.Nodup ∧ fields.Exact
  | .seq item => item.Exact
  | _ => True

/-- The types of all fields are exact. -/
def Fields.Exact : Fields → Prop
  | .nil => True
  | .cons _ type rest => type.Exact ∧ rest.Exact

end

mutual

/-- The value that nobody set belongs to its type. -/
theorem IdlType.Admits.default : ∀ type : IdlType, type.Exact → type.Admits type.default
  | .bool, _ => trivial
  | .int kind, _ => by cases kind <;> exact ⟨by decide, by decide⟩
  | .float64, _ => trivial
  | .float32, h => h.elim
  | .string, _ => trivial
  | .coded _, _ => trivial
  | .enumeration _, h => h.inhabited
  | .struct _ fields, h => Fields.Admit.defaults fields h.2
  | .seq _, _ => fun v hv => absurd hv List.not_mem_nil

/-- The values that nobody set belong to their fields. -/
theorem Fields.Admit.defaults : ∀ fields : Fields, fields.Exact → fields.Admit fields.defaults
  | .nil, _ => trivial
  | .cons _ type rest, h => ⟨IdlType.Admits.default type h.1, Fields.Admit.defaults rest h.2⟩

end

/-- What a sender and a receiver rely on: what was coded of a value that belongs to an exact type is
decoded as that value. -/
structure SampleCoding.Faithful (coding : SampleCoding) : Prop where
  decode_encode : ∀ {type : IdlType} {v : Value} {payload : List UInt8}, type.Exact →
    type.Admits v → coding.encode type v = .ok payload → coding.decode type payload = .ok v

end DdsBridge
