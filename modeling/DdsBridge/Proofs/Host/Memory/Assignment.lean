import DdsBridge.Proofs.Bridge.Holds
import DdsBridge.Proofs.Host.Memory.Footing
import DdsBridge.Proofs.Host.Unnamed

/-!
# Assignments that are taken back

An assignment on an object whose guard goes by the name of the attribute is accepted or refused as
the name has it. If it is accepted, what the attribute named before can be put back: afterwards every
look-up on the object finds what it found before the first assignment, also where the attribute was
inherited or missing.

* **`World.Steadily`** — what every steady relation allows for.
* **`Memory.Accepts`** — the object takes an attribute under a name.
* **`Memory.Stored`**, **`Memory.Idle`** — what an accepted assignment does, and a refused one.
* **`Memory.lookup_restored`** — look-ups after an attribute is back.
-/

namespace DdsBridge

/-- What happened is among the changes that every steady relation allows for. -/
def World.Steadily {B : Type} [ObjectBody B] (w w' : World B) : Prop :=
  ∀ R : World B → World B → Prop, World.Steady World.NoHold AnyName R → R w w'

theorem World.Steadily.trans {B : Type} [ObjectBody B] {w w₁ w₂ : World B} (h : w.Steadily w₁)
    (h' : w₁.Steadily w₂) : w.Steadily w₂ :=
  fun R hR => hR.trans (h R hR) (h' R hR)

namespace Memory

variable {C : Type} {refuses : String → Option HostError} {P : Ref → Prop} {r value x : Ref}
variable {name : String} {w w₁ w' : World (Body C)}

/-- Only the attribute of an object with a name changes. -/
def Only (r : Ref) (name : String) : Ref → String → Prop := fun r' name' => r' = r ∧ name' = name

theorem not_only {r r' : Ref} {name name' : String} (h : name' ≠ name) : ¬Only r name r' name' :=
  fun honly => h honly.2

/-- The object takes attributes, and its guard, if it has one, accepts one under the name. -/
structure Accepts (refuses : String → Option HostError) (w : World (Body C)) (r : Ref)
    (name : String) : Prop where
  takes : takesAttrs (body? w r) = true
  guard : (guardOf w r).isSome → refuses name = none

/-- An object accepts what it accepted as long as its guard stays. -/
theorem accepts_of_upheld {Changes : Ref → String → Prop} (h : w.Upholds P Changes w₁)
    (hP : ∀ c, Footing w r c → P c) (hkept : ∀ c, P c → ¬Changes c "__setattr__") :
    Accepts refuses w₁ r name ↔ Accepts refuses w r name := by
  have hbody := body?_of_upheld h hP
  have hguard := guardOf_of_upheld h hP hkept
  constructor
  · rintro ⟨htakes, haccepts⟩
    exact ⟨hbody ▸ htakes, hguard ▸ haccepts⟩
  · rintro ⟨htakes, haccepts⟩
    exact ⟨hbody.symm ▸ htakes, hguard.symm ▸ haccepts⟩

variable [HostCode C]

/-- Nothing happened that matters to the objects of a set, to any steady relation or to what only
running operations hold. -/
structure Idle (P : Ref → Prop) (w w' : World (Body C)) : Prop where
  upholds : w.Upholds P World.NoChange w'
  steadily : w.Steadily w'
  unnamed : ∀ {x}, w.Unnamed x → w'.Unnamed x

/-- The attribute of an object was stored, and else nothing happened that matters to the objects of a
set. -/
structure Stored (P : Ref → Prop) (r : Ref) (name : String) (value : Ref) (w w' : World (Body C)) :
    Prop where
  upholds : w.Upholds P (Only r name) w'
  attr : w'.attrAt r name = some value
  steadily : w.Steadily w'
  unnamed : ∀ {x}, x ≠ value → w.Unnamed x → w'.Unnamed x

theorem Texted.idle (h : Texted w w') (hs : w.Supported P) : Idle P w w' where
  upholds := h.upholds hs
  steadily R hR := by
    rcases h with rfl | ⟨text, rfl⟩
    · exact hR.refl w'
    · exact hR.quiet (.alloc w rfl)
  unnamed hx := by
    rcases h with rfl | ⟨text, rfl⟩
    · exact hx
    · exact hx.alloc (by rintro ⟨⟩)

variable {inner : Host (Body C)} {invoke : C → List Ref → MemoryAction C Ref}

/-- An assignment that the object does not accept fails. -/
theorem setAttr_of_not_accepts (hp : Poised inner refuses P r w) (value : Ref)
    (hrefused : ¬Accepts refuses w r name) :
    ∃ error w', (setAttr inner r name value).apply w = (.error (.raised error), w') ∧
      Idle P w w' := by
  obtain ⟨w', htexted, ⟨error, hfails, -⟩ | ⟨-, htakes, haccepts⟩⟩ :=
    setAttr_decided hp name value
  · exact ⟨error, w', hfails, htexted.idle hp.supported⟩
  · exact absurd ⟨htakes, haccepts⟩ hrefused

/-- An assignment that the object accepts succeeds. -/
theorem setAttr_of_accepts (hp : Poised inner refuses P r w) (value : Ref)
    (haccepted : Accepts refuses w r name) :
    ∃ w', (setAttr inner r name value).apply w = (.ok (), w') ∧ Stored P r name value w w' := by
  obtain ⟨w₁, htexted, ⟨-, -, hwhy⟩ | ⟨hok, -⟩⟩ := setAttr_decided hp name value
  · rcases hwhy with ⟨hguard, hrefuses⟩ | htakes
    · exact absurd (haccepted.guard hguard) hrefuses
    · exact absurd (htakes.symm.trans haccepted.takes) (by decide)
  · have hidle : Idle P w w₁ := htexted.idle hp.supported
    have hs := hp.supported.upheld hidle.upholds
    have hr : P r := hp.footing r (.inl rfl)
    refine ⟨_, hok, ?_, hs.storeAttr_attrAt hr name value, fun R hR => ?_, fun hne hx => ?_⟩
    · exact hidle.upholds.of_noChange.trans (hs.storeAttr value fun _ => ⟨rfl, rfl⟩)
    · exact hR.trans (hidle.steadily R hR) (hR.storeAttr w₁ r trivial value)
    · exact (hidle.unnamed hx).storeAttr r name hne

omit [HostCode C] in
/-- An attribute of the object itself comes first. -/
theorem lookup_of_own (h : w.attrAt r name = some x) : lookup w r name = some x := by
  rw [lookup_eq, show ownAttr? w r name = some x from h]
  rfl

omit [HostCode C] in
/-- If an attribute of the object itself names what a look-up found before, or is missing where a
look-up found nothing, then every look-up finds what it found before. -/
theorem lookup_restored (h : w.Upholds P (Only r name) w') (hP : ∀ c, Footing w r c → P c)
    (hback : w'.attrAt r name = lookup w r name) (name' : String) :
    lookup w' r name' = lookup w r name' := by
  by_cases hname : name' = name
  · subst hname
    cases hfound : lookup w r name' with
    | some found => exact lookup_of_own (hback.trans hfound)
    | none =>
        rw [hfound] at hback
        -- no object on the footing has the attribute, before and after
        rw [lookup_eq] at hfound ⊢
        simp only [Option.orElse_eq_orElse, Option.orElse_eq_or, Option.or_eq_none_iff] at hfound ⊢
        refine ⟨hback, ?_, ?_⟩
        · rw [inherits_of_upheld h hP, List.findSome?_eq_none_iff]
          intro c hc
          have hbefore := List.findSome?_eq_none_iff.mp hfound.2.1 c hc
          by_cases hcr : c = r
          · rw [hcr]
            exact hback
          · exact (h.attr (hP c (.inr hc)) fun honly => hcr honly.1).trans hbefore
        · rw [typeOf_of_upheld h hP]
          exact hfound.2.2
  · exact lookup_of_upheld h hP fun _ _ => not_only hname

end Memory

end DdsBridge
