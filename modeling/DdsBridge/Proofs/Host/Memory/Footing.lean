import DdsBridge.Proofs.Host.Memory.Growth
import DdsBridge.Proofs.Host.Upheld

/-!
# Where the attributes of an object come from

An attribute of an object is its own or is found on its class or on an ancestor of that. As long as
nothing happens to these objects, look-ups find what they found before, and the same guard watches
over assignments. An assignment that the guard refuses happens to none of them.

* **`Memory.Footing`** — the objects on which the attributes of an object are found.
* **`Memory.lookup_of_upheld`**, **`Memory.guardOf_of_upheld`** — what look-ups find stays.
* **`Memory.Judges`**, **`Memory.Guarded`** — guards that go by the name of the attribute.
* **`Memory.Poised`** — what is asked of an object and of its guard, at once.
* **`Memory.setAttr_decided`**, **`Memory.setAttr_cases`** — an assignment on such an object.
-/

namespace DdsBridge.Memory

variable {C : Type}

/-- The classes in which an object with a body has attributes that are not its own, in the order of
look-up. -/
def Body.upward (w : World (Body C)) : Body C → List Ref
  | .cls info => info.ancestors
  | .instance owner _ => lineage w owner
  | _ => []

/-- The classes in which an object has attributes that are not its own. -/
def inherits (w : World (Body C)) (r : Ref) : List Ref := (body? w r).elim [] (Body.upward w)

/-- An object and the classes from which it inherits. -/
def Footing (w : World (Body C)) (r x : Ref) : Prop := x = r ∨ x ∈ inherits w r

variable {w w₁ : World (Body C)} {r : Ref}

theorem inherits_of_body {body : Body C} (h : body? w r = some body) :
    inherits w r = body.upward w := by
  rw [inherits, h]
  rfl

/-- The classes above a class. -/
theorem lineage_tail (w : World (Body C)) (cls : Ref) :
    (lineage w cls).tail = (classInfo? w cls).elim [] ClassInfo.ancestors := by
  rw [lineage, List.tail_cons]
  cases classInfo? w cls <;> rfl

theorem classInfo?_of_body {info : ClassInfo C} (h : body? w r = some (.cls info)) :
    classInfo? w r = some info := by
  rw [classInfo?, h]

/-- An attribute is the object's own or inherited; the class of an object is one as well. -/
theorem lookup_eq (w : World (Body C)) (r : Ref) (name : String) :
    lookup w r name =
      (ownAttr? w r name <|> (inherits w r).findSome? (ownAttr? w · name) <|>
        if name = "__class__" then some (typeOf w r) else none) := by
  rw [lookup]
  cases hbody : body? w r with
  | none =>
      rw [inherits, hbody]
      rfl
  | some body =>
      rw [inherits_of_body hbody]
      cases body with
      | cls info =>
          dsimp only [Body.upward]
          rw [lineage_tail, classInfo?_of_body hbody]
          rfl
      | «instance» owner value => rfl
      | _ => rfl

/-- What an object has apart from its class is an attribute of an object of its footing. -/
theorem found_on_footing {name : String} {x : Ref} (h : lookup w r name = some x)
    (hname : name ≠ "__class__") : ∃ c, Footing w r c ∧ ownAttr? w c name = some x := by
  rw [lookup_eq, if_neg hname] at h
  cases hown : ownAttr? w r name with
  | some found =>
      rw [hown] at h
      exact ⟨r, .inl rfl, hown.trans h⟩
  | none =>
      rw [hown] at h
      cases hup : (inherits w r).findSome? (ownAttr? w · name) with
      | none =>
          rw [hup] at h
          cases h
      | some found =>
          rw [hup] at h
          obtain ⟨c, hc, hfound⟩ := List.exists_of_findSome?_eq_some hup
          exact ⟨c, .inr hc, hfound.trans h⟩

/-- Attributes are found on objects that are there. -/
theorem lt_size_of_lookup {name : String} {x : Ref} (h : lookup w r name = some x)
    (hname : name ≠ "__class__") : r.id < w.heap.size := by
  obtain ⟨c, rfl | hc, hown⟩ := found_on_footing h hname
  · exact World.lt_size_of_attrAt hown
  · cases hbody : body? w r with
    | none =>
        rw [inherits, hbody] at hc
        exact absurd hc List.not_mem_nil
    | some body => exact World.lt_size_of_bodyAt hbody

/-- A guard is an attribute of the object's class or of an ancestor. -/
theorem guard_on_footing {guard : Ref} (h : guardOf w r = some guard) :
    ∃ c, Footing w r c ∧ ownAttr? w c "__setattr__" = some guard := by
  cases hbody : body? w r with
  | none =>
      rw [guardOf, hbody] at h
      cases h
  | some body =>
      cases body with
      | «instance» owner value =>
          rw [guardOf, hbody] at h
          obtain ⟨c, hc, hfound⟩ := List.exists_of_findSome?_eq_some h
          refine ⟨c, .inr ?_, hfound⟩
          rw [inherits_of_body hbody]
          exact hc
      | _ =>
          rw [guardOf, hbody] at h
          cases h

section Upheld

variable {P : Ref → Prop} {Changes : Ref → String → Prop}
variable (h : w.Upholds P Changes w₁) (hP : ∀ x, Footing w r x → P x)
include h hP

theorem body?_of_upheld : body? w₁ r = body? w r := h.body (hP r (.inl rfl))

theorem typeOf_of_upheld : typeOf w₁ r = typeOf w r := by
  rw [typeOf, typeOf, body?_of_upheld h hP]

/-- An object inherits from the same classes as before. -/
theorem inherits_of_upheld : inherits w₁ r = inherits w r := by
  cases hbody : body? w r with
  | none => rw [inherits, inherits, body?_of_upheld h hP, hbody]; rfl
  | some body =>
      have hbody₁ : body? w₁ r = some body := (body?_of_upheld h hP).trans hbody
      rw [inherits_of_body hbody, inherits_of_body hbody₁]
      cases body with
      | «instance» owner value =>
          have howner : P owner := hP owner <| .inr <| by
            rw [inherits_of_body hbody]
            exact List.mem_cons_self
          have hsame : body? w₁ owner = body? w owner := h.body howner
          show lineage w₁ owner = lineage w owner
          rw [lineage, lineage, classInfo?, classInfo?, hsame]
      | _ => rfl

theorem footing_of_upheld {x : Ref} : Footing w₁ r x ↔ Footing w r x := by
  rw [Footing, Footing, inherits_of_upheld h hP]

/-- A look-up finds what it found before. -/
theorem lookup_of_upheld {name : String} (hkept : ∀ x, P x → ¬Changes x name) :
    lookup w₁ r name = lookup w r name := by
  have hattr : ∀ c, Footing w r c → ownAttr? w₁ c name = ownAttr? w c name := fun c hc =>
    h.attr (hP c hc) (hkept c (hP c hc))
  rw [lookup_eq, lookup_eq, inherits_of_upheld h hP, typeOf_of_upheld h hP,
    hattr r (.inl rfl), findSome?_congr fun c hc => hattr c (.inr hc)]

/-- The guard against assignments is the same as before. -/
theorem guardOf_of_upheld (hkept : ∀ x, P x → ¬Changes x "__setattr__") :
    guardOf w₁ r = guardOf w r := by
  have hattr : ∀ c, Footing w r c → ownAttr? w₁ c "__setattr__" = ownAttr? w c "__setattr__" :=
    fun c hc => h.attr (hP c hc) (hkept c (hP c hc))
  have hinherits := inherits_of_upheld h hP
  rw [guardOf, guardOf, body?_of_upheld h hP]
  cases hbody : body? w r with
  | none => rfl
  | some body =>
      have hbody₁ : body? w₁ r = some body := (body?_of_upheld h hP).trans hbody
      cases body with
      | «instance» owner value =>
          rw [inherits_of_body hbody, inherits_of_body hbody₁] at hinherits
          show (lineage w₁ owner).findSome? _ = (lineage w owner).findSome? _
          rw [show lineage w₁ owner = lineage w owner from hinherits]
          refine findSome?_congr fun c hc => hattr c (.inr ?_)
          rw [inherits_of_body hbody]
          exact hc
      | _ => rfl

/-- What was found is still there as it was. -/
theorem found_of_upheld {name : String} {x : Ref} {body : Body C}
    (hfound : lookup w r name = some x) (hname : name ≠ "__class__")
    (hkept : ∀ c, P c → ¬Changes c name)
    (hbody : body? w x = some body) : body? w₁ x = some body := by
  obtain ⟨c, hc, hown⟩ := found_on_footing hfound hname
  exact h.value (hP c hc) (hkept c (hP c hc)) hown hbody

end Upheld

/-- The footing of an instance that is held from outside the heap, of a class above which every class
is permanent. -/
theorem supported_footing [HostCode C] {cls : Ref} {value : Option Int} {info : ClassInfo C}
    (hbody : body? w r = some (.instance cls value)) (hheld : r ∈ w.anchors)
    (hcls : body? w cls = some (.cls info))
    (habove : ∀ c ∈ info.ancestors, c.id < w.permanent ∧ ∃ body, w.bodyAt c = some body) :
    w.Supported (Footing w r) := by
  have hfooting : ∀ {x}, Footing w r x → x = r ∨ x = cls ∨ x ∈ info.ancestors := by
    rintro x (rfl | hx)
    · exact .inl rfl
    · rw [inherits_of_body hbody, Body.upward, lineage, classInfo?_of_body hcls] at hx
      exact .inr (List.mem_cons.mp hx)
  have hr : Footing w r r := .inl rfl
  refine ⟨fun hx => ?_, fun hx => ?_⟩
  · rcases hfooting hx with rfl | rfl | habv
    · exact ⟨_, hbody⟩
    · exact ⟨_, hcls⟩
    · exact (habove _ habv).2
  · rcases hfooting hx with rfl | rfl | habv
    · exact .inr (.inr (.inl hheld))
    · exact .inr (.inr (.inr ⟨r, _, hr, hbody, List.mem_cons_self⟩))
    · exact .inl (habove _ habv).1

/-! ## Guards -/

/-- A guard with a body accepts or refuses an assignment by the name of the attribute, and does
nothing else. -/
structure Judges (inner : Host (Body C)) (guard : Ref) (body : Body C)
    (refuses : String → Option HostError) : Prop where
  accepted : ∀ {w : World (Body C)} (obj : Ref) {text : Ref} (value : Ref) {name : String},
    body? w guard = some body → body? w text = some (.str name) → refuses name = none →
    ∃ answer, (inner.call guard [obj, text, value]).apply w = (.ok answer, w)
  refused : ∀ {w : World (Body C)} (obj : Ref) {text : Ref} (value : Ref) {name : String}
    {error : HostError},
    body? w guard = some body → body? w text = some (.str name) → refuses name = some error →
    (inner.call guard [obj, text, value]).apply w = (.error (.raised error), w)

/-- If an object has a guard, the guard goes by the name of the attribute. -/
def Guarded (inner : Host (Body C)) (refuses : String → Option HostError) (w : World (Body C))
    (r : Ref) : Prop :=
  ∀ guard, guardOf w r = some guard →
    ∃ body, body? w guard = some body ∧ Judges inner guard body refuses

variable [HostCode C] {inner : Host (Body C)} {invoke : C → List Ref → MemoryAction C Ref}
variable {refuses : String → Option HostError} {P : Ref → Prop} {Changes : Ref → String → Prop}

/-- An object whose footing is in a set of objects that hold each other or are held from outside,
and whose guard, if it has one, goes by the name of the attribute. -/
structure Poised (inner : Host (Body C)) (refuses : String → Option HostError) (P : Ref → Prop)
    (r : Ref) (w : World (Body C)) : Prop where
  supported : w.Supported P
  footing : ∀ x, Footing w r x → P x
  guarded : Guarded inner refuses w r

/-- It stays so as long as nothing happens to these objects. -/
theorem Poised.upheld (hp : Poised inner refuses P r w) (h : w.Upholds P Changes w₁)
    (hkept : ∀ x, P x → ¬Changes x "__setattr__") : Poised inner refuses P r w₁ where
  supported := hp.supported.upheld h
  footing := fun x hx => hp.footing x ((footing_of_upheld h hp.footing).mp hx)
  guarded := fun guard hguard => by
    rw [guardOf_of_upheld h hp.footing hkept] at hguard
    obtain ⟨body, hbody, hjudges⟩ := hp.guarded guard hguard
    obtain ⟨c, hc, hown⟩ := guard_on_footing hguard
    have hc := hp.footing c hc
    exact ⟨body, h.value hc (hkept c hc) hown hbody, hjudges⟩

/-- Nothing happened, or the name of an attribute was written down for a guard. -/
def Texted (w w₁ : World (Body C)) : Prop :=
  w₁ = w ∨ ∃ name, w₁ = { w with heap := (w.heap.alloc ⟨.empty, .str name⟩).2 }

theorem Texted.upholds (h : Texted w w₁) (hs : w.Supported P) : w.Upholds P Changes w₁ := by
  rcases h with rfl | ⟨name, rfl⟩
  · exact .refl w₁
  · exact hs.alloc _

/-- An assignment on such an object ends. It fails if the guard refuses it or the object takes no
attributes, and then nothing happened but that the guard was asked; else the attribute is stored. -/
theorem setAttr_decided (hp : Poised inner refuses P r w) (name : String) (value : Ref) :
    ∃ w₁, Texted w w₁ ∧
      ((∃ error, (setAttr inner r name value).apply w = (.error (.raised error), w₁) ∧
          ((guardOf w r).isSome ∧ refuses name ≠ none ∨ takesAttrs (body? w r) = false)) ∨
        ((setAttr inner r name value).apply w = (.ok (), w₁.storeAttr r name value) ∧
          takesAttrs (body? w r) = true ∧ ((guardOf w r).isSome → refuses name = none))) := by
  -- what the assignment does once the guard has accepted it
  have hstore : ∀ {x : MemoryAction C Unit} {w₁ : World (Body C)}, Texted w w₁ →
      x.apply w = (do
        let w ← Action.world
        if takesAttrs (body? w r) then Action.change (World.storeAttr · r name value)
        else Action.raise (.attribute s!"'{typeName w r}' object attribute '{name}' is read-only") :
          MemoryAction C Unit).apply w₁ →
      (takesAttrs (body? w r) = false ∧ ∃ error, x.apply w = (.error (.raised error), w₁)) ∨
        (takesAttrs (body? w r) = true ∧ x.apply w = (.ok (), w₁.storeAttr r name value)) := by
    intro x w₁ htexted hx
    have hupholds : w.Upholds P World.NoChange w₁ := htexted.upholds hp.supported
    rw [hx, Action.apply_bind_of_ok (Action.apply_world w₁), body?_of_upheld hupholds hp.footing]
    cases takesAttrs (body? w r) with
    | false => exact .inl ⟨rfl, _, rfl⟩
    | true => exact .inr ⟨rfl, rfl⟩
  have hset : (setAttr inner r name value).apply w = _ :=
    Action.apply_bind_of_ok (Action.apply_world w)
  cases hguard : guardOf w r with
  | none =>
      rw [hguard] at hset
      refine ⟨w, .inl rfl, ?_⟩
      rcases hstore (.inl rfl) hset with ⟨htakes, error, hraised⟩ | ⟨htakes, hstored⟩
      · exact .inl ⟨error, hraised, .inr htakes⟩
      · exact .inr ⟨hstored, htakes, nofun⟩
  | some guard =>
      rw [hguard] at hset
      obtain ⟨body, hbody, hjudges⟩ := hp.guarded guard hguard
      let text : Ref := (w.heap.alloc ⟨.empty, .str name⟩).1
      let w₁ : World (Body C) := { w with heap := (w.heap.alloc ⟨.empty, .str name⟩).2 }
      have hupholds : w.Upholds P World.NoChange w₁ := hp.supported.alloc _
      have htext : body? w₁ text = some (.str name) :=
        congrArg (Option.map Node.body) (Heap.get?_alloc_self w.heap ⟨.empty, .str name⟩)
      -- the text for the name is new, so the guard meets its own body and this text
      have hbody₁ : body? w₁ guard = some body := by
        obtain ⟨c, hc, hown⟩ := guard_on_footing hguard
        exact hupholds.value (hp.footing c hc) id hown hbody
      have hcalled : (setAttr inner r name value).apply w = _ :=
        hset.trans (Action.apply_bind_of_ok (Action.apply_alloc (.str name) w))
      refine ⟨w₁, .inr ⟨name, rfl⟩, ?_⟩
      cases hrefuses : refuses name with
      | some error =>
          have hcall := hjudges.refused r value hbody₁ htext hrefuses
          exact .inl ⟨error, hcalled.trans (Action.apply_bind_of_error hcall), .inl ⟨rfl, nofun⟩⟩
      | none =>
          obtain ⟨answer, hcall⟩ := hjudges.accepted r value hbody₁ htext hrefuses
          rcases hstore (.inr ⟨name, rfl⟩) (hcalled.trans (Action.apply_bind_of_ok hcall)) with
            ⟨htakes, error, hraised⟩ | ⟨htakes, hstored⟩
          · exact .inl ⟨error, hraised, .inr htakes⟩
          · exact .inr ⟨hstored, htakes, fun _ => rfl⟩

/-- In either case nothing happened to the footing before the attribute was stored. -/
theorem setAttr_cases (hp : Poised inner refuses P r w) (name : String) (value : Ref) :
    ∃ w₁, w.Upholds P World.NoChange w₁ ∧
      ((∃ error, (setAttr inner r name value).apply w = (.error (.raised error), w₁) ∧
          ((guardOf w r).isSome ∧ refuses name ≠ none ∨ takesAttrs (body? w r) = false)) ∨
        ((setAttr inner r name value).apply w = (.ok (), w₁.storeAttr r name value) ∧
          takesAttrs (body? w r) = true ∧ ((guardOf w r).isSome → refuses name = none))) := by
  obtain ⟨w₁, htexted, hcases⟩ := setAttr_decided hp name value
  exact ⟨w₁, htexted.upholds hp.supported, hcases⟩

end DdsBridge.Memory
