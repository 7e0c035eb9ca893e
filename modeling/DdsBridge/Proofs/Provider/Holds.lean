import DdsBridge.Proofs.Provider.Evolution

/-!
# How many proxies hold an entity

An entity is created with one holder. From then on only giving a hold back changes how many there
are; every other operation leaves the holders of the entities that stay.

* **`State.Rests`** — nothing comes, and the holders of what stays are as before.
* **`State.Gains`** — one entity comes, with one holder.
* **`perform_rests`** — operations that neither create an entity nor give a hold back.
* **`perform_gains`** — those that create one.
* **`release_refs`** — giving a hold back.
-/

namespace DdsBridge.Provider

/-- Operations that create an entity. -/
def Operation.creates : Operation → Bool
  | .createParticipant _ | .createTopic .. | .createPublisher .. | .createSubscriber ..
  | .createWriter .. | .createReader .. => true
  | _ => false

/-- Operations that give a hold on an entity back. -/
def Operation.givesBack : Operation → Bool
  | .release _ => true
  | _ => false

namespace State

/-- An entity that is alive afterwards was alive before, with as many holders. -/
def KeepsRefs (s s' : State) (e : Handle) : Prop :=
  ∀ r', s'.entities.get? e = some r' → ∃ r, s.entities.get? e = some r ∧ r'.refs = r.refs

/-- No entity comes, and those that stay have as many holders as before. -/
structure Rests (s s' : State) : Prop where
  lastId_le : s.lastId ≤ s'.lastId
  refs : ∀ e, s.KeepsRefs s' e

/-- One entity comes, under a new number and with one holder; the others that stay have as many
holders as before. -/
structure Gains (s : State) (e : Handle) (s' : State) : Prop where
  fresh : s.lastId < e.id
  issued : e.id ≤ s'.lastId
  alive : ∃ r, s'.entities.get? e = some r ∧ r.refs = 1
  others : ∀ other, other ≠ e → s.KeepsRefs s' other

namespace Rests

variable {s s' s'' : State}

theorem refl (s : State) : s.Rests s :=
  ⟨Nat.le_refl _, fun _ r hr => ⟨r, hr, rfl⟩⟩

theorem trans (h : s.Rests s') (h' : s'.Rests s'') : s.Rests s'' := by
  refine ⟨Nat.le_trans h.lastId_le h'.lastId_le, fun e r'' hr'' => ?_⟩
  obtain ⟨r', hr', hrefs'⟩ := h'.refs e r'' hr''
  obtain ⟨r, hr, hrefs⟩ := h.refs e r' hr'
  exact ⟨r, hr, hrefs'.trans hrefs⟩

theorem of_agree (h : Agree Record.refs s s') : s.Rests s' := by
  refine ⟨h.lastId_le, fun e r' hr' => ?_⟩
  have hlook := h.look e
  rw [hr', Option.map_some] at hlook
  obtain ⟨r, hr, hrefs⟩ := Option.map_eq_some_iff.mp hlook.symm
  exact ⟨r, hr, hrefs.symm⟩

theorem of_entities (he : s'.entities = s.entities) (hid : s.lastId ≤ s'.lastId) : s.Rests s' :=
  ⟨hid, fun _ r hr => ⟨r, he ▸ hr, rfl⟩⟩

theorem of_sameEntities (h : s.SameEntities s') : s.Rests s' := of_entities h.1 h.2.1

end Rests

/-- After an entity came, nothing else does. -/
theorem Gains.rests {s s' s'' : State} {e : Handle} (h : s.Gains e s') (h' : s'.Rests s'')
    (halive : s''.entities.get? e = s'.entities.get? e) : s.Gains e s'' where
  fresh := h.fresh
  issued := Nat.le_trans h.issued h'.lastId_le
  alive := halive ▸ h.alive
  others := fun other hother r'' hr'' => by
    obtain ⟨r', hr', hrefs'⟩ := h'.refs other r'' hr''
    obtain ⟨r, hr, hrefs⟩ := h.others other hother r' hr'
    exact ⟨r, hr, hrefs'.trans hrefs⟩


/-! ## Operations that leave the holders -/

theorem refs_ignoresTraffic : IgnoresTraffic Record.refs :=
  ⟨fun _ _ => ⟨rfl, rfl⟩, fun _ _ _ _ => rfl, fun _ _ _ _ => rfl, fun _ _ _ _ => rfl⟩

variable {s s' : State}

/-- A clean-up takes entities away. -/
theorem deleteAll_rests (s : State) (doomed : List Handle) : s.Rests (s.deleteAll doomed) := by
  have htold : s.Rests (doomed.foldl (fun s gone => s.unmatchPeers doomed gone) s) :=
    .of_agree (agree_unmatchAll refs_ignoresTraffic s doomed doomed)
  refine htold.trans ⟨Nat.le_of_eq (foldl_remove_lastId _ doomed).symm, fun e r hr => ?_⟩
  rw [deleteAll, foldl_remove_get?] at hr
  split at hr
  · exact absurd hr (by simp)
  · exact ⟨r, hr, rfl⟩

/-- An operation that neither creates an entity nor gives a hold back leaves the holders. -/
theorem perform_rests {operation : Operation} (hcreates : operation.creates = false)
    (hgives : operation.givesBack = false) (isFile : String → Bool) (s : State) :
    s.Rests (s.perform isFile operation).2 := by
  by_cases hbeside : operation.isBeside = true
  · exact .of_sameEntities (perform_beside hbeside isFile s)
  · have hcase := perform_cases isFile s operation
    generalize s.perform isFile operation = result at hcase ⊢
    cases hcase with
    | refused => exact .refl s
    | created hready hcreated => cases hcreated <;> cases hcreates
    | @joined side => cases side <;> cases hcreates
    | cleared => exact deleteAll_rests s _
    | registered => exact .of_agree ((agree_register s _ _).map Prod.snd)
    | wrote hok =>
        exact .of_agree (agree_write_of refs_ignoresTraffic.raised refs_ignoresTraffic.queue
          (fun _ _ _ _ => rfl) hok)
    | took r =>
        exact .of_agree (agree_take refs_ignoresTraffic.raised refs_ignoresTraffic.queue s r)
    | asked hok => exact .of_agree ((agree_statusCondition hok).map Prod.snd)
    | listened => exact .of_agree ((agree_setListener s _ _).map Prod.snd)
    | released => cases hgives
    | relisted order => exact .of_agree (agree_relist _ s order)
    | _ => exact absurd rfl hbeside

/-! ## Operations that create an entity -/

theorem insert_gains (s : State) (kind : EntityKind) (participant parent : Option Handle)
    (body : Body) : s.Gains s.next (s.insert kind participant parent body).2 where
  fresh := Nat.lt_succ_self _
  issued := Nat.le_refl _
  alive := ⟨_, by rw [insert_get?, if_pos rfl], rfl⟩
  others := fun other hother r hr => by
    rw [insert_get?, if_neg hother] at hr
    exact ⟨r, hr, rfl⟩

/-- A meeting changes no holders. -/
theorem joined_gains (s : State) (side : Side) (p g t : Handle) (qos : EndpointQos) :
    s.Gains s.next ((s.withEndpoint side p g t qos).discover s.next) := by
  have hinsert := insert_gains s side.kind (some p) (some g) (side.newBody t qos)
  have hagree : Agree Record.refs (s.withEndpoint side p g t qos)
      ((s.withEndpoint side p g t qos).discover s.next) :=
    agree_discover refs_ignoresTraffic _ _
  refine ⟨hinsert.fresh, Nat.le_trans hinsert.issued hagree.lastId_le, ?_, fun other hother r hr => ?_⟩
  · obtain ⟨r, hr, hrefs⟩ := hinsert.alive
    have hlook := hagree.look s.next
    rw [withEndpoint, hr, Option.map_some, hrefs] at hlook
    exact Option.map_eq_some_iff.mp hlook
  · obtain ⟨r', hr', hrefs'⟩ := (Rests.of_agree hagree).refs other r hr
    obtain ⟨r'', hr'', hrefs''⟩ := hinsert.others other hother r' hr'
    exact ⟨r'', hr'', hrefs'.trans hrefs''⟩

/-- An operation that answers with an entity has created it. -/
theorem perform_gains {isFile : String → Bool} {operation : Operation} {e : Handle}
    (hmade : s.perform isFile operation = (.entity e, s')) : s.Gains e s' := by
  have hcase := perform_cases isFile s operation
  rw [hmade] at hcase
  generalize hresult : (Reply.entity e, s') = result at hcase
  cases hcase with
  | created =>
      cases hresult
      exact insert_gains s _ _ _ _
  | joined =>
      cases hresult
      exact joined_gains s ..
  | took r => cases h : (s.take r).1 <;> rw [h] at hresult <;> cases hresult
  | _ => cases hresult

/-! ## Giving a hold back -/

theorem release_lastId (s : State) (e : Handle) : (s.release e).lastId = s.lastId := by
  unfold release
  split
  · rfl
  · dsimp only
    split
    · rw [remove_lastId]
      rfl
    · rfl

/-- Giving a hold back leaves one holder less, unless the entity goes. -/
theorem release_refs {e other : Handle} {r' : Record}
    (hr' : (s.release e).entities.get? other = some r') :
    ∃ r, s.entities.get? other = some r ∧
      r'.refs = if other = e then r.refs - 1 else r.refs := by
  -- the count goes down first; whether the entity goes as well is decided after that
  have hmodified : ∀ r', (s.modifyEntity e fun r => { r with refs := r.refs - 1 }).entities.get?
      other = some r' → ∃ r, s.entities.get? other = some r ∧
        r'.refs = if other = e then r.refs - 1 else r.refs := by
    intro r' hr'
    rw [modifyEntity_get?] at hr'
    split at hr'
    · rename_i he
      obtain ⟨r, hr, rfl⟩ := Option.map_eq_some_iff.mp hr'
      exact ⟨r, hr, by rw [if_pos he]⟩
    · rename_i he
      exact ⟨r', hr', by rw [if_neg he]⟩
  unfold release at hr'
  split at hr'
  · rename_i hnone
    refine ⟨r', hr', ?_⟩
    rw [if_neg]
    rintro rfl
    exact absurd (hnone.symm.trans hr') (by simp)
  · dsimp only at hr'
    split at hr'
    · rw [remove_get?] at hr'
      split at hr'
      · exact absurd hr' (by simp)
      · exact hmodified r' hr'
    · exact hmodified r' hr'

end State

end DdsBridge.Provider
