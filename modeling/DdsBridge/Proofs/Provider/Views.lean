import DdsBridge.Provider.Operation

/-!
# Views of the live entities

Most of what an operation does leaves most of what is known about an entity alone. A *view* is a
function of a record; two states agree in a view if every handle looks the same through it. The
updates that operations are made of are listed here once, with the views that they respect, so
that an invariant only has to say which view it depends on.

* **`State.Agree`** — agreement of two states in a view. It says nothing of the order in which the
  entities are listed.
* **`agree_modifyEntity`**, **`agree_raise`**, **`agree_lower`** — the updates of one record.
* **`agree_offer`**, **`agree_take`** — samples that come and go.
* **`insert_get?`**, **`remove_get?`** — a new entity, and one that goes.
-/

namespace DdsBridge

theorem Table.mem_keys_iff {κ α : Type} [DecidableEq κ] {t : Table κ α} {k : κ} :
    k ∈ t.keys ↔ ∃ a, t.get? k = some a := by
  simp only [Table.keys, List.mem_map, Prod.exists, exists_and_right, exists_eq_right,
    Table.mem_entries_iff]

@[simp] theorem Table.keys_modify {κ α : Type} [DecidableEq κ] (t : Table κ α) (k : κ)
    (f : α → α) : (t.modify k f).keys = t.keys := by
  simp [Table.keys, Table.modify, Table.map]

/-- A new key comes last. -/
theorem Table.keys_insert {κ α : Type} [DecidableEq κ] {t : Table κ α} {k : κ}
    (h : t.get? k = none) (a : α) : (t.insert k a).keys = t.keys ++ [k] := by
  unfold Table.insert
  split
  · next hsome => rw [h] at hsome; cases hsome
  · simp [Table.keys]

end DdsBridge

namespace DdsBridge.Provider

namespace State

variable {β γ : Type}

/-- The handle that the next new entity gets. -/
abbrev next (s : State) : Handle := ⟨s.lastId + 1⟩

/-! ## Look-ups after an update -/

@[simp] theorem modifyEntity_get? (s : State) (h k : Handle) (f : Record → Record) :
    (s.modifyEntity h f).entities.get? k =
      if k = h then (s.entities.get? k).map f else s.entities.get? k :=
  s.entities.get?_modify h k f

@[simp] theorem modifyEntity_lastId (s : State) (h : Handle) (f : Record → Record) :
    (s.modifyEntity h f).lastId = s.lastId := rfl

@[simp] theorem modifyEntity_maxSamples (s : State) (h : Handle) (f : Record → Record) :
    (s.modifyEntity h f).maxSamples = s.maxSamples := rfl

/-- Raising a status changes that record's statuses and nothing else that is kept in the table. -/
theorem raise_get? (s : State) (h k : Handle) (kind : StatusKind) :
    (s.raise h kind).entities.get? k =
      if k = h then (s.entities.get? k).map fun r => { r with raised := r.raised.insert kind }
      else s.entities.get? k := by
  unfold raise
  split
  · rename_i hnone
    by_cases hk : k = h
    · subst hk
      simp [hnone]
    · simp [hk]
  · exact modifyEntity_get? s h k _

@[simp] theorem raise_keys (s : State) (h : Handle) (kind : StatusKind) :
    (s.raise h kind).entities.keys = s.entities.keys := by
  unfold raise
  split
  · rfl
  · exact s.entities.keys_modify h _

@[simp] theorem raise_lastId (s : State) (h : Handle) (kind : StatusKind) :
    (s.raise h kind).lastId = s.lastId := by
  unfold raise
  split <;> rfl

@[simp] theorem raise_maxSamples (s : State) (h : Handle) (kind : StatusKind) :
    (s.raise h kind).maxSamples = s.maxSamples := by
  unfold raise
  split <;> rfl

@[simp] theorem lower_lastId (s : State) (h : Handle) (kind : StatusKind) :
    (s.lower h kind).lastId = s.lastId := rfl

@[simp] theorem lower_maxSamples (s : State) (h : Handle) (kind : StatusKind) :
    (s.lower h kind).maxSamples = s.maxSamples := rfl

/-- A new entity gets the next number and joins the entities there are. -/
theorem insert_get? (s : State) (kind : EntityKind) (participant parent : Option Handle)
    (body : Body) (k : Handle) :
    (s.insert kind participant parent body).2.entities.get? k =
      if k = s.next then
        some
          { kind, participant := participant.getD s.next, parent, refs := 1, raised := .none,
            condition := none, body }
      else s.entities.get? k :=
  s.entities.get?_insert _ _ _

section Insert

variable (s : State) (kind : EntityKind) (participant parent : Option Handle) (body : Body)

@[simp] theorem insert_fst : (s.insert kind participant parent body).1 = s.next := rfl

@[simp] theorem insert_lastId :
    (s.insert kind participant parent body).2.lastId = s.lastId + 1 := rfl

@[simp] theorem insert_maxSamples :
    (s.insert kind participant parent body).2.maxSamples = s.maxSamples := rfl

end Insert

/-! The order in which the entities are listed is no part of what is known about them. -/

@[simp] theorem relist_get? (s : State) (order : List Handle) (k : Handle) :
    (s.relist order).entities.get? k = s.entities.get? k := s.entities.get?_relist order k

@[simp] theorem relist_lastId (s : State) (order : List Handle) :
    (s.relist order).lastId = s.lastId := rfl

@[simp] theorem relist_maxSamples (s : State) (order : List Handle) :
    (s.relist order).maxSamples = s.maxSamples := rfl

theorem remove_get? (s : State) (h k : Handle) :
    (s.remove h).entities.get? k = if k = h then none else s.entities.get? k := by
  unfold remove
  split
  · rename_i hnone
    by_cases hk : k = h
    · subst hk
      simp [hnone]
    · simp [hk]
  · split <;> exact s.entities.get?_erase h k

@[simp] theorem remove_lastId (s : State) (h : Handle) : (s.remove h).lastId = s.lastId := by
  unfold remove
  split
  · rfl
  · split <;> rfl

@[simp] theorem remove_maxSamples (s : State) (h : Handle) :
    (s.remove h).maxSamples = s.maxSamples := by
  unfold remove
  split
  · rfl
  · split <;> rfl

/-! ## Agreement in a view -/

/-- The same handles name entities in both states, and each of them looks the same through a view.
Numbers are at most issued in between, and the bound of the queues stays. -/
structure Agree (view : Record → β) (s s' : State) : Prop where
  look : ∀ h, (s'.entities.get? h).map view = (s.entities.get? h).map view
  lastId_le : s.lastId ≤ s'.lastId
  maxSamples_eq : s'.maxSamples = s.maxSamples

/-- A view that does not look at whether one status is raised on an entity. -/
def IgnoresStatus (view : Record → β) (kind : StatusKind) : Prop :=
  ∀ r : Record, view { r with raised := r.raised.insert kind } = view r ∧
    view { r with raised := r.raised.remove kind } = view r

/-- A view that does not look at the statuses raised on an entity. -/
def IgnoresRaised (view : Record → β) : Prop := ∀ kind, IgnoresStatus view kind

/-- A view that does not look at the samples of a reader. -/
def IgnoresQueue (view : Record → β) : Prop :=
  ∀ (r : Record) x queue, r.body = .reader x →
    view { r with body := .reader { x with queue } } = view r

theorem Agree.refl (view : Record → β) (s : State) : Agree view s s :=
  ⟨fun _ => rfl, Nat.le_refl _, rfl⟩

theorem Agree.trans {view : Record → β} {s₁ s₂ s₃ : State} (h₁ : Agree view s₁ s₂)
    (h₂ : Agree view s₂ s₃) : Agree view s₁ s₃ :=
  ⟨fun h => (h₂.look h).trans (h₁.look h), Nat.le_trans h₁.lastId_le h₂.lastId_le,
    h₂.maxSamples_eq.trans h₁.maxSamples_eq⟩

/-- What a view does not tell apart, no function of the view tells apart. -/
theorem Agree.map {view : Record → β} {s s' : State} (h : Agree view s s') (g : β → γ) :
    Agree (g ∘ view) s s' := by
  refine ⟨fun k => ?_, h.lastId_le, h.maxSamples_eq⟩
  rw [← Option.map_map, ← Option.map_map, h.look k]

/-- States in which every look-up finds the same agree in every view. -/
theorem Agree.of_get? {view : Record → β} {s s' : State}
    (hget : ∀ h, s'.entities.get? h = s.entities.get? h) (hid : s.lastId ≤ s'.lastId)
    (hmax : s'.maxSamples = s.maxSamples) : Agree view s s' :=
  ⟨fun h => by rw [hget], hid, hmax⟩

/-- The conditions, the wait sets and the settings are no part of an entity. -/
theorem Agree.of_entities {view : Record → β} {s s' : State} (he : s'.entities = s.entities)
    (hid : s.lastId ≤ s'.lastId) (hmax : s'.maxSamples = s.maxSamples) : Agree view s s' :=
  .of_get? (fun _ => by rw [he]) hid hmax

theorem agree_relist (view : Record → β) (s : State) (order : List Handle) :
    Agree view s (s.relist order) :=
  .of_get? (relist_get? s order) (Nat.le_refl _) rfl

theorem Agree.foldl {α : Type} {view : Record → β} {f : State → α → State}
    (hf : ∀ s a, Agree view s (f s a)) (s : State) (as : List α) :
    Agree view s (as.foldl f s) := by
  induction as generalizing s with
  | nil => exact .refl view s
  | cons a rest ih => exact (hf s a).trans (ih (f s a))

theorem agree_modifyEntity {view : Record → β} (s : State) (h : Handle) {f : Record → Record}
    (hf : ∀ r, view (f r) = view r) : Agree view s (s.modifyEntity h f) := by
  refine ⟨fun k => ?_, Nat.le_refl _, rfl⟩
  rw [modifyEntity_get?]
  split
  · rw [Option.map_map]
    exact congrArg (fun g => (s.entities.get? k).map g) (funext hf)
  · rfl

/-- A view that does not look at a status does not notice that it is raised. -/
theorem agree_raise {view : Record → β} {kind : StatusKind} (hv : IgnoresStatus view kind)
    (s : State) (h : Handle) : Agree view s (s.raise h kind) := by
  refine ⟨fun k => ?_, Nat.le_of_eq (raise_lastId ..).symm, raise_maxSamples ..⟩
  rw [raise_get?]
  split
  · rw [Option.map_map]
    exact congrArg (fun g => (s.entities.get? k).map g) (funext fun r => (hv r).1)
  · rfl

theorem agree_lower {view : Record → β} {kind : StatusKind} (hv : IgnoresStatus view kind)
    (s : State) (h : Handle) : Agree view s (s.lower h kind) :=
  agree_modifyEntity s h fun r => (hv r).2

/-- Changing a writer is invisible to a view on which the changed body looks as before. -/
theorem agree_modifyWriter {view : Record → β} (s : State) (h : Handle) {f : Writer → Writer}
    (hf : ∀ (r : Record) w, r.body = .writer w →
      view { r with body := .writer (f w) } = view r) :
    Agree view s (s.modifyWriter h f) := by
  refine agree_modifyEntity s h fun r => ?_
  split
  · exact hf r _ ‹_›
  · rfl

theorem agree_modifyReader {view : Record → β} (s : State) (h : Handle) {f : Reader → Reader}
    (hf : ∀ (r : Record) x, r.body = .reader x →
      view { r with body := .reader (f x) } = view r) :
    Agree view s (s.modifyReader h f) := by
  refine agree_modifyEntity s h fun r => ?_
  split
  · exact hf r _ ‹_›
  · rfl

/-! ## Handing samples over -/

/-- A view that does not look at whether there is something to take. -/
def IgnoresData (view : Record → β) : Prop :=
  IgnoresStatus view .dataAvailable ∧ IgnoresStatus view .dataOnReaders

theorem IgnoresRaised.data {view : Record → β} (hv : IgnoresRaised view) : IgnoresData view :=
  ⟨hv _, hv _⟩

theorem agree_announce {view : Record → β} (hv : IgnoresData view) (s : State)
    (reader : Handle) : Agree view s (s.announce reader) := by
  unfold announce
  dsimp only
  split
  · exact (agree_raise hv.1 s reader).trans (agree_raise hv.2 _ _)
  · exact agree_raise hv.1 s reader

/-- Offering a sample changes statuses and one queue. -/
theorem agree_offer {view : Record → β} (hv : IgnoresRaised view) (hq : IgnoresQueue view)
    (s : State) (reader : Handle) (sample : Sample) : Agree view s (s.offer reader sample) := by
  unfold offer
  split
  · exact .refl view s
  · split
    · exact agree_raise (hv _) s reader
    · exact (agree_modifyReader s reader fun r x hx => hq r x _ hx).trans
        (agree_announce hv.data _ reader)

theorem agree_offerAll {view : Record → β} (hv : IgnoresRaised view) (hq : IgnoresQueue view)
    (s : State) (reader : Handle) (samples : List Sample) :
    Agree view s (s.offerAll reader samples) :=
  .foldl (fun s sample => agree_offer hv hq s reader sample) s samples

theorem agree_settleSubscriber {view : Record → β} (hv : IgnoresData view) (s : State)
    (subscriber : Handle) : Agree view s (s.settleSubscriber subscriber) := by
  unfold settleSubscriber
  split
  · exact .refl view s
  · exact agree_lower hv.2 s subscriber

theorem agree_settleReader {view : Record → β} (hv : IgnoresData view) (s : State)
    (reader : Handle) : Agree view s (s.settleReader reader) := by
  unfold settleReader
  dsimp only
  split
  · exact (agree_lower hv.1 s reader).trans (agree_settleSubscriber hv _ _)
  · exact agree_lower hv.1 s reader

/-- What a take leaves: the reader has one sample less or there was none, and its statuses may have
been lowered. -/
theorem take_snd (s : State) (reader : Handle) :
    (s.take reader).2 = s ∨ (s.take reader).2 = s.settleReader reader ∨ ∃ rest,
      (s.take reader).2 = s.modifyReader reader (fun x => { x with queue := rest }) ∨
        (s.take reader).2 =
          (s.modifyReader reader fun x => { x with queue := rest }).settleReader reader := by
  unfold take proceed
  split
  · exact .inl rfl
  · split
    · exact .inl rfl
    · split
      · exact .inr (.inl rfl)
      · rename_i rest _
        dsimp only [succeed]
        split
        · exact .inr (.inr ⟨rest, .inr rfl⟩)
        · exact .inr (.inr ⟨rest, .inl rfl⟩)

theorem agree_take {view : Record → β} (hv : IgnoresRaised view) (hq : IgnoresQueue view)
    (s : State) (reader : Handle) : Agree view s (s.take reader).2 := by
  have hpop : ∀ rest, Agree view s (s.modifyReader reader fun x => { x with queue := rest }) :=
    fun rest => agree_modifyReader s reader fun r x hx => hq r x rest hx
  rcases s.take_snd reader with h | h | ⟨rest, h | h⟩ <;> rw [h]
  · exact .refl view s
  · exact agree_settleReader hv.data s reader
  · exact hpop rest
  · exact (hpop rest).trans (agree_settleReader hv.data _ reader)

end State

end DdsBridge.Provider
