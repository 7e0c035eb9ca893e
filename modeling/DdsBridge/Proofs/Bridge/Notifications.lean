import DdsBridge.Proofs.Bridge.Registrations
import DdsBridge.Proofs.Provider.Calls

/-!
# Samples and their notifications

The provider calls the listener of a reader for each sample that the reader accepts, the listener
puts a notification into the bridge's channel, and a dispatch takes it out and calls the callback.
Between these anything can happen. While a reader keeps its callback, no sample is lost on this way
and none is counted twice: each accepted sample is a call that is due, a notification that waits, or
a callback that was called, and the samples change places in the order in which they were accepted.

* **`Relay.Step.jobs`**, **`Relay.Step.pending`** — what an event puts on the way, and what it takes
  off.
* **`Relay.Ledger`** — accepted samples, by what became of their notifications.
* **`Relay.Silent`**, **`Relay.Step.silent`** — before the callback is set nothing is on its way.
* **`Relay.Attended`**, **`Relay.Step.attended`** — after it was set the ledger is right.
* **`Bridge.notifications_account`** — every story.
-/

namespace DdsBridge

open Memory
open Provider (Operation Reply State)

variable {C : Type}

/-! ## The provider's side -/

namespace Provider.State

variable {s s' t : State} {r : Handle}

/-- What is offered to a reader shows in the entities. -/
theorem offers_of_entities (h : t.entities = s'.entities) (operation : Operation) (reply : Reply) :
    s.offers t r operation reply = s.offers s' r operation reply := by
  have hreplayed : s.replayed t r = s.replayed s' r := by
    unfold replayed keptFor matchedWith writer? reader?
    rw [h]
  have hmatched : t.matchedWith r = s'.matchedWith r := by
    unfold matchedWith
    rw [h]
  have hreader : t.reader? r = s'.reader? r := by
    unfold reader?
    rw [h]
  unfold offers
  rw [hreplayed, hmatched, hreader]

theorem SameEntities.listenerOf (h : s.SameEntities t) (r : Handle) :
    t.listenerOf r = s.listenerOf r := by
  unfold State.listenerOf
  rw [h.1]

theorem SameEntities.inbox (h : s.SameEntities t) (r : Handle) : t.inbox r = s.inbox r := by
  unfold State.inbox
  rw [h.1]

theorem InboxStep.congr {offered taken : List Sample} (h : InboxStep s s' r offered taken)
    (hsame : s'.SameEntities t) : InboxStep s t r offered taken := by
  have hinbox := hsame.inbox r
  cases h with
  | absent hgone htaken => exact .absent (hinbox.trans hgone) htaken
  | offered hb htaken hb' => exact .offered hb htaken (hinbox.trans hb')
  | taken hb hq hoffered htaken hb' => exact .taken hb hq hoffered htaken (hinbox.trans hb')
  | born qos hnew htaken hb' => exact .born qos hnew htaken (hinbox.trans hb')

theorem SameEntities.matching (h : s.SameEntities t) (hm : s.Matching) : t.Matching :=
  hm.kept (.of_entities h.1 h.2.1 h.2.2)

end Provider.State

/-- The notifications that a listener call makes. -/
def Provider.Call.notes (call : Provider.Call) : List Notification :=
  match call.listener with
  | .channel => [⟨call.reader, call.status⟩]
  | .labelled _ => []

namespace World

theorem absorb_calls {B : Type} (w : World B) (s : State) : (w.absorb s).provider.calls = [] := by
  obtain ⟨ended, waits, h⟩ := w.absorb_eq s
  obtain ⟨waitSets, hleave⟩ := State.leaveAll_eq { s with calls := [] } ended
  rw [h]
  show ({ s with calls := [] }.leaveAll ended).calls = []
  rw [hleave]

theorem deliver_pending {B : Type} (w : World B) (call : Provider.Call) :
    (w.deliver call).bridge.pending = w.bridge.pending ++ call.notes := by
  unfold deliver Provider.Call.notes
  cases call.listener with
  | channel => rfl
  | labelled label => exact (List.append_nil _).symm

/-- A reader with a callback can hold samples. -/
theorem Registered.inbox {w : World (Body C)} (h : w.Registered) {r : Handle}
    (hset : w.bridge.callbacks.contains r = true) : (w.provider.inbox r).isSome = true := by
  obtain ⟨halive, _, _, hbody⟩ := h.held hset
  obtain ⟨p, hp⟩ := State.isAlive_iff_profile.mp halive
  have hkind : p.role.kind = .reader := (h.truthful.kinded hbody).kind hp
  obtain ⟨record, hrecord, rfl⟩ := State.profile_eq_some_iff.mp hp
  obtain ⟨_, _, _, _, _, _, body⟩ := record
  cases body with
  | reader x =>
      rw [State.inbox, hrecord]
      rfl
  | _ => cases hkind

end World

namespace Relay

variable {x y z : Relay C}

/-- The listener calls for a reader that are due. -/
def callsFor (x : Relay C) (r : Handle) : List Provider.Call := x.jobs.filter (·.reader = r)

/-- The notifications for a reader that wait in the bridge's channel. -/
def notesFor (x : Relay C) (r : Handle) : List Notification :=
  x.world.bridge.pending.filter (·.reader = r)

/-- The listener call that an event makes. -/
def Event.delivers : Event → Option Provider.Call
  | .delivered call => some call
  | _ => none

/-- The samples that an event offers to a reader. -/
def Moment.offered (r : Handle) (m : Moment C) : List Sample :=
  match m.event.deed with
  | some (operation, reply) =>
    m.before.world.provider.offers m.after.world.provider r operation reply
  | none => []

/-- The sample that somebody takes from a reader in an event. -/
def Moment.taken (r : Handle) (m : Moment C) : List Sample :=
  match m.event.deed with
  | some (operation, reply) => Provider.takes r operation reply
  | none => []

/-- The samples that a reader accepts of those that an event offers it. -/
def Moment.accepted (r : Handle) (m : Moment C) : List Sample :=
  m.before.world.provider.acceptedOf r (m.offered r)

/-- An event calls the bridge's listener for a reader. -/
def Event.deliversFor (r : Handle) (event : Event) : Bool := event.delivers.any (·.reader = r)

/-- An event consumes a notification for a reader. -/
def Event.consumesFor (r : Handle) (event : Event) : Bool := event.consumes.any (·.reader = r)

theorem Event.deliversFor_iff {r : Handle} {event : Event} :
    event.deliversFor r = true ↔ ∃ call, event = .delivered call ∧ call.reader = r := by
  cases event <;> simp [deliversFor, delivers]

theorem Event.consumesFor_iff {r : Handle} {event : Event} :
    event.consumesFor r = true ↔ ∃ n, event.consumes = some n ∧ n.reader = r := by
  cases h : event.consumes <;> simp [consumesFor, h]

/-- At most one thing of a sort. -/
theorem filter_toList {α : Type} (p : α → Bool) (one : Option α) :
    one.toList.filter p = if one.any p = true then one.toList else [] := by
  cases one with
  | none => rfl
  | some a => cases h : p a <;> simp [h]

theorem Event.delivers_filter (r : Handle) (event : Event) :
    event.delivers.toList.filter (·.reader = r) =
      if event.deliversFor r = true then event.delivers.toList else [] := filter_toList _ _

theorem Event.consumes_filter (r : Handle) (event : Event) :
    event.consumes.toList.filter (·.reader = r) =
      if event.consumesFor r = true then event.consumes.toList else [] := filter_toList _ _

/-- Samples that a reader accepted, oldest first: those whose listener call is due, those whose
notification waits, and those whose notification was consumed. -/
structure Ledger where
  due : List Sample
  waiting : List Sample
  done : List Sample

/-- All samples of a ledger, oldest first. -/
def Ledger.all (l : Ledger) : List Sample := l.done ++ (l.waiting ++ l.due)

/-- The ledger of a reader after one more event. A listener call and a notification stand for the
oldest sample that there is. -/
def Ledger.note (r : Handle) (l : Ledger) (m : Moment C) : Ledger :=
  if m.event.deliversFor r then
    { l with due := l.due.tail, waiting := l.waiting ++ l.due.take 1 }
  else if m.event.consumesFor r then
    { l with waiting := l.waiting.tail, done := l.done ++ l.waiting.take 1 }
  else { l with due := l.due ++ m.accepted r }

/-- The ledger of a reader for what happened. -/
def ledger (r : Handle) (past : List (Moment C)) : Ledger := past.foldl (Ledger.note r) ⟨[], [], []⟩

theorem ledger_snoc (r : Handle) (past : List (Moment C)) (m : Moment C) :
    ledger r (past ++ [m]) = (ledger r past).note r m := by
  rw [ledger, List.foldl_append]
  rfl

/-- An event that moves a notification is nothing to the provider. -/
theorem Event.deed_of_moves {r : Handle} {event : Event}
    (h : event.deliversFor r = true ∨ event.consumesFor r = true) : event.deed = none := by
  have hmoves : (event.deliversFor r || event.consumesFor r) = true := Bool.or_eq_true_iff.mpr h
  cases event <;> first | rfl | cases hmoves

theorem Moment.accepted_of_deed {r : Handle} {m : Moment C} (h : m.event.deed = none) :
    m.accepted r = [] := by
  have hoffered : m.offered r = [] := by
    unfold offered
    rw [h]
  exact (congrArg _ hoffered).trans (State.acceptedOf_nil _ r)

/-- A ledger gains the samples that the reader accepts, and loses none. -/
theorem Ledger.note_all (r : Handle) (l : Ledger) (m : Moment C) :
    (l.note r m).all = l.all ++ m.accepted r := by
  have hmove : ∀ samples : List Sample, samples.take 1 ++ samples.tail = samples := by
    rintro (_ | _) <;> rfl
  unfold note all
  split
  · rename_i h
    simp [m.accepted_of_deed (Event.deed_of_moves (.inl h)), hmove]
  · split
    · rename_i h
      rw [m.accepted_of_deed (Event.deed_of_moves (.inr h)), List.append_nil]
      simp only [List.append_assoc]
      rw [← List.append_assoc (l.waiting.take 1), hmove]
    · simp only [List.append_assoc]

theorem ledger_all (r : Handle) (past : List (Moment C)) :
    (ledger r past).all = past.flatMap (Moment.accepted r) := by
  suffices h : ∀ l : Ledger, (past.foldl (Ledger.note r) l).all =
      l.all ++ past.flatMap (Moment.accepted r) from h ⟨[], [], []⟩
  induction past with
  | nil => exact fun l => (List.append_nil _).symm
  | cons m rest ih =>
      intro l
      rw [List.foldl_cons, ih, l.note_all, List.append_assoc, List.flatMap_cons]

/-! ## What an event puts on the way -/

/-- What an event is to the provider, with the listener calls that are due after it. -/
inductive Outcome (x : Relay C) (event : Event) (y : Relay C) : Prop where
  | idle (hdeed : event.deed = none) (hsame : x.world.provider.SameEntities y.world.provider)
      (hjobs : x.jobs = event.delivers.toList ++ y.jobs)
  | acted {isFile : String → Bool} {operation : Operation} {reply : Reply} {s : State}
      (hdeed : event.deed = some (operation, reply))
      (hperform : x.world.provider.perform isFile operation = (reply, s))
      (hsame : s.SameEntities y.world.provider) (hjobs : x.jobs ++ s.calls = y.jobs)

theorem Grants.outcome {operation : Operation} {heard : Bool} {event : Event}
    {callbacks : Table Handle Registration} (h : x.Grants operation heard y)
    (hdeed : event.deed = if heard = true then some (operation, .done) else none)
    (hdelivers : event.delivers = none) :
    x.Outcome event ⟨y.world.withCallbacks callbacks, y.jobs⟩ := by
  cases h with
  | heard h => exact .acted hdeed h (World.absorb_sameEntities _ _) rfl
  | excused =>
      refine .idle hdeed ⟨rfl, Nat.le_refl _, rfl⟩ ?_
      rw [hdelivers]
      rfl

theorem Grants.calls {operation : Operation} {heard : Bool} (h : x.Grants operation heard y)
    (hidle : x.world.provider.calls = []) : y.world.provider.calls = [] := by
  cases h with
  | heard h => exact World.absorb_calls _ _
  | excused => exact hidle

variable [HostCode C]

/-- No listener call is forgotten. -/
theorem Step.jobs {event : Event} (h : Step x event y) (hidle : x.world.provider.calls = []) :
    x.Outcome event y ∧ y.world.provider.calls = [] := by
  have hsame : x.world.provider.SameEntities x.world.provider := ⟨rfl, Nat.le_refl _, rfl⟩
  cases h with
  | hosted h => exact ⟨.idle rfl (h.provider.symm ▸ hsame) rfl, h.provider.symm ▸ hidle⟩
  | discarded h =>
      obtain ⟨_, hdiscard⟩ := World.discard_of_not_capsuleAt h
      have hprovider := congrArg World.provider hdiscard
      exact ⟨.idle rfl (hprovider ▸ hsame) rfl, hprovider ▸ hidle⟩
  | sealed => exact ⟨.idle rfl hsame rfl, hidle⟩
  | rested waitSets =>
      refine ⟨.idle rfl (World.absorb_sameEntities _ { x.world.provider with waitSets }) ?_,
        World.absorb_calls _ _⟩
      show x.jobs = x.jobs ++ x.world.provider.calls
      rw [hidle, List.append_nil]
  | performed _ h =>
      exact ⟨.acted rfl h (World.absorb_sameEntities _ _) rfl, World.absorb_calls _ _⟩
  | @released _ _ e =>
      have hreleased : x.world.provider.perform (fun _ => false) (.release e) =
          (.done, x.world.provider.release e) := rfl
      exact ⟨.acted rfl hreleased (World.absorb_sameEntities _ _) rfl, World.absorb_calls _ _⟩
  | set _ _ hgrants | cleared hgrants | cleaned hgrants =>
      exact ⟨hgrants.outcome (by cases hgrants <;> rfl) rfl, hgrants.calls hidle⟩
  | called | ignored | lapsed => exact ⟨.idle rfl hsame rfl, hidle⟩
  | @delivered call rest h =>
      have hprovider := World.deliver_provider x.world call
      exact ⟨.idle rfl (hprovider.symm ▸ hsame) h, hprovider.symm ▸ hidle⟩

/-- Notifications come from listener calls and are consumed from the front. -/
theorem Step.pending {event : Event} (h : Step x event y) :
    x.world.bridge.pending ++ event.delivers.toList.flatMap Provider.Call.notes =
      event.consumes.toList ++ y.world.bridge.pending := by
  have hkept : ∀ {y : Relay C}, y.world.bridge.pending = x.world.bridge.pending →
      x.world.bridge.pending ++ [] = [] ++ y.world.bridge.pending := fun h => by simp [h]
  cases h with
  | hosted _ _ hpending => exact hkept hpending
  | discarded h =>
      obtain ⟨_, hdiscard⟩ := World.discard_of_not_capsuleAt h
      exact hkept (congrArg (fun w => w.bridge.pending) hdiscard)
  | sealed => exact hkept rfl
  | rested | performed =>
      exact hkept (congrArg BridgeState.pending (x.world.absorb_frame _).2)
  | @released r kind e observed h =>
      obtain ⟨-, hbridge⟩ := (x.world.uncap r kind e observed).absorb_frame
        (x.world.provider.release e)
      exact hkept (congrArg BridgeState.pending hbridge :)
  | set _ _ hgrants | cleared hgrants | cleaned hgrants =>
      exact hkept (congrArg BridgeState.pending hgrants.frame.2 :)
  | called hpending | ignored hpending | lapsed hpending =>
      exact (List.append_nil _).trans hpending
  | @delivered call rest h =>
      show _ ++ (call.notes ++ []) = [] ++ (x.world.deliver call).bridge.pending
      rw [List.append_nil, World.deliver_pending, List.nil_append]

/-! ## The state between events -/

/-- What holds at all times: the callbacks belong to readers that are there, the right endpoints are
matched, and every listener call is on its way. -/
structure Sound (x : Relay C) : Prop where
  registered : x.world.Registered
  matching : x.world.provider.Matching
  idle : x.world.provider.calls = []

omit [HostCode C] in
theorem Sound.evolves (hx : x.Sound) {isFile : String → Bool} {operation : Operation}
    {reply : Reply} {s : State}
    (hperform : x.world.provider.perform isFile operation = (reply, s)) :
    x.world.provider.Evolves operation (reply, s) :=
  hperform ▸ State.perform_evolves hx.registered.truthful.wellFormed isFile operation

theorem Step.sound {event : Event} (h : Step x event y) (hx : x.Sound) : y.Sound := by
  obtain ⟨houtcome, hidle⟩ := h.jobs hx.idle
  refine ⟨h.registered hx.registered, ?_, hidle⟩
  cases houtcome with
  | idle _ hsame => exact hsame.matching hx.matching
  | acted _ hperform hsame =>
      have hwf := hx.registered.truthful.wellFormed
      exact hsame.matching (hx.matching.evolves hwf (hx.evolves hperform))

/-- A story keeps what its events keep. -/
theorem Story.sound {past : List (Moment C)} (h : Story x past y) (hx : x.Sound) : y.Sound := by
  induction h with
  | start => exact hx
  | next _ hstep ih => exact hstep.sound ih

/-- What an event does to the queue of a reader. -/
theorem Step.inbox {event : Event} (h : Step x event y) (hx : x.Sound) (r : Handle) :
    State.InboxStep x.world.provider y.world.provider r
      (Moment.offered r ⟨x, event, y⟩) (Moment.taken r ⟨x, event, y⟩) := by
  obtain ⟨houtcome, -⟩ := h.jobs hx.idle
  unfold Moment.offered Moment.taken
  cases houtcome with
  | idle hdeed hsame =>
      rw [hdeed]
      exact .same (hsame.inbox r)
  | acted hdeed hperform hsame =>
      have hwf := hx.registered.truthful.wellFormed
      rw [hdeed]
      dsimp only
      rw [State.offers_of_entities hsame.1]
      exact ((hx.evolves hperform).inboxStep hx.matching hwf r).congr hsame

/-- Everything in a story is a step from a sound state. -/
theorem Story.steps {past : List (Moment C)} (h : Story x past y) (hx : x.Sound) :
    ∀ m ∈ past, m.before.Sound ∧ Step m.before m.event m.after := by
  induction h with
  | start => exact List.forall_mem_nil _
  | next hbefore hstep ih =>
      refine List.forall_mem_append.mpr ⟨ih, fun m hm => ?_⟩
      obtain rfl := List.mem_singleton.mp hm
      exact ⟨hbefore.sound hx, hstep⟩

/-- The listener that an event sets for a reader is the bridge's or none. -/
theorem Step.setListener {event : Event} (h : Step x event y) {r : Handle}
    {listener : Option Provider.Listener} {mask : StatusMask} {reply : Reply}
    (hdeed : event.deed = some (.setListener r listener mask, reply)) :
    (event = .set r true ∧ listener = some .channel ∧ mask = .ofKind .dataAvailable ∨
      event = .cleared r true ∧ listener = none) ∧ reply = .done := by
  cases event with
  | performed =>
      cases hdeed
      cases h with
      | performed hroutine => cases hroutine
  | set reader heard =>
      cases heard <;> cases hdeed
      exact ⟨.inl ⟨rfl, rfl, rfl⟩, rfl⟩
  | cleared reader heard =>
      cases heard <;> cases hdeed
      exact ⟨.inr ⟨rfl, rfl⟩, rfl⟩
  | cleaned participant heard gone => cases heard <;> cases hdeed
  | _ => cases hdeed

/-- An operation that sets a listener calls nobody. -/
theorem perform_setListener {isFile : String → Bool} {s s' : State} {r : Handle}
    {listener : Option Provider.Listener} {mask : StatusMask} (hwf : s.WellFormed)
    (h : s.perform isFile (.setListener r listener mask) = (.done, s')) :
    s'.calls = s.calls ∧ ∀ k, s'.listenerOf k =
      if k = r then listener.map fun l => (l, mask) else s.listenerOf k := by
  have hperform : s.perform isFile (.setListener r listener mask) =
      (s.setListener r listener mask).settle := rfl
  rw [hperform] at h
  rcases hset : s.setListener r listener mask with ⟨_ | ⟨⟩, t⟩ <;> rw [hset] at h <;> cases h
  exact State.setListener_listenerOf hwf hset

/-- An operation that does not change who listens to a reader: the reader's listener is called for
the samples that it accepts. -/
theorem Step.heard {event : Event} (h : Step x event y) (hx : x.Sound) {isFile : String → Bool}
    {operation : Operation} {reply : Reply} {s : State}
    (hdeed : event.deed = some (operation, reply))
    (hperform : x.world.provider.perform isFile operation = (reply, s)) {r : Handle}
    (hset : event = .set r true →
      x.world.provider.listenerOf r = some (.channel, .ofKind .dataAvailable))
    (hcleared : event = .cleared r true → x.world.provider.listenerOf r = none) :
    x.world.provider.Heard r operation (reply, s) := by
  by_cases hlistens : ∃ k listener mask, operation = .setListener k listener mask
  · obtain ⟨k, listener, mask, rfl⟩ := hlistens
    obtain ⟨hevent, rfl⟩ := h.setListener hdeed
    obtain ⟨hcalls, hlistener⟩ :=
      perform_setListener hx.registered.truthful.wellFormed hperform
    refine .quiet (.of_same ((hlistener r).trans ?_) hcalls) rfl
    split
    · rename_i hk
      subst hk
      rcases hevent with ⟨rfl, rfl, rfl⟩ | ⟨rfl, rfl⟩
      · exact (hset rfl).symm
      · exact (hcleared rfl).symm
    · rfl
  · rw [← hperform]
    exact State.perform_heard hx.registered.truthful.wellFormed hx.matching isFile
      (fun k listener mask h => hlistens ⟨k, listener, mask, h⟩) r

omit [HostCode C] in
/-- The listener calls for one reader make the notifications for that reader. -/
theorem notes_filter (calls : List Provider.Call) (r : Handle) :
    (calls.flatMap Provider.Call.notes).filter (·.reader = r) =
      (calls.filter (·.reader = r)).flatMap Provider.Call.notes := by
  induction calls with
  | nil => rfl
  | cons call rest ih =>
      obtain ⟨listener, reader, status⟩ := call
      rw [List.flatMap_cons, List.filter_append, ih, List.filter_cons]
      cases listener <;> by_cases hr : reader = r <;> simp [Provider.Call.notes, hr]

/-- The notifications for one reader before and after an event. -/
theorem Step.notesFor {event : Event} (h : Step x event y) (r : Handle) :
    x.notesFor r ++ (event.delivers.toList.filter (·.reader = r)).flatMap Provider.Call.notes =
      event.consumes.toList.filter (·.reader = r) ++ y.notesFor r := by
  rw [← notes_filter]
  unfold Relay.notesFor
  rw [← List.filter_append, ← List.filter_append, h.pending]

/-! ## Before a callback is set -/

/-- Nobody listens to a reader, and nothing about it is on its way. -/
structure Silent (x : Relay C) (r : Handle) : Prop where
  listener : x.world.provider.listenerOf r = none
  calls : x.callsFor r = []
  notes : x.notesFor r = []

theorem Step.silent {event : Event} {r : Handle} (h : Step x event y) (hx : x.Sound)
    (hsilent : x.Silent r) (hevent : event ≠ .set r true) : y.Silent r := by
  obtain ⟨hlistener, hdelivers, hcalls⟩ : y.world.provider.listenerOf r = none ∧
      event.delivers.toList.filter (·.reader = r) = [] ∧ y.callsFor r = [] := by
    obtain ⟨houtcome, -⟩ := h.jobs hx.idle
    cases houtcome with
    | idle _ hsame hjobs =>
        have hcalls := hsilent.calls
        unfold callsFor at hcalls
        rw [hjobs, List.filter_append, List.append_eq_nil_iff] at hcalls
        exact ⟨(hsame.listenerOf r).trans hsilent.listener, hcalls⟩
    | @acted isFile operation reply s hdeed hperform hsame hjobs =>
        have hheard := h.heard hx hdeed hperform (fun hset => absurd hset hevent)
          fun _ => hsilent.listener
        obtain ⟨hlistener, hcalls⟩ := hheard.unheard hsilent.listener
        refine ⟨(hsame.listenerOf r).trans hlistener, ?_, ?_⟩
        · cases event <;> first | rfl | cases hdeed
        · have hnone : s.callsOf r = [] := by rw [hcalls, State.callsOf, hx.idle, List.filter_nil]
          unfold callsFor
          rw [← hjobs, List.filter_append]
          exact List.append_eq_nil_iff.mpr ⟨hsilent.calls, hnone⟩
  refine ⟨hlistener, hcalls, ?_⟩
  have hnotes := h.notesFor r
  rw [hdelivers, hsilent.notes] at hnotes
  exact (List.append_eq_nil_iff.mp hnotes.symm).2

theorem Story.silent {past : List (Moment C)} {r : Handle} (h : Story x past y) (hx : x.Sound)
    (hsilent : x.Silent r) (hpast : ∀ m ∈ past, m.event ≠ .set r true) : y.Silent r := by
  induction h with
  | start => exact hsilent
  | next hbefore hstep ih =>
      obtain ⟨hbefore', hlast⟩ := List.forall_mem_append.mp hpast
      exact hstep.silent (hbefore.sound hx) (ih hbefore') (hlast _ List.mem_cons_self)

/-! ## While a callback is set -/

/-- A reader has a callback, the bridge listens to its data, and its ledger says what is on its
way. -/
structure Attended (x : Relay C) (r : Handle) (l : Ledger) : Prop where
  set : x.world.bridge.callbacks.contains r = true
  listener : x.world.provider.listenerOf r = some (.channel, .ofKind .dataAvailable)
  calls : x.callsFor r = l.due.map fun _ => ⟨.channel, r, .dataAvailable⟩
  notes : x.notesFor r = l.waiting.map fun _ => ⟨r, .dataAvailable⟩

/-- The callback of a reader is set for the first time. -/
theorem Step.attends {r : Handle} (h : Step x (.set r true) y) (hx : x.Sound)
    (hsilent : x.Silent r) : y.Attended r ⟨[], [], []⟩ := by
  have hset : y.world.bridge.callbacks.contains r = true := by
    rw [h.callbacks hx.registered, Event.verdict, if_pos rfl]
    rfl
  have hnotes := h.notesFor r
  obtain ⟨houtcome, -⟩ := h.jobs hx.idle
  cases houtcome with
  | idle hdeed => cases hdeed
  | @acted _ _ _ s hdeed hperform hsame hjobs =>
      cases hdeed
      obtain ⟨hcalls, hlistener⟩ :=
        perform_setListener hx.registered.truthful.wellFormed hperform
      refine ⟨hset, ?_, ?_, ?_⟩
      · rw [hsame.listenerOf, hlistener, if_pos rfl]
        rfl
      · unfold callsFor
        rw [← hjobs, hcalls, hx.idle, List.append_nil]
        exact hsilent.calls
      · rw [hsilent.notes] at hnotes
        exact (List.append_eq_nil_iff.mp hnotes.symm).2

/-- A reader keeps its callback, which may be replaced. -/
theorem Step.staysSet {event : Event} {r : Handle} (h : Step x event y) (hx : x.Sound)
    (hset : x.world.bridge.callbacks.contains r = true) (hkept : event.verdict r ≠ some false) :
    y.world.bridge.callbacks.contains r = true := by
  rw [h.callbacks hx.registered, hset]
  cases hverdict : event.verdict r with
  | none => rfl
  | some verdict =>
      cases verdict
      · exact absurd hverdict hkept
      · rfl

/-- Listener calls for a reader that are made or due come from samples that the reader accepted. -/
theorem Step.callsFor {event : Event} {r : Handle} {l : Ledger} (h : Step x event y) (hx : x.Sound)
    (hattended : x.Attended r l) (hkept : event.verdict r ≠ some false) :
    y.world.provider.listenerOf r = some (.channel, .ofKind .dataAvailable) ∧
      (l.due ++ Moment.accepted r ⟨x, event, y⟩).map (fun _ => ⟨.channel, r, .dataAvailable⟩) =
        event.delivers.toList.filter (·.reader = r) ++ y.callsFor r := by
  obtain ⟨houtcome, -⟩ := h.jobs hx.idle
  rw [List.map_append, ← hattended.calls]
  cases houtcome with
  | idle hdeed hsame hjobs =>
      -- nothing was accepted, and a call that was delivered was the first of those due
      refine ⟨(hsame.listenerOf r).trans hattended.listener, ?_⟩
      rw [Moment.accepted_of_deed hdeed]
      unfold Relay.callsFor
      rw [hjobs, List.filter_append]
      exact List.append_nil _
  | @acted isFile operation reply s hdeed hperform hsame hjobs =>
      have hheard := h.heard hx hdeed hperform (fun _ => hattended.listener) (by
        rintro rfl
        exact absurd (if_pos rfl) hkept)
      have hbefore : (x.world.provider.inbox r).isSome = true := hx.registered.inbox hattended.set
      have hafter : (s.inbox r).isSome = true := by
        rw [← hsame.inbox]
        exact (h.registered hx.registered).inbox (h.staysSet hx hattended.set hkept)
      have hrings := hheard.rings hbefore hafter
      have hlistener := hrings.listener.trans hattended.listener
      refine ⟨(hsame.listenerOf r).trans hlistener, ?_⟩
      -- the listener of the bridge asks for data alone
      have hattentive : x.world.provider.Attentive r := by
        intro listener mask hl
        rw [hattended.listener] at hl
        cases hl
        rfl
      have hcalls : s.callsOf r = (x.world.provider.accepted s r operation reply).map
          fun _ => ⟨.channel, r, .dataAvailable⟩ := by
        rw [hrings.calls hattentive, State.callsOf, hx.idle, List.filter_nil, List.nil_append,
          State.dataCalls, hattended.listener, List.map_const']
        exact List.flatten_replicate_singleton
      have haccepted : Moment.accepted r ⟨x, event, y⟩ =
          x.world.provider.accepted s r operation reply := by
        have hoffered : Moment.offered r ⟨x, event, y⟩ =
            x.world.provider.offers s r operation reply := by
          unfold Moment.offered
          rw [hdeed]
          exact State.offers_of_entities hsame.1 operation reply
        exact congrArg (x.world.provider.acceptedOf r) hoffered
      have hdelivers : event.delivers = none := by
        cases event <;> first | rfl | cases hdeed
      rw [haccepted, ← hcalls, hdelivers]
      unfold Relay.callsFor
      rw [← hjobs, List.filter_append]
      rfl

/-- After every event the ledger is right. -/
theorem Step.attended {event : Event} {r : Handle} {l : Ledger} (h : Step x event y) (hx : x.Sound)
    (hattended : x.Attended r l) (hkept : event.verdict r ≠ some false) :
    y.Attended r (l.note r ⟨x, event, y⟩) := by
  have hset := h.staysSet hx hattended.set hkept
  obtain ⟨hlistener, hcalls⟩ := h.callsFor hx hattended hkept
  have hnotes := h.notesFor r
  rw [hattended.notes, event.delivers_filter] at hnotes
  rw [event.delivers_filter] at hcalls
  by_cases hdelivers : event.deliversFor r = true
  · -- the oldest call that is due makes a notification
    rw [Moment.accepted_of_deed (Event.deed_of_moves (.inl hdelivers)), List.append_nil,
      if_pos hdelivers] at hcalls
    rw [if_pos hdelivers] at hnotes
    rw [Ledger.note, if_pos hdelivers]
    obtain ⟨call, rfl, -⟩ := Event.deliversFor_iff.mp hdelivers
    cases hdue : l.due with
    | nil =>
        rw [hdue] at hcalls
        cases hcalls
    | cons sample rest =>
        rw [hdue] at hcalls
        obtain ⟨hcall, hrest⟩ := List.cons.inj hcalls
        refine ⟨hset, hlistener, hrest.symm, ?_⟩
        rw [List.map_append]
        exact (hcall ▸ hnotes).symm
  · rw [if_neg hdelivers] at hcalls hnotes
    rw [Ledger.note, if_neg hdelivers]
    rw [List.flatMap_nil, List.append_nil, event.consumes_filter] at hnotes
    by_cases hconsumes : event.consumesFor r = true
    · -- the oldest notification is consumed
      rw [Moment.accepted_of_deed (Event.deed_of_moves (.inr hconsumes)), List.append_nil] at hcalls
      rw [if_pos hconsumes] at hnotes ⊢
      obtain ⟨n, hconsumed, -⟩ := Event.consumesFor_iff.mp hconsumes
      rw [hconsumed] at hnotes
      refine ⟨hset, hlistener, hcalls.symm, ?_⟩
      rw [List.map_tail, hnotes]
      rfl
    · rw [if_neg hconsumes] at hnotes ⊢
      exact ⟨hset, hlistener, hcalls.symm, hnotes.symm⟩

/-- A notification that is consumed waited, and calls the callback that its reader has. -/
theorem Step.consumed {event : Event} {r : Handle} {l : Ledger} (h : Step x event y)
    (hattended : x.Attended r l) (hkept : event.verdict r ≠ some false)
    (hconsumes : event.consumesFor r = true) :
    l.waiting ≠ [] ∧ ∃ n registration, n.reader = r ∧
      x.world.bridge.callbacks.get? r = some registration ∧
      (x.world.heap.get? registration.proxy).isSome = true ∧
      event = .called n registration.callback := by
  obtain ⟨n, hconsumed, rfl⟩ := Event.consumesFor_iff.mp hconsumes
  constructor
  · intro hnil
    have hnotes := hattended.notes
    rw [hnil, List.map_nil, Relay.notesFor] at hnotes
    have hpending := h.pending
    have hdelivers : event.delivers = none := by
      cases event <;> first | rfl | cases hconsumed
    rw [hdelivers, hconsumed] at hpending
    refine List.filter_eq_nil_iff.mp hnotes n ?_ (decide_eq_true rfl)
    rw [← List.append_nil x.world.bridge.pending]
    exact hpending ▸ List.mem_cons_self
  · cases h with
    | @called _ _ registration _ hset hproxy =>
        cases hconsumed
        exact ⟨n, registration, rfl, hset, hproxy, rfl⟩
    | ignored _ hnone =>
        cases hconsumed
        have hset := hattended.set
        rw [Table.contains, hnone] at hset
        cases hset
    | lapsed =>
        cases hconsumed
        exact absurd (if_pos rfl) hkept
    | _ => cases hconsumed

omit [HostCode C] in
/-- A notification that is consumed counts. -/
theorem Ledger.note_done {r : Handle} {l : Ledger} {m : Moment C}
    (hwaits : m.event.consumesFor r = true → l.waiting ≠ []) :
    (l.note r m).done.length =
      l.done.length + if m.event.consumesFor r = true then 1 else 0 := by
  unfold note
  by_cases hdelivers : m.event.deliversFor r = true
  · obtain ⟨call, hevent, -⟩ := Event.deliversFor_iff.mp hdelivers
    rw [if_pos hdelivers, hevent]
    rfl
  · rw [if_neg hdelivers]
    split
    · rename_i hconsumes
      cases hwaiting : l.waiting with
      | nil => exact absurd hwaiting (hwaits hconsumes)
      | cons sample rest => exact List.length_append
    · rfl

/-- While a reader has its callback, its ledger is right, and every notification that is consumed
calls the callback. -/
theorem Story.attended {after : List (Moment C)} {r : Handle} (h : Story y after z) (hy : y.Sound)
    (hattended : y.Attended r ⟨[], [], []⟩)
    (hkept : ∀ m ∈ after, m.event.verdict r ≠ some false) :
    z.Attended r (ledger r after) ∧
      (ledger r after).done.length = after.countP (fun m => m.event.consumesFor r) ∧
      ∀ m ∈ after, m.event.consumesFor r = true → ∃ n registration, n.reader = r ∧
        m.before.world.bridge.callbacks.get? r = some registration ∧
        (m.before.world.heap.get? registration.proxy).isSome = true ∧
        m.event = .called n registration.callback := by
  induction h with
  | start => exact ⟨hattended, rfl, List.forall_mem_nil _⟩
  | @next past v z event hbefore hstep ih =>
      obtain ⟨hkeptBefore, hkeptLast⟩ := List.forall_mem_append.mp hkept
      obtain ⟨hright, hcount, hcalled⟩ := ih hkeptBefore
      have hv := hbefore.sound hy
      have hevent : event.verdict r ≠ some false := hkeptLast _ List.mem_cons_self
      have hconsumed := hstep.consumed hright hevent
      refine ⟨?_, ?_, ?_⟩
      · rw [ledger_snoc]
        exact hstep.attended hv hright hevent
      · rw [ledger_snoc, Ledger.note_done fun h => (hconsumed h).1, hcount, List.countP_append,
          List.countP_singleton]
      · refine List.forall_mem_append.mpr ⟨hcalled, ?_⟩
        rintro m hm hconsumes
        obtain rfl := List.mem_singleton.mp hm
        exact (hconsumed hconsumes).2

end Relay

/-! ## Every story -/

/-- A bridge that is not asked yet to call anybody, and a provider to which nobody listens. -/
structure World.Unlistened (w : World (Body C)) : Prop where
  unheard : w.Unheard
  matching : w.provider.Matching
  calls : w.provider.calls = []
  pending : w.bridge.pending = []
  listenerOf : ∀ r, w.provider.listenerOf r = none

section Stories

variable [HostCode C] {w₀ : World (Body C)}

/-- What the bridge, its host and other clients do makes a story of what the calls bring about, and
only dispatches consume notifications: a dispatch takes turns, and a turn in which a notification is
said to call a callback is one in which the callback ran with the reader's proxy, once. Take a story
in which the callback of a reader is set for the first time, and let the reader keep a callback from
then on: the callback may be replaced, but it is not cleared, the reader's capsule does not go, the
reader is not deleted by a clean-up, and no dispatch finds the proxy gone. Then each sample that the
reader accepted since is a listener call that is due, a notification in the channel, or a notification
that was consumed, and nothing else is. A notification that is consumed calls the callback that the
reader has at that moment. Notifications are made and consumed in the order in which the reader
accepted the samples. -/
theorem Bridge.notifications_account (hstart : w₀.Unlistened) :
    (∀ P (w w' : World (Body C)), Bridge.ActivityOf P w w' → w.Tells P w') ∧
    (∀ P (inner : Host (Body C)) (invoke : C → List Ref → MemoryAction C Ref),
      Bridge.ObeysOf P inner invoke → ∀ limit wait (w w' : World (Body C)) result,
        (dispatchUpTo (host inner invoke) limit wait).apply w = (result, w') →
          result ≠ .error .endless → ∃ past, Drained Error.host (Relay.Moment.Comes P)
            (host inner invoke) (w.awaited wait) past result w') ∧
    ∀ r before x y after z, Relay.Story ⟨w₀, []⟩ before x →
      (∀ m ∈ before, m.event ≠ .set r true) → Relay.Step x (.set r true) y →
      Relay.Story y after z → (∀ m ∈ after, m.event.verdict r ≠ some false) →
        (after.flatMap (Relay.Moment.accepted r)).length =
          (z.callsFor r).length + (z.notesFor r).length +
            after.countP (fun m => m.event.consumesFor r) ∧
        (∀ m ∈ after, State.InboxStep m.before.world.provider m.after.world.provider r
          (m.offered r) (m.taken r)) ∧
        (∀ m ∈ after, m.event.consumesFor r = true → ∃ n registration, n.reader = r ∧
          m.before.world.bridge.callbacks.get? r = some registration ∧
          (m.before.world.heap.get? registration.proxy).isSome = true ∧
          m.event = .called n registration.callback) ∧
        (Relay.ledger r after).all = after.flatMap (Relay.Moment.accepted r) ∧
        z.callsFor r = (Relay.ledger r after).due.map (fun _ => ⟨.channel, r, .dataAvailable⟩) ∧
        z.notesFor r = (Relay.ledger r after).waiting.map (fun _ => ⟨r, .dataAvailable⟩) ∧
        (Relay.ledger r after).done.length = after.countP (fun m => m.event.consumesFor r) := by
  refine ⟨fun P w w' hactivity => hactivity.tells,
    fun P inner invoke hobeys limit wait w w' result hrun hends =>
      dispatch_drained (Relay.admits_comes P) hobeys.acts hrun hends, ?_⟩
  intro r before x y after z hbefore hfirst hset hafter hkept
  have hsound : Relay.Sound ⟨w₀, []⟩ := ⟨hstart.unheard.registered, hstart.matching, hstart.calls⟩
  have hsilent : Relay.Silent ⟨w₀, []⟩ r := by
    refine ⟨hstart.listenerOf r, rfl, ?_⟩
    rw [Relay.notesFor, hstart.pending]
    rfl
  have hx := hbefore.sound hsound
  obtain ⟨hright, hcount, hcalled⟩ := hafter.attended (hset.sound hx)
    (hset.attends hx (hbefore.silent hsound hsilent hfirst)) hkept
  have hall := Relay.ledger_all r after
  have hqueues : ∀ m ∈ after, State.InboxStep m.before.world.provider m.after.world.provider r
      (m.offered r) (m.taken r) := fun m hm =>
    have hstep := hafter.steps (hset.sound hx) m hm
    hstep.2.inbox hstep.1 r
  refine ⟨?_, hqueues, hcalled, hall, hright.calls, hright.notes, hcount⟩
  rw [← hall, hright.calls, hright.notes, ← hcount]
  simp only [Relay.Ledger.all, List.length_append, List.length_map]
  omega

end Stories

namespace Bridge

/-! A sample that is written, its notification, and the callback. -/

theorem unlistened_listenWorld : listenWorld.Unlistened := by
  have hreach : Provider.Reachable (fun _ => false)
      (State.new.run (fun _ => false) State.chatRun) := State.reachable_run (.new _) State.chatRun
  have hlisteners : ∀ entry ∈ listenWorld.provider.entities.entries, entry.2.listener? = none := by
    decide +kernel
  refine ⟨unheard_listenWorld, State.matching_of_reachable hreach, by decide +kernel, rfl,
    fun r => ?_⟩
  unfold State.listenerOf
  cases hr : listenWorld.provider.entities.get? r with
  | none => rfl
  | some record => exact hlisteners _ (Table.mem_entries_iff.mpr hr)

/-- What the provider of a relay does next. -/
def acted (x : Relay Session.Code) (operation : Operation) : Relay Session.Code :=
  x.absorb (x.world.provider.perform (fun _ => false) operation).2

/-- The world with a callback for the reader. -/
def attendedRelay : Relay Session.Code :=
  let granted := acted ⟨listenWorld, []⟩
    (.setListener ⟨6⟩ (some .channel) (.ofKind .dataAvailable))
  ⟨granted.world.withCallbacks (granted.world.bridge.callbacks.insert ⟨6⟩ ⟨⟨28⟩, ⟨29⟩⟩),
    granted.jobs⟩

/-- After a sample was written, its listener call is due. -/
def writtenRelay : Relay Session.Code := acted attendedRelay (.write ⟨5⟩ [0, 1, 0, 0])

/-- After the listener call its notification waits. -/
def deliveredRelay : Relay Session.Code :=
  ⟨writtenRelay.world.deliver ⟨.channel, ⟨6⟩, .dataAvailable⟩, []⟩

/-- After the callback was called nothing is on its way. -/
def dispatchedRelay : Relay Session.Code := ⟨deliveredRelay.world.requeue [], []⟩

/-- What happened since the callback was set. -/
def noticeMoments : List (Relay.Moment Session.Code) :=
  [⟨attendedRelay, .performed (.write ⟨5⟩ [0, 1, 0, 0]) .done, writtenRelay⟩,
    ⟨writtenRelay, .delivered ⟨.channel, ⟨6⟩, .dataAvailable⟩, deliveredRelay⟩,
    ⟨deliveredRelay, .called ⟨⟨6⟩, .dataAvailable⟩ ⟨29⟩, dispatchedRelay⟩]

theorem story_noticeMoments : Relay.Story attendedRelay noticeMoments dispatchedRelay := by
  have hwrite : attendedRelay.world.provider.perform (fun _ => false) (.write ⟨5⟩ [0, 1, 0, 0]) =
      (.done, (attendedRelay.world.provider.perform (fun _ => false)
        (.write ⟨5⟩ [0, 1, 0, 0])).2) := Prod.ext (by decide +kernel) rfl
  have hwritten : Relay.Step attendedRelay (.performed (.write ⟨5⟩ [0, 1, 0, 0]) .done)
      writtenRelay := .performed rfl hwrite
  have hdelivered : Relay.Step writtenRelay (.delivered ⟨.channel, ⟨6⟩, .dataAvailable⟩)
      deliveredRelay := .delivered (by decide +kernel)
  have hpending : deliveredRelay.world.bridge.pending = [⟨⟨6⟩, .dataAvailable⟩] := by
    decide +kernel
  have hset : deliveredRelay.world.bridge.callbacks.get? ⟨6⟩ = some ⟨⟨28⟩, ⟨29⟩⟩ := by
    decide +kernel
  have hcalled : Relay.Step deliveredRelay (.called ⟨⟨6⟩, .dataAvailable⟩ ⟨29⟩) dispatchedRelay :=
    .called hpending hset (by decide +kernel)
  exact (hwritten.story.trans hdelivered.story).trans hcalled.story

theorem notifications_account_write : listenWorld.Unlistened ∧
    Relay.Step ⟨listenWorld, []⟩ (.set ⟨6⟩ true) attendedRelay ∧
    Relay.Story attendedRelay noticeMoments dispatchedRelay ∧
    (∀ m ∈ noticeMoments, m.event.verdict ⟨6⟩ ≠ some false) ∧
    (noticeMoments.flatMap (Relay.Moment.accepted ⟨6⟩)).length = 1 := by
  obtain ⟨-, -, haccount⟩ := notifications_account unlistened_listenWorld
  have hcapsule : capsuleHandle listenWorld ⟨27⟩ = some (.reader, ⟨6⟩) := by decide +kernel
  have hlistens : listenWorld.provider.perform (fun _ => false)
        (.setListener ⟨6⟩ (some .channel) (.ofKind .dataAvailable)) =
      (.done, (listenWorld.provider.perform (fun _ => false)
        (.setListener ⟨6⟩ (some .channel) (.ofKind .dataAvailable))).2) :=
    Prod.ext (by decide +kernel) rfl
  have hset : Relay.Step ⟨listenWorld, []⟩ (.set ⟨6⟩ true) attendedRelay :=
    .set hcapsule (by decide +kernel) (.heard hlistens)
  have hkept : ∀ m ∈ noticeMoments, m.event.verdict ⟨6⟩ ≠ some false := by
    simp [noticeMoments, Relay.Event.verdict]
  obtain ⟨hcount, -⟩ := haccount ⟨6⟩ [] _ _ _ _ .start (List.forall_mem_nil _) hset
    story_noticeMoments hkept
  exact ⟨unlistened_listenWorld, hset, story_noticeMoments, hkept, hcount⟩

end Bridge

end DdsBridge
