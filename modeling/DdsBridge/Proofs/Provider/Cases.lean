import DdsBridge.Proofs.Provider.Structure
import DdsBridge.Proofs.Success

/-!
# What each operation does

An operation is refused and changes nothing, or it succeeds, and then it does one thing. That a
refusal changes nothing holds because no operation changes anything before its last check, which is
shown for each of them. What a success does and what must hold for it is said here once; a result
about every operation splits into these cases and does not look into the operations again. The
operations that create an entity fall together, those that create an endpoint apart from the others,
because a new endpoint meets its peers.

* **`State.Keeps`** — a failure leaves the state as it was; **`createTopic_keeps`**, … — of one
  operation.
* **`createTopic_eq_ok`**, … — what the success of one operation says; **`proceed_get_ne_ok`** — a
  refusal has the code of a failure.
* **`State.Creates`** — the new entities that are no endpoints.
* **`State.Performs`**, **`perform_cases`** — every operation with its answer.
-/

namespace DdsBridge.Provider

/-- A record of a participant with one more type name; other records have none. -/
def Record.register (typeName : String) (r : Record) : Record :=
  match r.body with
  | .participant domain types => { r with body := .participant domain (types.insert typeName) }
  | _ => r

namespace State

variable {isFile : String → Bool} {s s' : State}

/-! ## How operations end -/

section Ends

variable {α β : Type} {a b : α} {code : ReturnCode} {found : Except ReturnCode β}
  {next : β → Result α} {result : Result α}

theorem succeed_eq_ok : s.succeed a = (.ok b, s') ↔ a = b ∧ s = s' := by
  simp [succeed]

/-- A failure is no success. -/
theorem fail_ne_ok : s.fail code ≠ (.ok b, s') := by
  simp [fail]

/-- An operation that goes on with a look-up succeeds if both do. -/
theorem proceed_eq_ok :
    s.proceed found next = (.ok b, s') ↔ ∃ c, found = .ok c ∧ next c = (.ok b, s') := by
  cases found with
  | error code => simp [proceed, fail]
  | ok c => simp [proceed]

/-- An operation that passes a check succeeds if what the check refuses is not the case. -/
theorem guard_eq_ok {c : Prop} [Decidable c] :
    (if c then s.fail code else result) = (.ok b, s') ↔ ¬c ∧ result = (.ok b, s') := by
  by_cases hc : c <;> simp [hc, fail]

/-- An operation that fails leaves the state as it was. -/
def Keeps (s : State) (result : Result α) : Prop :=
  ∀ code, result.1 = .error code → result.2 = s

namespace Keeps

theorem fail : s.Keeps (s.fail code : Result α) := fun _ _ => rfl

theorem succeed : s.Keeps (s'.succeed a) := fun _ h => by cases h

/-- What follows a look-up starts with the state as it was. -/
theorem proceed (h : ∀ c, s.Keeps (next c)) : s.Keeps (s.proceed found next) := by
  cases found with
  | error code => exact fail
  | ok c => exact h c

theorem guard {c : Prop} [Decidable c] (h : s.Keeps result) :
    s.Keeps (if c then s.fail code else result) := by
  split
  · exact fail
  · exact h

end Keeps

end Ends

/-! ## Look-ups that succeed -/

theorem get_eq_ok {h : Handle} {kind : EntityKind} {r : Record} :
    s.get h kind = .ok r ↔ s.entities.get? h = some r ∧ r.kind = kind := by
  unfold get
  cases hr : s.entities.get? h with
  | none => simp
  | some r' =>
      simp only [Option.some.injEq]
      split
      · rename_i hk
        simp only [Except.ok.injEq]
        constructor
        · rintro rfl
          exact ⟨rfl, hk⟩
        · rintro ⟨rfl, -⟩
          rfl
      · rename_i hk
        simp only [reduceCtorEq, false_iff, not_and]
        rintro rfl
        exact hk

/-- An operation on an entity that is refused answers with a failure. -/
theorem proceed_get_ne_ok {α : Type} {h : Handle} {kind : EntityKind} {next : Record → Result α}
    {code : ReturnCode} (hfails : (s.proceed (s.get h kind) next).1 = .error code)
    (hnext : ∀ r, (next r).1 = .error code → code ≠ .ok) : code ≠ .ok := by
  cases hget : s.get h kind with
  | ok r =>
      rw [hget] at hfails
      exact hnext r hfails
  | error refused =>
      rw [hget] at hfails
      cases hfails
      unfold get missing at hget
      split at hget
      · split at hget <;> cases hget
        simp
      · split at hget <;> cases hget <;> simp

namespace WellFormed

theorem get_of_writer? (hwf : s.WellFormed) {h : Handle} {w : Writer}
    (hw : s.writer? h = some w) : ∃ r, s.get h .writer = .ok r := by
  obtain ⟨r, hr, hbody⟩ := writer?_eq_some_iff.mp hw
  exact ⟨r, get_eq_ok.mpr ⟨hr, by simp [hwf.sorted hr, hbody, Body.kind]⟩⟩

theorem get_of_reader? (hwf : s.WellFormed) {h : Handle} {x : Reader}
    (hx : s.reader? h = some x) : ∃ r, s.get h .reader = .ok r := by
  obtain ⟨r, hr, hbody⟩ := reader?_eq_some_iff.mp hx
  exact ⟨r, get_eq_ok.mpr ⟨hr, by simp [hwf.sorted hr, hbody, Body.kind]⟩⟩

/-- A live entity is known by its profile. -/
theorem profile_of_get (hwf : s.WellFormed) {h : Handle} {kind : EntityKind} {r : Record}
    (hget : s.get h kind = .ok r) :
    s.profile h = some ⟨r.participant, r.parent, r.body.role⟩ ∧ r.body.kind = kind := by
  obtain ⟨hr, hk⟩ := get_eq_ok.mp hget
  exact ⟨profile_of_get? hr, (hwf.sorted hr).symm.trans hk⟩

end WellFormed

/-- The condition of a live entity. -/
def conditionOf (s : State) (h : Handle) : Option ConditionId :=
  (s.entities.get? h).bind Record.condition

theorem conditionOf_eq_some_iff {h : Handle} {c : ConditionId} :
    s.conditionOf h = some c ↔ ∃ r, s.entities.get? h = some r ∧ r.condition = some c :=
  Option.bind_eq_some_iff

theorem requireInit_eq_ok {u : Unit} : s.requireInit = .ok u ↔ s.initialized = true := by
  unfold requireInit
  split
  · exact iff_of_true rfl ‹_›
  · exact iff_of_false (by simp) ‹_›

theorem participantOf_eq_ok {h p : Handle} {kind : EntityKind} :
    s.participantOf h kind = .ok p ↔ ∃ r, s.get h kind = .ok r ∧ r.participant = p :=
  map_eq_ok_iff

/-- A group and a topic that pass the check belong to one participant. -/
theorem commonParticipant_eq_ok {g t p : Handle} {kind : EntityKind}
    (hcommon : s.commonParticipant g kind t = .ok p) :
    ∃ rg rt, s.get g kind = .ok rg ∧ s.get t .topic = .ok rt ∧ rg.participant = p ∧
      rt.participant = p := by
  simp only [commonParticipant, bind_eq_ok_iff, refuse_eq_ok_iff, pure_eq_ok_iff,
    participantOf_eq_ok] at hcommon
  obtain ⟨_, ⟨rg, hg, rfl⟩, _, ⟨rt, ht, rfl⟩, hsame, rfl⟩ := hcommon
  exact ⟨rg, rt, hg, ht, rfl, Decidable.not_not.mp hsame⟩

/-! ## Operations on the provider and on entities that succeed -/

theorem init_eq_ok {args : List String} (hok : s.init isFile args = (.ok (), s')) :
    ∃ parsed, InitArgs.parse isFile args = .ok parsed ∧
      s' = { s with
        debugLevel := parsed.debugLevel.getD s.debugLevel
        configFile := parsed.configFile <|> s.configFile
        initialized := true } := by
  simp only [init, proceed_eq_ok, succeed_eq_ok] at hok
  obtain ⟨parsed, hparse, -, rfl⟩ := hok
  exact ⟨parsed, hparse, rfl⟩

theorem init_keeps (isFile : String → Bool) (s : State) (args : List String) :
    s.Keeps (s.init isFile args) := .proceed fun _ => .succeed

theorem installRtps_eq_ok (hok : s.installRtps = (.ok (), s')) :
    s.initialized = true ∧ s' = { s with rtpsInstalled := true } := by
  simp only [installRtps, proceed_eq_ok, succeed_eq_ok, requireInit_eq_ok] at hok
  obtain ⟨_, hready, -, rfl⟩ := hok
  exact ⟨hready, rfl⟩

theorem installRtps_keeps (s : State) : s.Keeps s.installRtps := .proceed fun _ => .succeed

theorem create_eq_ok {kind : EntityKind} {p : Option Handle} {body : Body} {h : Handle} :
    s.create kind p body = (.ok h, s') ↔ h = s.next ∧ s' = (s.insert kind p p body).2 := by
  simp only [create, succeed_eq_ok, insert_fst]
  exact and_congr eq_comm eq_comm

theorem createParticipant_eq_ok {domain : DomainId} {h : Handle}
    (hok : s.createParticipant domain = (.ok h, s')) :
    s.initialized = true ∧ h = s.next ∧
      s' = (s.insert .participant none none (.participant domain [])).2 := by
  simp only [createParticipant, proceed_eq_ok, create_eq_ok, requireInit_eq_ok] at hok
  obtain ⟨_, hready, rfl, rfl⟩ := hok
  exact ⟨hready, rfl, rfl⟩

theorem createParticipant_keeps (s : State) (domain : DomainId) :
    s.Keeps (s.createParticipant domain) := .proceed fun _ => .succeed

theorem deleteContained_eq_ok {p : Handle} (hok : s.deleteContained p = (.ok (), s')) :
    ∃ r, s.get p .participant = .ok r ∧ s' = s.deleteAll (s.contained p) := by
  simp only [deleteContained, proceed_eq_ok, succeed_eq_ok] at hok
  obtain ⟨r, hget, -, rfl⟩ := hok
  exact ⟨r, hget, rfl⟩

theorem deleteContained_keeps (s : State) (p : Handle) : s.Keeps (s.deleteContained p) :=
  .proceed fun _ => .succeed

theorem registerType_eq_ok {p : Handle} {typeName : String}
    (hok : s.registerType p typeName = (.ok (), s')) :
    ∃ r, s.get p .participant = .ok r ∧ s' = s.modifyEntity p (Record.register typeName) := by
  simp only [registerType, guard_eq_ok, proceed_eq_ok, succeed_eq_ok] at hok
  obtain ⟨-, r, hget, -, rfl⟩ := hok
  exact ⟨r, hget, rfl⟩

theorem registerType_keeps (s : State) (p : Handle) (typeName : String) :
    s.Keeps (s.registerType p typeName) := .guard (.proceed fun _ => .succeed)

theorem createTopic_eq_ok {p h : Handle} {name typeName : String}
    (hok : s.createTopic p name typeName = (.ok h, s')) :
    s.initialized = true ∧ (∃ r, s.get p .participant = .ok r) ∧ typeName ∈ s.typesOf p ∧
      s.topicClashes p name typeName = false ∧ h = s.next ∧
      s' = (s.insert .topic (some p) (some p) (.topic name typeName)).2 := by
  simp only [createTopic, proceed_eq_ok, guard_eq_ok, create_eq_ok, requireInit_eq_ok] at hok
  obtain ⟨_, hready, r, hget, hregistered, hclash, rfl, rfl⟩ := hok
  exact ⟨hready, ⟨r, hget⟩, by simpa using hregistered, by simpa using hclash, rfl, rfl⟩

theorem createTopic_keeps (s : State) (p : Handle) (name typeName : String) :
    s.Keeps (s.createTopic p name typeName) :=
  .proceed fun _ => .proceed fun _ => .guard (.guard .succeed)

theorem createPublisher_eq_ok {p h : Handle} {partition : List String}
    (hok : s.createPublisher p partition = (.ok h, s')) :
    s.initialized = true ∧ (∃ r, s.get p .participant = .ok r) ∧ h = s.next ∧
      s' = (s.insert .publisher (some p) (some p) (.publisher partition)).2 := by
  simp only [createPublisher, proceed_eq_ok, create_eq_ok, requireInit_eq_ok] at hok
  obtain ⟨_, hready, r, hget, rfl, rfl⟩ := hok
  exact ⟨hready, ⟨r, hget⟩, rfl, rfl⟩

theorem createPublisher_keeps (s : State) (p : Handle) (partition : List String) :
    s.Keeps (s.createPublisher p partition) := .proceed fun _ => .proceed fun _ => .succeed

theorem createSubscriber_eq_ok {p h : Handle} {partition : List String}
    (hok : s.createSubscriber p partition = (.ok h, s')) :
    s.initialized = true ∧ (∃ r, s.get p .participant = .ok r) ∧ h = s.next ∧
      s' = (s.insert .subscriber (some p) (some p) (.subscriber partition)).2 := by
  simp only [createSubscriber, proceed_eq_ok, create_eq_ok, requireInit_eq_ok] at hok
  obtain ⟨_, hready, r, hget, rfl, rfl⟩ := hok
  exact ⟨hready, ⟨r, hget⟩, rfl, rfl⟩

theorem createSubscriber_keeps (s : State) (p : Handle) (partition : List String) :
    s.Keeps (s.createSubscriber p partition) := .proceed fun _ => .proceed fun _ => .succeed

theorem insertEndpoint_eq_ok {side : Side} {p g t h : Handle} {qos : EndpointQos} :
    s.insertEndpoint side.kind p g (side.newBody t qos) = (.ok h, s') ↔
      h = s.next ∧ s' = (s.withEndpoint side p g t qos).discover s.next := by
  simp only [insertEndpoint, succeed_eq_ok, insert_fst]
  exact and_congr eq_comm eq_comm

theorem createWriter_eq_ok {g t h : Handle} {qos : EndpointQos}
    (hok : s.createWriter g t qos = (.ok h, s')) :
    s.initialized = true ∧ qos.history.isConsistent = true ∧
      ∃ p, s.commonParticipant g .publisher t = .ok p ∧ h = s.next ∧
        s' = (s.withEndpoint .writer p g t qos).discover s.next := by
  simp only [createWriter, guard_eq_ok, proceed_eq_ok, requireInit_eq_ok] at hok
  obtain ⟨hqos, _, hready, p, hcommon, hnew⟩ := hok
  exact ⟨hready, by simpa using hqos, p, hcommon, insertEndpoint_eq_ok.mp hnew⟩

theorem createWriter_keeps (s : State) (g t : Handle) (qos : EndpointQos) :
    s.Keeps (s.createWriter g t qos) := .guard (.proceed fun _ => .proceed fun _ => .succeed)

theorem createReader_eq_ok {g t h : Handle} {qos : EndpointQos}
    (hok : s.createReader g t qos = (.ok h, s')) :
    s.initialized = true ∧ qos.history.isConsistent = true ∧
      ∃ p, s.commonParticipant g .subscriber t = .ok p ∧ h = s.next ∧
        s' = (s.withEndpoint .reader p g t qos).discover s.next := by
  simp only [createReader, guard_eq_ok, proceed_eq_ok, requireInit_eq_ok] at hok
  obtain ⟨hqos, _, hready, p, hcommon, hnew⟩ := hok
  exact ⟨hready, by simpa using hqos, p, hcommon, insertEndpoint_eq_ok.mp hnew⟩

theorem createReader_keeps (s : State) (g t : Handle) (qos : EndpointQos) :
    s.Keeps (s.createReader g t qos) := .guard (.proceed fun _ => .proceed fun _ => .succeed)

/-- A writer keeps the payload, if it is durable, and offers it to each of its peers. -/
theorem write_eq_ok {w : Handle} {payload : List UInt8} (hok : s.write w payload = (.ok (), s')) :
    ∃ x, s.writer? w = some x ∧
      s' = x.matched.foldl (fun s r => s.offer r ⟨payload, .valid w⟩)
        (s.modifyWriter w fun w =>
          { w with history := remember w.qos s.maxSamples w.history payload }) := by
  simp only [write, proceed_eq_ok] at hok
  obtain ⟨_, -, hok⟩ := hok
  split at hok
  · exact absurd hok fail_ne_ok
  · cases hok
    exact ⟨_, ‹_›, rfl⟩

theorem write_keeps (s : State) (w : Handle) (payload : List UInt8) :
    s.Keeps (s.write w payload) := by
  refine .proceed fun _ => ?_
  split
  · exact .fail
  · exact .succeed

/-- Whoever takes gets the oldest sample, if there is one. -/
theorem take_fst (hwf : s.WellFormed) {h : Handle} {x : Reader} (hx : s.reader? h = some x) :
    (s.take h).1 =
      match x.queue with
      | [] => .error .noData
      | sample :: _ => .ok sample := by
  obtain ⟨r, hget⟩ := hwf.get_of_reader? hx
  simp only [take, proceed, hget, hx]
  cases x.queue with
  | nil => rfl
  | cons sample rest => rfl

theorem setListener_eq_ok {h : Handle} {listener : Option Listener} {mask : StatusMask}
    (hok : s.setListener h listener mask = (.ok (), s')) :
    ∃ r, s.get h .reader = .ok r ∧
      s' = s.modifyReader h fun r => { r with listener := listener.map fun l => (l, mask) } := by
  simp only [setListener, proceed_eq_ok, succeed_eq_ok] at hok
  obtain ⟨r, hget, -, rfl⟩ := hok
  exact ⟨r, hget, rfl⟩

theorem setListener_keeps (s : State) (h : Handle) (listener : Option Listener)
    (mask : StatusMask) : s.Keeps (s.setListener h listener mask) := .proceed fun _ => .succeed

/-! ## Operations on conditions and wait sets that succeed -/

/-- The condition asked for is the one there is, or a new one that is enabled for all statuses. -/
theorem statusCondition_eq_ok {e : Handle} {c : ConditionId}
    (hok : s.statusCondition e = (.ok c, s')) :
    (s.conditionOf e = some c ∧ s' = s) ∨
      (s.conditionOf e = none ∧ (∃ r, s.entities.get? e = some r) ∧ c = ⟨s.lastId + 1⟩ ∧
        s' = { s with
          lastId := s.lastId + 1
          conditions := s.conditions.insert c ⟨e, .all⟩
          entities := s.entities.modify e fun r => { r with condition := some c } }) := by
  unfold statusCondition at hok
  unfold conditionOf
  split at hok
  · exact absurd hok fail_ne_ok
  · rename_i r hr
    rw [hr, Option.bind_some]
    split at hok
    · rename_i found hfound
      obtain ⟨rfl, rfl⟩ := succeed_eq_ok.mp hok
      exact .inl ⟨hfound, rfl⟩
    · rename_i hnone
      obtain ⟨rfl, rfl⟩ := succeed_eq_ok.mp hok
      exact .inr ⟨hnone, ⟨r, rfl⟩, rfl, rfl⟩

theorem statusCondition_keeps (s : State) (e : Handle) : s.Keeps (s.statusCondition e) := by
  unfold statusCondition
  split
  · exact .fail
  · split <;> exact .succeed

/-- Only live entities have a condition to give. -/
theorem live_of_statusCondition {e : Handle} {c : ConditionId}
    (hok : s.statusCondition e = (.ok c, s')) : ∃ r, s.entities.get? e = some r := by
  rcases statusCondition_eq_ok hok with ⟨hown, -⟩ | ⟨-, hlive, -⟩
  · obtain ⟨r, hr, -⟩ := conditionOf_eq_some_iff.mp hown
    exact ⟨r, hr⟩
  · exact hlive

theorem setEnabled_eq_ok {c : ConditionId} {mask : StatusMask}
    (hok : s.setEnabled c mask = (.ok (), s')) :
    (∃ x, s.conditions.get? c = some x) ∧
      s' = { s with
        conditions := s.conditions.modify c fun x => { x with enabled := mask } } := by
  unfold setEnabled at hok
  split at hok
  · rename_i hcontains
    cases hok
    exact ⟨Option.isSome_iff_exists.mp hcontains, rfl⟩
  · exact absurd hok fail_ne_ok

theorem setEnabled_keeps (s : State) (c : ConditionId) (mask : StatusMask) :
    s.Keeps (s.setEnabled c mask) := by
  unfold setEnabled
  split
  · exact .succeed
  · exact .fail

theorem deleteWaitSet_eq_ok {waitSet : WaitSetId}
    (hok : s.deleteWaitSet waitSet = (.ok (), s')) :
    (∃ w, s.waitSets.get? waitSet = some w ∧ w.waiting = false) ∧
      s' = { s with waitSets := s.waitSets.erase waitSet } := by
  unfold deleteWaitSet at hok
  split at hok
  · exact absurd hok fail_ne_ok
  · rename_i w hw
    obtain ⟨hidle, hok⟩ := guard_eq_ok.mp hok
    cases hok
    exact ⟨⟨w, hw, by simpa using hidle⟩, rfl⟩

theorem deleteWaitSet_keeps (s : State) (waitSet : WaitSetId) :
    s.Keeps (s.deleteWaitSet waitSet) := by
  unfold deleteWaitSet
  split
  · exact .fail
  · exact .guard .succeed

theorem attach_eq_ok {waitSet : WaitSetId} {c : ConditionId}
    (hok : s.attach waitSet c = (.ok (), s')) :
    (∃ x, s.conditions.get? c = some x) ∧ (∃ w, s.waitSets.get? waitSet = some w) ∧
      s' = { s with
        waitSets := s.waitSets.modify waitSet fun w =>
          { w with conditions := insertCondition c w.conditions } } := by
  unfold attach at hok
  split at hok
  · rename_i hknown
    rw [Bool.and_eq_true] at hknown
    cases hok
    exact ⟨Option.isSome_iff_exists.mp hknown.1, Option.isSome_iff_exists.mp hknown.2, rfl⟩
  · exact absurd hok fail_ne_ok

theorem attach_keeps (s : State) (waitSet : WaitSetId) (c : ConditionId) :
    s.Keeps (s.attach waitSet c) := by
  unfold attach
  split
  · exact .succeed
  · exact .fail

/-- A condition that is gone counts as detached. -/
theorem detach_eq_ok {waitSet : WaitSetId} {c : ConditionId}
    (hok : s.detach waitSet c = (.ok (), s')) :
    ∃ w, s.waitSets.get? waitSet = some w ∧
      (c ∈ w.conditions ∧ s' = { s with
          waitSets := s.waitSets.modify waitSet fun w =>
            { w with conditions := w.conditions.filter (· ≠ c) } } ∨
        (c ∉ w.conditions ∧ s.conditions.get? c = none) ∧ s' = s) := by
  unfold detach at hok
  split at hok
  · exact absurd hok fail_ne_ok
  · rename_i w hw
    split at hok
    · rename_i hheld
      cases hok
      exact ⟨w, hw, .inl ⟨by simpa using hheld, rfl⟩⟩
    · rename_i hnot
      obtain ⟨hgone, hok⟩ := guard_eq_ok.mp hok
      cases hok
      exact ⟨w, hw, .inr ⟨⟨by simpa using hnot, by simpa [Table.contains] using hgone⟩, rfl⟩⟩

theorem detach_keeps (s : State) (waitSet : WaitSetId) (c : ConditionId) :
    s.Keeps (s.detach waitSet c) := by
  unfold detach
  split
  · exact .fail
  · split
    · exact .succeed
    · exact .guard .succeed

theorem enterWait_eq_ok {waitSet : WaitSetId} (hok : s.enterWait waitSet = (.ok (), s')) :
    (∃ w, s.waitSets.get? waitSet = some w ∧ w.waiting = false) ∧
      s' = { s with
        waitSets := s.waitSets.modify waitSet fun w => { w with waiting := true } } := by
  unfold enterWait at hok
  split at hok
  · exact absurd hok fail_ne_ok
  · rename_i w hw
    obtain ⟨hidle, hok⟩ := guard_eq_ok.mp hok
    cases hok
    exact ⟨⟨w, hw, by simpa using hidle⟩, rfl⟩

theorem enterWait_keeps (s : State) (waitSet : WaitSetId) : s.Keeps (s.enterWait waitSet) := by
  unfold enterWait
  split
  · exact .fail
  · exact .guard .succeed

/-! ## Every operation -/

/-- What an operation creates that is no endpoint: where it belongs and its body. -/
inductive Creates (s : State) : Operation → Option Handle → Body → Prop where
  | participant (domain : DomainId) :
      Creates s (.createParticipant domain) none (.participant domain [])
  | topic {p : Handle} {r : Record} {name typeName : String}
      (hget : s.get p .participant = .ok r) (hregistered : typeName ∈ s.typesOf p)
      (hclash : s.topicClashes p name typeName = false) :
      Creates s (.createTopic p name typeName) (some p) (.topic name typeName)
  | publisher {p : Handle} {r : Record} {partition : List String}
      (hget : s.get p .participant = .ok r) :
      Creates s (.createPublisher p partition) (some p) (.publisher partition)
  | subscriber {p : Handle} {r : Record} {partition : List String}
      (hget : s.get p .participant = .ok r) :
      Creates s (.createSubscriber p partition) (some p) (.subscriber partition)

/-- What an operation answers and the state after it: it is refused, or it does what its success
says. -/
inductive Performs (isFile : String → Bool) (s : State) : Operation → Reply × State → Prop where
  | refused {operation : Operation} {code : ReturnCode}
      (hrefused : s.perform isFile operation = (.failed code, s)) :
      Performs isFile s operation (.failed code, s)
  | initialized {args : List String} {parsed : InitArgs}
      (hparse : InitArgs.parse isFile args = .ok parsed) :
      Performs isFile s (.init args) (.done, { s with
        debugLevel := parsed.debugLevel.getD s.debugLevel
        configFile := parsed.configFile <|> s.configFile
        initialized := true })
  | installed (hready : s.initialized = true) :
      Performs isFile s .installRtps (.done, { s with rtpsInstalled := true })
  | created {operation : Operation} {p : Option Handle} {body : Body}
      (hready : s.initialized = true) (hcreates : s.Creates operation p body) :
      Performs isFile s operation (.entity s.next, (s.insert body.kind p p body).2)
  | joined {side : Side} {p g t : Handle} {qos : EndpointQos} (hready : s.initialized = true)
      (hqos : qos.history.isConsistent = true)
      (hcommon : s.commonParticipant g side.groupKind t = .ok p) :
      Performs isFile s (side.create g t qos)
        (.entity s.next, (s.withEndpoint side p g t qos).discover s.next)
  | cleared {p : Handle} {r : Record} (hget : s.get p .participant = .ok r) :
      Performs isFile s (.deleteContained p) (.done, s.deleteAll (s.contained p))
  | registered {p : Handle} {r : Record} {typeName : String}
      (hget : s.get p .participant = .ok r) :
      Performs isFile s (.registerType p typeName)
        (.done, s.modifyEntity p (Record.register typeName))
  | wrote {w : Handle} {payload : List UInt8} {s' : State}
      (hok : s.write w payload = (.ok (), s')) :
      Performs isFile s (.write w payload) (.done, s')
  | took (r : Handle) : Performs isFile s (.take r) (.of .sample (s.take r).1, (s.take r).2)
  | asked {e : Handle} {c : ConditionId} {s' : State} (hok : s.statusCondition e = (.ok c, s')) :
      Performs isFile s (.statusCondition e) (.condition c, s')
  | enabled {c : ConditionId} {mask : StatusMask} {s' : State}
      (hok : s.setEnabled c mask = (.ok (), s')) :
      Performs isFile s (.setEnabled c mask) (.done, s')
  | madeWaitSet :
      Performs isFile s .createWaitSet (.waitSet s.createWaitSet.1, s.createWaitSet.2)
  | droppedWaitSet {waitSet : WaitSetId} {s' : State}
      (hok : s.deleteWaitSet waitSet = (.ok (), s')) :
      Performs isFile s (.deleteWaitSet waitSet) (.done, s')
  | attached {waitSet : WaitSetId} {w : WaitSet} {c : ConditionId} {x : Condition}
      (hw : s.waitSets.get? waitSet = some w) (hx : s.conditions.get? c = some x) :
      Performs isFile s (.attach waitSet c) (.done, { s with
        waitSets := s.waitSets.modify waitSet fun w =>
          { w with conditions := insertCondition c w.conditions } })
  | detached {waitSet : WaitSetId} {w : WaitSet} {c : ConditionId}
      (hw : s.waitSets.get? waitSet = some w) (hheld : c ∈ w.conditions) :
      Performs isFile s (.detach waitSet c) (.done, { s with
        waitSets := s.waitSets.modify waitSet fun w =>
          { w with conditions := w.conditions.filter (· ≠ c) } })
  | apart {waitSet : WaitSetId} {w : WaitSet} {c : ConditionId}
      (hw : s.waitSets.get? waitSet = some w) (hnot : c ∉ w.conditions)
      (hgone : s.conditions.get? c = none) : Performs isFile s (.detach waitSet c) (.done, s)
  | entered {waitSet : WaitSetId} {w : WaitSet} (hw : s.waitSets.get? waitSet = some w)
      (hidle : w.waiting = false) :
      Performs isFile s (.enterWait waitSet) (.done, { s with
        waitSets := s.waitSets.modify waitSet fun w => { w with waiting := true } })
  | left (waitSet : WaitSetId) :
      Performs isFile s (.leaveWait waitSet) (.done, s.leaveWait waitSet)
  | listened {h : Handle} {r : Record} {listener : Option Listener} {mask : StatusMask}
      (hget : s.get h .reader = .ok r) :
      Performs isFile s (.setListener h listener mask)
        (.done, s.modifyReader h fun r => { r with listener := listener.map fun l => (l, mask) })
  | released (h : Handle) : Performs isFile s (.release h) (.done, s.release h)
  | relisted (order : List Handle) :
      Performs isFile s (.relist order) (.done, s.relist order)

variable {operation : Operation}

/-- An operation that leaves the state as it was if it fails is refused or does what its success
says. -/
theorem Performs.settleWith {α : Type} {reply : α → Reply} {x : Result α} (hkeeps : s.Keeps x)
    (hperform : s.perform isFile operation = x.settleWith reply)
    (hok : ∀ a s', x = (.ok a, s') → s.Performs isFile operation (reply a, s')) :
    s.Performs isFile operation (x.settleWith reply) := by
  obtain ⟨answer, s'⟩ := x
  cases answer with
  | error code =>
      obtain rfl : s' = s := hkeeps code rfl
      exact .refused hperform
  | ok a => exact hok a s' rfl

theorem Performs.settle {x : Result Unit} (hkeeps : s.Keeps x)
    (hperform : s.perform isFile operation = x.settle)
    (hok : ∀ s', x = (.ok (), s') → s.Performs isFile operation (.done, s')) :
    s.Performs isFile operation x.settle :=
  .settleWith hkeeps hperform fun _ => hok

theorem perform_cases (isFile : String → Bool) (s : State) (operation : Operation) :
    s.Performs isFile operation (s.perform isFile operation) := by
  cases operation with
  | init args =>
      refine .settle (init_keeps isFile s args) rfl fun s' hok => ?_
      obtain ⟨parsed, hparse, rfl⟩ := init_eq_ok hok
      exact .initialized hparse
  | installRtps =>
      refine .settle (installRtps_keeps s) rfl fun s' hok => ?_
      obtain ⟨hready, rfl⟩ := installRtps_eq_ok hok
      exact .installed hready
  | createParticipant domain =>
      refine .settleWith (createParticipant_keeps s domain) rfl fun h s' hok => ?_
      obtain ⟨hready, rfl, rfl⟩ := createParticipant_eq_ok hok
      exact .created hready (.participant domain)
  | deleteContained p =>
      refine .settle (deleteContained_keeps s p) rfl fun s' hok => ?_
      obtain ⟨r, hget, rfl⟩ := deleteContained_eq_ok hok
      exact .cleared hget
  | registerType p typeName =>
      refine .settle (registerType_keeps s p typeName) rfl fun s' hok => ?_
      obtain ⟨r, hget, rfl⟩ := registerType_eq_ok hok
      exact .registered hget
  | createTopic p name typeName =>
      refine .settleWith (createTopic_keeps s p name typeName) rfl fun h s' hok => ?_
      obtain ⟨hready, ⟨r, hget⟩, hregistered, hclash, rfl, rfl⟩ := createTopic_eq_ok hok
      exact .created hready (.topic hget hregistered hclash)
  | createPublisher p partition =>
      refine .settleWith (createPublisher_keeps s p partition) rfl fun h s' hok => ?_
      obtain ⟨hready, ⟨r, hget⟩, rfl, rfl⟩ := createPublisher_eq_ok hok
      exact .created hready (.publisher hget)
  | createSubscriber p partition =>
      refine .settleWith (createSubscriber_keeps s p partition) rfl fun h s' hok => ?_
      obtain ⟨hready, ⟨r, hget⟩, rfl, rfl⟩ := createSubscriber_eq_ok hok
      exact .created hready (.subscriber hget)
  | createWriter g t qos =>
      refine .settleWith (createWriter_keeps s g t qos) rfl fun h s' hok => ?_
      obtain ⟨hready, hqos, p, hcommon, rfl, rfl⟩ := createWriter_eq_ok hok
      have hjoined : s.Performs isFile (Side.writer.create g t qos) _ := .joined hready hqos hcommon
      exact hjoined
  | createReader g t qos =>
      refine .settleWith (createReader_keeps s g t qos) rfl fun h s' hok => ?_
      obtain ⟨hready, hqos, p, hcommon, rfl, rfl⟩ := createReader_eq_ok hok
      have hjoined : s.Performs isFile (Side.reader.create g t qos) _ := .joined hready hqos hcommon
      exact hjoined
  | write w payload => exact .settle (write_keeps s w payload) rfl fun s' hok => .wrote hok
  | take r => exact .took r
  | statusCondition e =>
      exact .settleWith (statusCondition_keeps s e) rfl fun c s' hok => .asked hok
  | setEnabled c mask => exact .settle (setEnabled_keeps s c mask) rfl fun s' hok => .enabled hok
  | createWaitSet => exact .madeWaitSet
  | deleteWaitSet waitSet =>
      exact .settle (deleteWaitSet_keeps s waitSet) rfl fun s' hok => .droppedWaitSet hok
  | attach waitSet c =>
      refine .settle (attach_keeps s waitSet c) rfl fun s' hok => ?_
      obtain ⟨⟨x, hx⟩, ⟨w, hw⟩, rfl⟩ := attach_eq_ok hok
      exact .attached hw hx
  | detach waitSet c =>
      refine .settle (detach_keeps s waitSet c) rfl fun s' hok => ?_
      obtain ⟨w, hw, ⟨hheld, rfl⟩ | ⟨⟨hnot, hgone⟩, rfl⟩⟩ := detach_eq_ok hok
      · exact .detached hw hheld
      · exact .apart hw hnot hgone
  | enterWait waitSet =>
      refine .settle (enterWait_keeps s waitSet) rfl fun s' hok => ?_
      obtain ⟨⟨w, hw, hidle⟩, rfl⟩ := enterWait_eq_ok hok
      exact .entered hw hidle
  | leaveWait waitSet => exact .left waitSet
  | setListener h listener mask =>
      refine .settle (setListener_keeps s h listener mask) rfl fun s' hok => ?_
      obtain ⟨r, hget, rfl⟩ := setListener_eq_ok hok
      exact .listened hget
  | release h => exact .released h
  | relist order => exact .relisted order

end State

end DdsBridge.Provider
