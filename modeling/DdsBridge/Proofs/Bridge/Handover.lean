import DdsBridge.Proofs.Bridge.Contention
import DdsBridge.Proofs.Bridge.Runs
import DdsBridge.Proofs.Bridge.Samples
import DdsBridge.Proofs.Bridge.Standing
import DdsBridge.Proofs.Provider.Subjects

/-!
# Handles that are handed to the provider

A call of the bridge looks up the entities that its proxies stand for, and then hands their handles
to the provider. If it runs no host code in between, the entities are there when the provider is
asked. A call that converts a host object in between may run host code that deletes them; the
provider then refuses the operation.

* **`Bridge.Question`**, **`Bridge.Call.prepare?`** — a call up to the operation that it asks for;
  **`Bridge.Call.act_eq`** says that this is how the call begins.
* **`World.Truthful`**, **`World.StaysTrue`** — capsules name entities of their kinds.
* **`Rules.honest`** — runs in which the bridge alone makes capsules, and **`honest_allows`** for
  what they leave true.
* **`Bridge.hands_over_found`** — what a call hands to the provider.
* **`Bridge.hands_over_gone_writer`** — a write to a writer that has gone.
-/

namespace DdsBridge

open Memory Proxies
open DdsBridge.Action (Within WithinAt)
open Provider (Method Operation Reply State)

/-! ## Questions -/

namespace Provider.Reply

/-- The new entity in an answer. -/
def entity? : Reply → Option Handle
  | .entity handle => some handle
  | _ => none

/-- The sample in an answer. -/
def sample? : Reply → Option Sample
  | .sample taken => some taken
  | _ => none

/-- What was asked for, or the code with which it was refused. -/
def result {α : Type} (pick : Reply → Option α) (reply : Reply) : Except ReturnCode α :=
  match pick reply with
  | some a => .ok a
  | none => .error reply.code

end Provider.Reply

/-- What the bridge asks of the provider, and what it does with the answer. -/
structure Bridge.Question (B : Type) where
  operation : Operation
  finish : Reply → BridgeAction B Unit

namespace Bridge

section Questions

variable {B : Type}

/-- Asks the provider. No operation on an entity looks at files. -/
def Question.ask (question : Question B) : BridgeAction B Unit := do
  let reply ← Gate.perform (fun _ => false) question.operation
  question.finish reply

variable [ObjectBody B] (h : Host B)

/-- Makes an object of a sample that was taken. -/
def giveSample (coding : SampleCoding) (s : StructType) (reader : Handle) :
    Except ReturnCode Sample → BridgeAction B Ref
  | .error .noData => Action.raise (.noData s!"{s.head.typeName} reader {reader.text}")
  | .error code => Action.raise (.operation "take_next_sample" code)
  | .ok sample =>
    if sample.info.validData then
      match coding.decode s.type sample.payload with
      | .ok value => Marshal.toHost h .bridge s.type value
      | .error reason => Action.raise (.serialization reason)
    else return h.none

/-- Goes on waiting with the condition of the entity. -/
def waitOn (watch : Watch) : Reply → BridgeAction B Unit
  | .condition c => runClient (fun _ => false) (watch.enable c)
  | reply => runClient (fun _ => false) (.done (Watch.refused "get_statuscondition" reply))

/-- A call up to the point at which it hands the provider handles of entities. The other calls do not
hand over any. -/
def Call.prepare? : Call → Option (BridgeAction B (Question B))
  | .createTopic proxy participant name type => some do
    requireInit "create_topic"
    let p ← resolveAs h participant .participant "participant"
    return ⟨.createTopic p name type, fun reply => do
      let topic ← Gate.expect "create_topic" (reply.result Reply.entity?)
      bindEntity h proxy .topic topic
      linkType h proxy type⟩
  | .createPublisher proxy participant => some do
    requireInit "create_publisher"
    let p ← resolveAs h participant .participant "participant"
    return ⟨.createPublisher p [], fun reply => do
      let publisher ← Gate.expect "create_publisher" (reply.result Reply.entity?)
      bindEntity h proxy .publisher publisher⟩
  | .createSubscriber proxy participant => some do
    requireInit "create_subscriber"
    let p ← resolveAs h participant .participant "participant"
    return ⟨.createSubscriber p [], fun reply => do
      let subscriber ← Gate.expect "create_subscriber" (reply.result Reply.entity?)
      bindEntity h proxy .subscriber subscriber⟩
  | .createWriter proxy publisher topic qos => some do
    requireInit "create_datawriter"
    let g ← resolveAs h publisher .publisher "publisher"
    let t ← resolveAs h topic .topic "topic"
    let offered ← Policies.endpointQos h .writerDefault qos
    return ⟨.createWriter g t offered, fun reply => do
      let writer ← Gate.expect "create_datawriter" (reply.result Reply.entity?)
      bindEndpoint h proxy .writer writer topic⟩
  | .createReader proxy subscriber topic qos => some do
    requireInit "create_datareader"
    let g ← resolveAs h subscriber .subscriber "subscriber"
    let t ← resolveAs h topic .topic "topic"
    let requested ← Policies.endpointQos h .readerDefault qos
    return ⟨.createReader g t requested, fun reply => do
      let reader ← Gate.expect "create_datareader" (reply.result Reply.entity?)
      bindEndpoint h proxy .reader reader topic⟩
  | .registerType participant cls => some do
    requireInit "register_type"
    let p ← resolveAs h participant .participant "participant"
    let s ← Registry.lookupType h cls
    return ⟨.registerType p s.head.typeName, fun reply => do
      Gate.check "register_type" reply.code
      listRegisteredType h participant cls⟩
  | .cleanup proxy => some do
    let p ← resolveAs h proxy .participant "participant"
    return ⟨.deleteContained p, fun reply => do
      Gate.check "delete_contained_entities" reply.code
      Action.change pruneCallbacks⟩
  | .write coding writer sample => some do
    let w ← resolveAs h writer .writer "datawriter"
    let s ← Registry.topicTypeOf h writer
    let value ← Marshal.fromHost h .bridge s.type sample
    let payload ← Action.ofExcept ((coding.encode s.type value).mapError Error.serialization)
    return ⟨.write w payload, fun reply => Gate.check "write" reply.code⟩
  | .take coding reader => some do
    let r ← resolveAs h reader .reader "datareader"
    let s ← Registry.topicTypeOf h reader
    return ⟨.take r, fun reply => do
      let _ ← giveSample h coding s r (reply.result Reply.sample?)⟩
  | .waitFor proxy mask limit => some do
    let (_, e) ← resolve h proxy "entity"
    return ⟨.statusCondition e, waitOn ⟨e, mask, limit⟩⟩
  | .setCallback reader callback => some do
    let r ← resolveAs h reader .reader "datareader"
    h.checkWeak reader
    return ⟨.setListener r (some .channel) (.ofKind .dataAvailable), fun reply => do
      Gate.check "set_listener" reply.code
      Action.change fun w => World.setCallback w r ⟨reader, callback⟩⟩
  | .clearCallback reader => some do
    let r ← resolveAs h reader .reader "datareader"
    return ⟨.setListener r none .none, fun reply => do
      Gate.check "set_listener" reply.code
      Action.change fun w => World.dropCallback w r⟩
  | .init .. | .registerTopicType _ | .createParticipant .. | .typeName _ | .dispatch _ => none

end Questions

end Bridge

namespace Gate

variable {B ε α : Type} {method : Method}

/-- A call that answers with a return code asks for an operation. -/
theorem run_eq (isFile : String → Bool) (operation : Operation) {op : State → Provider.Result Unit}
    (hmethod : operation.method? = some method)
    (hop : ∀ s : State, s.perform isFile operation = (op s).settle) :
    (run method op : Action B ε ReturnCode) = do
      let reply ← perform isFile operation
      return reply.code := by
  refine Action.ext fun w => ?_
  obtain ⟨reply, w', hperform, hrun⟩ := perform_run (B := B) (ε := ε) isFile operation hmethod hop w
  rw [hrun, Action.apply_bind_of_ok hperform, Action.apply_pure]

/-- A call that answers with something asks for an operation. -/
theorem fetch_eq (isFile : String → Bool) (operation : Operation) (reply : α → Reply)
    (pick : Reply → Option α) {op : State → Provider.Result α} (hmethod : operation.method? = some method)
    (hop : ∀ s : State, s.perform isFile operation = (op s).settleWith reply)
    (hpick : ∀ a, (reply a).result pick = .ok a)
    (hfailed : ∀ code, (Reply.failed code).result pick = .error code) :
    (fetch method op : Action B ε (Except ReturnCode α)) = do
      let reply ← perform isFile operation
      return reply.result pick := by
  refine Action.ext fun w => ?_
  rcases perform_fetch (B := B) (ε := ε) isFile operation reply hmethod hop w with
    ⟨a, w', hperform, hfetch⟩ | ⟨code, w', hperform, hfetch⟩
  · rw [hfetch, Action.apply_bind_of_ok hperform, hpick, Action.apply_pure]
  · rw [hfetch, Action.apply_bind_of_ok hperform, hfailed, Action.apply_pure]

/-- A creation asks for an operation. -/
theorem fetch_entity (isFile : String → Bool) (operation : Operation)
    {op : State → Provider.Result Handle} (hmethod : operation.method? = some method)
    (hop : ∀ s : State, s.perform isFile operation = (op s).settleWith .entity) :
    (fetch method op : Action B ε (Except ReturnCode Handle)) = do
      let reply ← perform isFile operation
      return reply.result Reply.entity? :=
  fetch_eq isFile operation .entity Reply.entity? hmethod hop (fun _ => rfl) fun _ => rfl

end Gate

namespace Bridge

variable {B : Type} [ObjectBody B] {h : Host B}

/-- A call is what it does before it asks the provider, followed by the question. -/
theorem Call.act_eq {call : Call} {prepare : BridgeAction B (Question B)}
    (hprepare : call.prepare? h = some prepare) : call.act h = prepare >>= Question.ask := by
  -- calls differ in what they ask; that they ask once, with what they prepared, is the same
  cases call with
  | createTopic proxy participant name type =>
      cases hprepare
      have hask := fun p => Gate.fetch_entity (B := B) (ε := Error) (fun _ => false)
        (.createTopic p name type) rfl fun _ => rfl
      simp only [Call.act, Bridge.createTopic, hask, Question.ask, bind_assoc, pure_bind]
  | createPublisher proxy participant =>
      cases hprepare
      have hask := fun p => Gate.fetch_entity (B := B) (ε := Error) (fun _ => false)
        (.createPublisher p []) rfl fun _ => rfl
      simp only [Call.act, Bridge.createPublisher, hask, Question.ask, bind_assoc, pure_bind]
  | createSubscriber proxy participant =>
      cases hprepare
      have hask := fun p => Gate.fetch_entity (B := B) (ε := Error) (fun _ => false)
        (.createSubscriber p []) rfl fun _ => rfl
      simp only [Call.act, Bridge.createSubscriber, hask, Question.ask, bind_assoc, pure_bind]
  | createWriter proxy publisher topic qos =>
      cases hprepare
      have hask := fun g t offered => Gate.fetch_entity (B := B) (ε := Error) (fun _ => false)
        (.createWriter g t offered) rfl fun _ => rfl
      simp only [Call.act, Bridge.createWriter, hask, Question.ask, bind_assoc, pure_bind]
  | createReader proxy subscriber topic qos =>
      cases hprepare
      have hask := fun g t requested => Gate.fetch_entity (B := B) (ε := Error) (fun _ => false)
        (.createReader g t requested) rfl fun _ => rfl
      simp only [Call.act, Bridge.createReader, hask, Question.ask, bind_assoc, pure_bind]
  | registerType participant cls =>
      cases hprepare
      have hask := fun p name => Gate.run_eq (B := B) (ε := Error) (fun _ => false)
        (.registerType p name) rfl fun _ => rfl
      simp only [Call.act, Bridge.registerType, hask, Question.ask, bind_assoc, pure_bind]
  | cleanup proxy =>
      cases hprepare
      have hask := fun p => Gate.run_eq (B := B) (ε := Error) (fun _ => false)
        (.deleteContained p) rfl fun _ => rfl
      simp only [Call.act, Bridge.cleanup, hask, Question.ask, bind_assoc, pure_bind]
  | write coding writer sample =>
      cases hprepare
      have hask := fun w payload => Gate.run_eq (B := B) (ε := Error) (fun _ => false)
        (.write w payload) rfl fun _ => rfl
      simp only [Call.act, Bridge.write, writeSample, hask, Question.ask, bind_assoc, pure_bind]
  | take coding reader =>
      cases hprepare
      have htake : ∀ s r, takeSample h coding s r = (do
          let reply ← Gate.perform (fun _ => false) (.take r)
          giveSample h coding s r (reply.result Reply.sample?)) := by
        intro s r
        rw [takeSample, Gate.fetch_eq (fun _ => false) (.take r) .sample Reply.sample? rfl
          (fun _ => rfl) (fun _ => rfl) fun _ => rfl, bind_assoc]
        simp only [pure_bind]
        rfl
      simp only [Call.act, Bridge.take, htake, Question.ask, bind_assoc, pure_bind]
  | waitFor proxy mask limit =>
      cases hprepare
      have hwait : Bridge.waitFor h proxy mask limit = _ :=
        Action.ext (waitFor_apply (fun _ => false) h proxy mask limit)
      have hclient : ∀ watch : Watch, runClient (fun _ => false) watch.client = (do
          let reply ← Gate.perform (fun _ => false) (.statusCondition watch.entity)
          waitOn watch reply : BridgeAction B Unit) := by
        intro watch
        rw [Watch.client, runClient]
        exact congrArg _ (funext fun reply => by cases reply <;> rfl)
      simp only [Call.act, hwait, hclient, Question.ask, bind_assoc, pure_bind]
  | setCallback reader callback =>
      cases hprepare
      have hask := fun r => Gate.run_eq (B := B) (ε := Error) (fun _ => false)
        (.setListener r (some .channel) (.ofKind .dataAvailable)) rfl fun _ => rfl
      simp only [Call.act, Bridge.setCallback, hask, Question.ask, bind_assoc, pure_bind]
  | clearCallback reader =>
      cases hprepare
      have hask := fun r => Gate.run_eq (B := B) (ε := Error) (fun _ => false)
        (.setListener r none .none) rfl fun _ => rfl
      simp only [Call.act, Bridge.clearCallback, hask, Question.ask, bind_assoc, pure_bind]
  | init | registerTopicType | createParticipant | typeName | dispatch => cases hprepare

/-- A call that converts a host object between the look-up of its proxies and the question. -/
def Call.converts : Call → Bool
  | .write .. => true
  | .createWriter _ _ _ qos | .createReader _ _ _ qos => qos.isSome
  | _ => false

end Bridge

/-! ## Truthful capsules -/

/-- A body that is no capsule. -/
def Memory.Body.IsNoCapsule {C : Type} (body : Body C) : Prop := ∀ capsule, body ≠ .capsule capsule

theorem Memory.Body.IsPlain.isNoCapsule {C : Type} {body : Body C} (h : body.IsPlain) :
    body.IsNoCapsule := by
  rintro capsule rfl
  exact h

variable {C : Type} {w w' w₀ w₁ : World (Body C)}

/-- Nothing dangles within the provider, and every capsule names an entity of the capsule's kind, if
the entity is still there. -/
structure World.Truthful (w : World (Body C)) : Prop where
  wellFormed : w.provider.WellFormed
  kinded : ∀ {r capsule}, w.bodyAt r = some (.capsule capsule) →
    w.provider.Kinded capsule.handle capsule.kind

/-- Capsules that told the truth still do, and entities that are still there are what they were. -/
def World.StaysTrue (w w' : World (Body C)) : Prop :=
  w.Truthful → w'.Truthful ∧ w.provider.Precedes w'.provider

/-- No capsule comes, and the provider goes on. -/
theorem staysTrue_of_goes (hgoes : w.provider.Goes w'.provider)
    (hbody : ∀ {r capsule}, w'.bodyAt r = some (.capsule capsule) →
      w.bodyAt r = some (.capsule capsule)) : w.StaysTrue w' := by
  intro htrue
  obtain ⟨hwf, hprecedes⟩ := hgoes htrue.wellFormed
  exact ⟨⟨hwf, fun hcapsule => (htrue.kinded (hbody hcapsule)).mono hprecedes⟩, hprecedes⟩

theorem staysTrue_steady [HostCode C] :
    World.Steady Body.IsNoCapsule AnyName (World.StaysTrue : World (Body C) → World (Body C) → Prop)
    where
  trans h h' htrue := by
    obtain ⟨hmiddle, hprecedes⟩ := h htrue
    obtain ⟨hlast, hprecedes'⟩ := h' hmiddle
    exact ⟨hlast, hprecedes.trans hprecedes'⟩
  quiet h := by
    refine staysTrue_of_goes (h.provider ▸ .refl _) fun {r capsule} hcapsule => ?_
    rcases h.new r _ hcapsule with hold | hplain
    · exact hold
    · exact absurd rfl (hplain capsule)
  discard _ _ := staysTrue_of_goes (World.discard_idles _ _).goes World.bodyAt_of_discard

theorem staysTrue_turning :
    World.Turning (World.StaysTrue : World (Body C) → World (Body C) → Prop) where
  turn h := staysTrue_of_goes h.goes fun hcapsule => by rwa [World.bodyAt, h.heap] at hcapsule
  noted _ _ _ := staysTrue_of_goes (.refl _) id

/-- The capsule of a new entity tells the truth. -/
theorem staysTrue_makes [HostCode C] :
    World.Makes (World.StaysTrue : World (Body C) → World (Body C) → Prop) := by
  intro w w' capsule node hadds hnode htrue
  obtain ⟨hwf, hprecedes⟩ := hadds.goes htrue.wellFormed
  refine ⟨⟨hwf, fun {r found} hfound => ?_⟩, hprecedes⟩
  have halloc : w'.Quiet (fun body => body = node.body)
      { w' with heap := (w'.heap.alloc node).2 } := .alloc w' rfl
  rcases halloc.new r _ hfound with hold | hnew
  · rw [World.bodyAt, hadds.heap] at hold
    exact (htrue.kinded hold).mono hprecedes
  · rw [← hnew] at hnode
    cases hnode
    exact hadds.kinded

/-! ## Runs in which the bridge alone makes capsules -/

/-- The host does what it likes, but it does not forge capsules. -/
def Rules.honest : Rules C where
  Plain := Body.IsNoCapsule
  Free := AnyName
  Fits _ _ _ := True
  Agrees := World.Truthful

variable [HostCode C] {inner : Host (Body C)} {invoke : C → List Ref → MemoryAction C Ref}

theorem staysTrue_call (hnested : Nested AnyName World.StaysTrue inner invoke) (call : Bridge.Call) :
    (call.act (host inner invoke)).Within World.StaysTrue := by
  have hR := staysTrue_steady (C := C)
  have hL := staysTrue_turning (C := C)
  have hh : (host inner invoke).Acts AnyName World.StaysTrue :=
    hnested.acts (hR.mono fun _ hplain => hplain.isNoCapsule) fun _ _ => trivial
  have hany : ∀ name, AnyName name := fun _ => trivial
  have hmakes := staysTrue_makes (C := C)
  have hseals : (host inner invoke).Seals := fun _ => .inr ⟨_, rfl, rfl⟩
  cases call with
  | registerTopicType s =>
      have hregister : ∀ (w : World (Body C)) registry,
          w.StaysTrue { w with bridge := { w.bridge with registry } } :=
        fun w _ => staysTrue_of_goes (.refl _) id
      exact .bind hR (Registry.registerTopicType_within hR hh.toReads hregister s)
        fun _ => .pure hR ()
  | createParticipant proxy domain =>
      exact Bridge.createParticipant_within hR hh hany hseals hmakes hL proxy domain
  | createTopic proxy participant name type =>
      exact Bridge.createTopic_within hR hh hany hseals hmakes hL proxy participant name type
  | createPublisher proxy participant =>
      exact Bridge.createPublisher_within hR hh hany hseals hmakes hL proxy participant
  | createSubscriber proxy participant =>
      exact Bridge.createSubscriber_within hR hh hany hseals hmakes hL proxy participant
  | createWriter proxy publisher topic qos =>
      exact Bridge.createWriter_within hR hh hany hseals hmakes hL proxy publisher topic qos
  | createReader proxy subscriber topic qos =>
      exact Bridge.createReader_within hR hh hany hseals hmakes hL proxy subscriber topic qos
  -- the other calls create nothing and register no type
  | _ =>
      exact Bridge.Call.within_of_settled hR hh hL trivial
        (fun w _ hwild => absurd w.typesFree_any hwild) rfl fun _ => by simp

/-- Capsules tell the truth throughout a run. -/
theorem honest_allows :
    Rules.honest.Allows (World.StaysTrue : World (Body C) → World (Body C) → Prop) where
  steady := staysTrue_steady
  noted := staysTrue_turning.noted
  discard w r := staysTrue_of_goes (World.discard_idles w r).goes World.bodyAt_of_discard
  provider w isFile operation :=
    staysTrue_of_goes (World.advance_goes (State.perform_goes isFile operation w.provider))
      fun hcapsule => by rwa [World.bodyAt, (w.sameObjects_advance _).1.heap] at hcapsule
  agrees h htrue := h htrue htrue
  call {_ _ w call} hnested _ := staysTrue_call hnested call w

/-- What runs do from truthful worlds. -/
theorem honest_steady : World.Steady Body.IsNoCapsule AnyName
    fun w w' : World (Body C) => w.Truthful → Rules.honest.Run w w' :=
  Rules.Run.steady fun htrue hrun => (hrun.within honest_allows htrue).1

/-! ## What is handed over -/

/-- Every entity that an operation is about is there, and a capsule vouched for its kind. -/
def World.Vouches (w : World (Body C)) (operation : Operation) : Prop :=
  ∀ subject ∈ operation.subjects, w.provider.Has subject ∧
    ∀ kind ∈ subject.2, w.provider.Kinded subject.1 kind

omit [HostCode C] in
theorem World.Truthful.kinded_of_standsFor (htrue : w.Truthful) {proxy : Ref} {kind : EntityKind}
    {e : Handle} (h : StandsFor w proxy kind e) : w.provider.Kinded e kind := by
  obtain ⟨wrapped, -, hheld, -⟩ := h
  unfold capsuleHandle at hheld
  split at hheld
  · rename_i capsule hcapsule
    cases hheld
    exact htrue.kinded hcapsule
  · exact absurd hheld (by simp)

omit [HostCode C] in
theorem World.Truthful.vouches (htrue : w.Truthful) {proxy : Ref} {kind : EntityKind} {e : Handle}
    (h : StandsFor w proxy kind e) :
    w.provider.Has (e, some kind) ∧ ∀ found ∈ some kind, w.provider.Kinded e found := by
  have hkinded := htrue.kinded_of_standsFor h
  obtain ⟨_, _, _, halive⟩ := h
  refine ⟨hkinded.has htrue.wellFormed halive, fun found hfound => ?_⟩
  cases hfound
  exact hkinded

omit [HostCode C] in
theorem World.vouches_one {operation : Operation} {e : Handle} {kind : EntityKind}
    (h : operation.subjects = [(e, some kind)]) {proxy : Ref} (htrue : w.Truthful)
    (hstands : StandsFor w proxy kind e) : w.Vouches operation := by
  unfold World.Vouches
  rw [h]
  exact List.forall_mem_singleton.mpr (htrue.vouches hstands)

omit [HostCode C] in
theorem World.vouches_two {operation : Operation} {e e' : Handle} {kind kind' : EntityKind}
    (h : operation.subjects = [(e, some kind), (e', some kind')]) {proxy proxy' : Ref}
    (htrue : w.Truthful) (hstands : StandsFor w proxy kind e)
    (hstands' : StandsFor w proxy' kind' e') : w.Vouches operation := by
  unfold World.Vouches
  rw [h]
  exact List.forall_mem_cons.mpr
    ⟨htrue.vouches hstands, List.forall_mem_singleton.mpr (htrue.vouches hstands')⟩

section Steps

variable {β : Type} {b : β}

omit [HostCode C] in
theorem requireInit_bind_eq_ok {operation : String} {f : Unit → BridgeAction (Body C) β}
    (h : (Bridge.requireInit operation >>= f).apply w = (.ok b, w')) :
    (f ()).apply w = (.ok b, w') := by
  obtain ⟨_, w₁, hinit, hrest⟩ := Action.apply_bind_eq_ok_iff.mp h
  rw [Bridge.requireInit, Action.apply_bind_of_ok
    (show (Bridge.isInitialized : BridgeAction (Body C) Bool).apply w = _ from rfl)] at hinit
  split at hinit
  · cases hinit
    exact hrest
  · exact absurd (congrArg Prod.fst hinit) (by simp)

theorem resolveAs_bind_eq_ok {proxy : Ref} {kind : EntityKind} {role : String}
    {f : Handle → BridgeAction (Body C) β}
    (h : (resolveAs (host inner invoke) proxy kind role >>= f).apply w = (.ok b, w')) :
    ∃ e, StandsFor w proxy kind e ∧ (f e).apply w = (.ok b, w') := by
  obtain ⟨e, w₁, hresolved, hrest⟩ := Action.apply_bind_eq_ok_iff.mp h
  obtain ⟨rfl, hstands⟩ := resolveAs_eq_ok_iff.mp hresolved
  exact ⟨e, hstands, hrest⟩

end Steps

/-- Looking at objects runs host code, which does what runs do. -/
theorem honest_reads (hobeyed : Rules.honest.Obeyed inner invoke) :
    (host inner invoke).Reads fun w w' => w.Truthful → Rules.honest.Run w w' :=
  (hobeyed.acts (honest_steady.mono fun _ hplain => hplain.isNoCapsule) fun _ _ => trivial).toReads

/-- The policies of a new endpoint are read in the course of a run, if they have to be read. -/
theorem endpointQos_runs (hobeyed : Rules.honest.Obeyed inner invoke) (htrue : w.Truthful)
    {default found : EndpointQos} {qos : Option Ref}
    (h : (Policies.endpointQos (host inner invoke) default qos).apply w = (.ok found, w')) :
    w' = w ∨ qos.isSome = true ∧ Rules.honest.Run w w' := by
  cases qos with
  | none =>
      cases h
      exact .inl rfl
  | some qos =>
      have hread := Policies.endpointQos_within honest_steady (honest_reads hobeyed) default
        (some qos) w
      unfold WithinAt at hread
      rw [h] at hread
      exact .inr ⟨rfl, hread (by simp) htrue⟩

/-- Up to its question a call finds live entities. It leaves the world as it is unless it converts an
object, and then it does what runs do. -/
theorem Bridge.Call.prepare_finds (hobeyed : Rules.honest.Obeyed inner invoke) (htrue : w.Truthful)
    {call : Bridge.Call} {prepare : BridgeAction (Body C) (Bridge.Question (Body C))}
    (hprepare : call.prepare? (host inner invoke) = some prepare)
    {question : Bridge.Question (Body C)} (hok : prepare.apply w = (.ok question, w')) :
    w.Vouches question.operation ∧ (w' = w ∨ call.converts = true ∧ Rules.honest.Run w w') := by
  cases call with
  | createTopic | createPublisher | createSubscriber =>
      cases hprepare
      obtain ⟨p, hstands, hdone⟩ := resolveAs_bind_eq_ok (requireInit_bind_eq_ok hok)
      cases hdone
      exact ⟨World.vouches_one rfl htrue hstands, .inl rfl⟩
  | createWriter | createReader =>
      cases hprepare
      obtain ⟨g, hgroup, hrest⟩ := resolveAs_bind_eq_ok (requireInit_bind_eq_ok hok)
      obtain ⟨t, htopic, hread⟩ := resolveAs_bind_eq_ok hrest
      obtain ⟨qos, w₁, hqos, hdone⟩ := Action.apply_bind_eq_ok_iff.mp hread
      cases hdone
      exact ⟨World.vouches_two rfl htrue hgroup htopic, endpointQos_runs hobeyed htrue hqos⟩
  | registerType participant cls =>
      cases hprepare
      obtain ⟨p, hstands, hrest⟩ := resolveAs_bind_eq_ok (requireInit_bind_eq_ok hok)
      obtain ⟨s, w₁, htype, hdone⟩ := Action.apply_bind_eq_ok_iff.mp hrest
      obtain ⟨rfl, -⟩ := lookupType_eq_ok_iff.mp htype
      cases hdone
      exact ⟨World.vouches_one rfl htrue hstands, .inl rfl⟩
  | write coding writer sample =>
      cases hprepare
      obtain ⟨e, hstands, hrest⟩ := resolveAs_bind_eq_ok hok
      obtain ⟨s, w₁, htype, hread⟩ := Action.apply_bind_eq_ok_iff.mp hrest
      obtain ⟨rfl, -⟩ := topicTypeOf_eq_ok_iff.mp htype
      obtain ⟨v, w₂, hvalue, hcoded⟩ := Action.apply_bind_eq_ok_iff.mp hread
      obtain ⟨payload, w₃, hpayload, hdone⟩ := Action.apply_bind_eq_ok_iff.mp hcoded
      obtain ⟨-, rfl⟩ := Action.apply_ofExcept_eq_ok hpayload
      cases hdone
      -- the conversion runs host code, which does what runs do
      have hruns := Marshal.fromHost_within honest_steady (honest_reads hobeyed) .bridge s.type sample w₁
      unfold WithinAt at hruns
      rw [hvalue] at hruns
      exact ⟨World.vouches_one rfl htrue hstands, .inr ⟨rfl, hruns (by simp) htrue⟩⟩
  | take reader =>
      cases hprepare
      obtain ⟨e, hstands, hrest⟩ := resolveAs_bind_eq_ok hok
      obtain ⟨s, w₁, htype, hdone⟩ := Action.apply_bind_eq_ok_iff.mp hrest
      obtain ⟨rfl, -⟩ := topicTypeOf_eq_ok_iff.mp htype
      cases hdone
      exact ⟨World.vouches_one rfl htrue hstands, .inl rfl⟩
  | waitFor proxy mask limit =>
      cases hprepare
      obtain ⟨⟨kind, e⟩, w₁, hresolved, hdone⟩ := Action.apply_bind_eq_ok_iff.mp hok
      obtain ⟨rfl, _, _, _, halive⟩ := resolve_eq_ok hresolved
      cases hdone
      refine ⟨List.forall_mem_singleton.mpr ⟨State.has_of_isAlive halive, fun _ hkind => ?_⟩, .inl rfl⟩
      exact absurd hkind (by simp)
  | cleanup | setCallback | clearCallback =>
      cases hprepare
      obtain ⟨e, hstands, hdone⟩ := resolveAs_bind_eq_ok hok
      cases hdone
      exact ⟨World.vouches_one rfl htrue hstands, .inl rfl⟩
  | init | registerTopicType | createParticipant | typeName | dispatch => cases hprepare

/-- When a call in a run hands the provider handles of entities, these were live entities of the
expected kinds in the world in which the call looked them up. Only a call that converts a host object
after that asks in a later world; it may be handing over a handle of an entity that was deleted
meanwhile, but none of an entity of another kind, and the provider then refuses the operation and
stays as it is. Host code in the course of a call starts in a truthful world, so the same is true of
the calls that it makes. -/
theorem Bridge.hands_over_found (hstart : w₀.Truthful) (hrun : Rules.honest.Run w₀ w)
    (hobeyed : Rules.honest.Obeyed inner invoke) {call : Bridge.Call}
    {prepare : BridgeAction (Body C) (Bridge.Question (Body C))}
    (hprepare : call.prepare? (host inner invoke) = some prepare) :
    call.act (host inner invoke) = prepare >>= Bridge.Question.ask ∧
    ∀ question w₁, prepare.apply w = (.ok question, w₁) →
      w.provider.Grounded question.operation ∧
      (w₁ = w ∨ call.converts = true ∧ Rules.honest.Run w w₁) ∧
      (∀ subject ∈ question.operation.subjects, w₁.provider.isAlive subject.1 = true →
        w₁.provider.Has subject) ∧
      (w₁.provider.Grounded question.operation ∨ ∀ isFile, ∃ code,
        w₁.provider.perform isFile question.operation = (.failed code, w₁.provider)) := by
  refine ⟨Bridge.Call.act_eq hprepare, fun question w₁ hok => ?_⟩
  obtain ⟨htrue, -⟩ := hrun.within honest_allows hstart
  obtain ⟨hvouches, hruns⟩ := Bridge.Call.prepare_finds hobeyed htrue hprepare hok
  obtain ⟨htrue₁, hprecedes⟩ : w₁.Truthful ∧ w.provider.Precedes w₁.provider := by
    rcases hruns with rfl | ⟨-, hcourse⟩
    · exact ⟨htrue, .refl _⟩
    · exact hcourse.within honest_allows htrue
  refine ⟨fun subject hmem => (hvouches subject hmem).1, hruns, ?_, ?_⟩
  · rintro ⟨e, kind⟩ hmem halive
    obtain ⟨-, hkinded⟩ := hvouches _ hmem
    cases kind with
    | none => exact State.has_of_isAlive halive
    | some kind => exact ((hkinded kind rfl).mono hprecedes).has htrue₁.wellFormed halive
  · by_cases hgrounded : w₁.provider.Grounded question.operation
    · exact .inl hgrounded
    · exact .inr fun isFile => State.perform_of_not_grounded htrue₁.wellFormed isFile hgrounded

namespace Bridge

/-! A writer that goes while the sample to be written is read. -/

/-- A structure with a text. -/
def noteType : StructType where
  head := ⟨"Note", "Message", ⟨"app", ["Note"]⟩⟩
  fields := .cons ⟨"text", some "text"⟩ .string .nil

/-- The built-in objects; a module with the class of notes; a class whose instances have their text
from a function; proxies for a topic, a participant and a writer, two of them with a capsule; the
function; and a note with a text of that class. -/
def noteObjects : List (Node (Memory.Body Session.Code)) :=
  Builtin.all.map (fun b => ⟨.empty, b.body⟩) ++
    [⟨attrsOf [("Note", ⟨17⟩)], .module "app"⟩,
      ⟨.empty, .cls ⟨"app.Note", [Builtin.object.ref], [Builtin.object.ref], none⟩⟩,
      ⟨attrsOf [("__str__", ⟨24⟩)],
        .cls ⟨"app.Label", [Builtin.object.ref], [Builtin.object.ref], none⟩⟩,
      ⟨attrsOf [("type", ⟨17⟩)], .instance Builtin.object.ref none⟩,
      ⟨.empty, .capsule ⟨.participant, ⟨1⟩, .bridge 1 true⟩⟩,
      ⟨attrsOf [("_cpp_object", ⟨20⟩)], .instance Builtin.object.ref none⟩,
      ⟨.empty, .capsule ⟨.writer, ⟨5⟩, .bridge 1 true⟩⟩,
      ⟨attrsOf [("_cpp_object", ⟨22⟩), ("topic", ⟨19⟩)], .instance Builtin.object.ref none⟩,
      ⟨.empty, .function (.give ⟨21⟩)⟩,
      ⟨.empty, .instance ⟨18⟩ none⟩,
      ⟨attrsOf [("text", ⟨25⟩)], .instance ⟨17⟩ none⟩]

/-- The world with these objects. -/
def noteWorld : World (Memory.Body Session.Code) :=
  { (World.empty : World (Memory.Body Session.Code)) with
    heap := ⟨(noteObjects.map some).toArray⟩
    permanent := 27
    modules := attrsOf [("app", ⟨16⟩)]
    provider := State.new.run (fun _ => false) State.chatRun
    bridge :=
      { BridgeState.unbuilt with
        generation := 1
        observed := true
        initialized := true
        registry := (Table.empty : Table Ref StructType).insert ⟨17⟩ noteType } }

/-- The host without functions. -/
def plainHost : Host (Memory.Body Session.Code) := host stuck fun _ _ => Action.never

/-- A function that deletes what a participant contains and gives a text. -/
def clearing : Session.Code → List Ref → MemoryAction Session.Code Ref
  | .give proxy, _ => do
    (Bridge.cleanup plainHost proxy).mapError fun _ => HostError.type "not cleaned up"
    Action.alloc (.str "gone")
  | _, _ => return Builtin.none.ref

/-- The host with this function. -/
def clearingHost : Host (Memory.Body Session.Code) := host (host stuck clearing) clearing

theorem truthful_noteWorld : noteWorld.Truthful where
  wellFormed := by
    have hreach : Provider.Reachable (fun _ => false)
        (State.new.run (fun _ => false) State.chatRun) := State.reachable_run (.new _) State.chatRun
    exact State.wellFormed_of_reachable hreach
  kinded := by
    have hcapsules : ∀ node ∈ noteObjects, ∀ capsule ∈ ObjectBody.capsule? node.body,
        capsule.kind = .participant ∧ capsule.handle = ⟨1⟩ ∨
          capsule.kind = .writer ∧ capsule.handle = ⟨5⟩ := by decide
    have hprofiles : noteWorld.provider.lastId = 6 ∧
        noteWorld.provider.profile ⟨1⟩ = some ⟨⟨1⟩, none, .participant 7⟩ ∧
        noteWorld.provider.profile ⟨5⟩ = some ⟨⟨1⟩, some ⟨3⟩, .writer ⟨2⟩ .writerDefault⟩ := by
      decide +kernel
    obtain ⟨hlast, hparticipant, hwriter⟩ := hprofiles
    intro r capsule hbody
    obtain ⟨node, hnode, hcapsule⟩ := Option.map_eq_some_iff.mp hbody
    have hmem : capsule ∈ ObjectBody.capsule? node.body := by
      rw [hcapsule]
      rfl
    rcases hcapsules node (Heap.mem_of_get? hnode) capsule hmem with ⟨hkind, he⟩ | ⟨hkind, he⟩
    · rw [hkind, he]
      refine ⟨by rw [hlast]; decide, fun hp => ?_⟩
      rw [← Option.some.inj (hparticipant.symm.trans hp)]
      rfl
    · rw [hkind, he]
      refine ⟨by rw [hlast]; decide, fun hp => ?_⟩
      rw [← Option.some.inj (hwriter.symm.trans hp)]
      rfl

theorem obeyed_clearing : Rules.honest.Obeyed (host stuck clearing) clearing := by
  have hsteady := honest_steady (C := Session.Code)
  have hplain : World.Steady Body.IsPlain AnyName
      fun w w' : World (Memory.Body Session.Code) => w.Truthful → Rules.honest.Run w w' :=
    hsteady.mono fun _ hplain => hplain.isNoCapsule
  have hnone : Rules.honest.Obeyed (stuck : Host (Memory.Body Session.Code)) fun _ _ => Action.never :=
    .stuck fun w _ _ _ => Within.never w
  refine .host (.stuck fun w code args _ => ?_) hplain fun _ _ => trivial
  unfold clearing
  split
  · rename_i proxy _
    have htext : (Body.str "gone" : Memory.Body Session.Code).IsPlain := trivial
    have hcleanup : (Bridge.cleanup plainHost proxy).WithinAt
        (fun w w' => w.Truthful → Rules.honest.Run w w') w := fun hends _ =>
      Rules.Run.ofCall hnone (show Rules.honest.Fits plainHost w (.cleanup proxy) from trivial) hends
    exact .bind hsteady hcleanup.mapError fun _ w₁ _ => Within.alloc hplain htext w₁
  · exact Within.pure hsteady _ w

/-- The operation that a call asks for, and the state in which the provider is asked. -/
def Call.asks (call : Call) (h : Host (Body C)) (w : World (Body C)) : Option (Operation × State) :=
  (call.prepare? h).bind fun prepare =>
    match prepare.apply w with
    | (.ok question, w₁) => some (question.operation, w₁.provider)
    | _ => none

/-- The write of the note asks when its writer is gone. -/
theorem noteWrite_asks : ∃ prepare question w₁,
    (Call.write Cdr.coding ⟨23⟩ ⟨26⟩).prepare? clearingHost = some prepare ∧
      prepare.apply noteWorld = (.ok question, w₁) ∧
      question.operation = .write ⟨5⟩ [0, 1, 0, 0, 5, 0, 0, 0, 103, 111, 110, 101, 0] ∧
      ¬w₁.provider.Grounded question.operation := by
  have hasks : ((Call.write Cdr.coding ⟨23⟩ ⟨26⟩).asks clearingHost noteWorld).map
      (fun asked => (asked.1, asked.2.isAlive ⟨5⟩)) =
      some (.write ⟨5⟩ [0, 1, 0, 0, 5, 0, 0, 0, 103, 111, 110, 101, 0], false) := by
    decide +kernel
  obtain ⟨⟨operation, s⟩, hasked, hgone⟩ := Option.map_eq_some_iff.mp hasks
  obtain ⟨prepare, hprepare, happly⟩ := Option.bind_eq_some_iff.mp hasked
  split at happly
  · rename_i question w₁ hok
    cases happly
    obtain ⟨hoperation, hdead⟩ : question.operation = .write ⟨5⟩ _ ∧ w₁.provider.isAlive ⟨5⟩ = false :=
      Prod.mk.inj hgone
    refine ⟨prepare, question, w₁, hprepare, hok, hoperation, fun hgrounded => ?_⟩
    rw [hoperation] at hgrounded
    obtain ⟨record, hrecord, -⟩ := hgrounded _ (List.mem_singleton.mpr rfl)
    rw [State.isAlive, Table.contains, hrecord] at hdead
    exact absurd hdead (by simp)
  · exact absurd happly (by simp)

/-- The provider refuses to write to the writer that has gone. -/
theorem hands_over_found_gone : ∃ prepare question w₁ code,
    (Call.write Cdr.coding ⟨23⟩ ⟨26⟩).prepare? clearingHost = some prepare ∧
      prepare.apply noteWorld = (.ok question, w₁) ∧
      noteWorld.provider.Grounded question.operation ∧
      w₁.provider.perform (fun _ => false) question.operation = (.failed code, w₁.provider) := by
  obtain ⟨prepare, question, w₁, hprepare, hok, -, hgone⟩ := noteWrite_asks
  obtain ⟨-, hasked⟩ := hands_over_found truthful_noteWorld (.host (.refl noteWorld)) obeyed_clearing
    hprepare
  obtain ⟨hfound, -, -, hgrounded | hrefused⟩ := hasked question w₁ hok
  · exact absurd hgrounded hgone
  · obtain ⟨code, hcode⟩ := hrefused fun _ => false
    exact ⟨prepare, question, w₁, code, hprepare, hok, hfound, hcode⟩

/-- A write hands over the handle of a writer that was there when it was looked up and is gone when
the provider is asked. -/
theorem hands_over_gone_writer : noteWorld.Truthful ∧
    Rules.honest.Obeyed (host stuck clearing) clearing ∧
    ∃ prepare question w₁, (Call.write Cdr.coding ⟨23⟩ ⟨26⟩).prepare? clearingHost = some prepare ∧
      prepare.apply noteWorld = (.ok question, w₁) ∧ ¬w₁.provider.Grounded question.operation := by
  obtain ⟨prepare, question, w₁, hprepare, hok, -, hgone⟩ := noteWrite_asks
  exact ⟨truthful_noteWorld, obeyed_clearing, prepare, question, w₁, hprepare, hok, hgone⟩

end Bridge

end DdsBridge
