import DdsBridge.Proofs.Bridge.Handover
import DdsBridge.Proofs.Bridge.Linking

/-!
# Topic types that proxies resolve to

A writer or reader proxy leads to an entity through its capsule and to a topic type through its
topic proxy. Both agree on the type name in every world that a run of the bridge reaches, if the
host creates on each topic proxy for one type name only. A topic proxy that is created again for
another type name keeps its class, and writers that are made on it then resolve to the wrong type.

A writer or reader proxy may be created again on a topic of any type. If a guard watches over it
meanwhile, the topic has to have the type name that the proxy serves for: a guard that takes the new
link, refuses the new capsule and does not take the old link back leaves the two apart.

* **`Naming.Fits`** — the calls that keep to a naming.
* **`Naming.Run`** — runs of such calls and of host code that leaves the bridge's attributes alone.
* **`Naming.Reaches`** — runs between which proxies take up the type names that they keep to.
* **`Naming.resolves_type_name`** — what a proxy resolves to in every world that is reached.
-/

namespace DdsBridge

open Memory
open DdsBridge.Action (Within WithinAt)
open Provider (State Side)

variable {C : Type} [HostCode C]

/-- A world in which no bridge was used: nothing is stored under the names of the bridge, no type is
registered, and nothing dangles in the provider. -/
structure World.Unused (w : World (Body C)) : Prop where
  wellFormed : w.provider.WellFormed
  registry : w.bridge.registry = .empty
  attrs : ∀ r name, ¬HostName name → w.attrAt r name = none

namespace Naming

/-- No guard watches over a proxy when a call asks the provider for the entity to be bound to it. -/
def Unwatched (h : Host (Body C)) (w : World (Body C)) (call : Bridge.Call) (proxy : Ref) : Prop :=
  ∀ prepare question w₁, call.prepare? h = some prepare → prepare.apply w = (.ok question, w₁) →
    guardOf w₁ proxy = none

/-- A call that keeps to the naming: it creates on a topic proxy for the type name that the proxy has,
and on a writer or reader proxy without a guard or for the type name that the proxy keeps to, and it
registers a class for the type name that the class has. -/
def Fits (n : Naming) (h : Host (Body C)) (w : World (Body C)) (call : Bridge.Call) : Prop :=
  match call with
  | .registerTopicType s => s.type.NamesFree HostName ∧ ∀ cls w',
      (classOf h .bridge s.head.name s.head.host).apply w = (.ok cls, w') →
        n.className cls = s.head.typeName
  | .createParticipant proxy _ | .createPublisher proxy _ | .createSubscriber proxy _ =>
    ¬n.above proxy
  | .createTopic proxy _ _ typeName =>
    ¬n.above proxy ∧ ∀ found, n.topicName proxy = some found → found = typeName
  | .createWriter proxy _ topic _ | .createReader proxy _ topic _ =>
    n.Links w proxy topic ∧ (n.endpoint proxy → n.keptName proxy = none → Unwatched h w call proxy)
  | _ => True

/-- The rules of a run that keeps to a naming: the host changes objects as it likes but for the
attributes that are left to the bridge, and its calls keep to the naming. -/
def rules (n : Naming) : Rules C where
  Plain _ := True
  Free := HostName
  Fits := n.Fits
  Agrees := n.Kept

/-- A run that keeps to a naming. -/
abbrev Run (n : Naming) : World (Body C) → World (Body C) → Prop := n.rules.Run

variable {n : Naming} {w w' w₀ : World (Body C)} {proxy : Ref} {typeName : String}
variable {inner : Host (Body C)} {invoke : C → List Ref → MemoryAction C Ref}

/-! ## What a run keeps -/

omit [HostCode C] in
theorem kept_of_unused (h : w.Unused) (n : Naming) : n.Kept w where
  wellFormed := h.wellFormed
  registered := fun hcls => by
    rw [h.registry] at hcls
    exact absurd hcls (by simp)
  above := fun _ hname => h.attrs _ _ hname
  topic := fun _ hname hattr => by
    rw [h.attrs _ _ hname] at hattr
    exact absurd hattr (by simp)
  endpoint := fun {r} _ =>
    ⟨(n.keptName r).getD "", fun kept hname => by rw [Option.mem_def.mp hname]; rfl,
      fun _ _ hname hattr => by
        rw [h.attrs _ _ hname] at hattr
        exact absurd hattr (by simp)⟩

omit [HostCode C] in
/-- A class is registered for a type of its type name. -/
theorem keeps_register {cls : Ref} {s : StructType} (hclass : n.className cls = s.head.typeName)
    (hfree : s.type.NamesFree HostName) : n.Keeps w
      { w with bridge := { w.bridge with registry := w.bridge.registry.insert cls s } } := by
  intro hkept
  have ho : w.Onward
      { w with bridge := { w.bridge with registry := w.bridge.registry.insert cls s } } :=
    ⟨Nat.le_refl _, fun _ hbody => hbody, .refl _⟩
  refine ⟨⟨hkept.wellFormed, fun {found t} ht => ?_, hkept.above, fun hnamed hname hattr =>
    (hkept.topic hnamed hname hattr).mono hkept.wellFormed ho, fun hr =>
      let ⟨typeName, hkeeps, hserves⟩ := hkept.endpoint hr
      ⟨typeName, hkeeps, hserves.mono hkept.wellFormed ho fun _ _ _ hattr => hattr⟩⟩, ho⟩
  have ht : (w.bridge.registry.insert cls s).get? found = some t := ht
  rw [Table.get?_insert] at ht
  split at ht
  · rename_i hsame
    cases ht
    exact ⟨by rw [hsame, hclass], hfree⟩
  · exact hkept.registered ht

/-- A call that keeps to the naming, if the host code that it runs does. -/
theorem Fits.keeps (hnested : Nested HostName n.Keeps inner invoke) {call : Bridge.Call}
    (h : n.Fits (host inner invoke) w call) :
    (call.act (host inner invoke)).WithinAt n.Keeps w := by
  have hh : (host inner invoke).Acts HostName n.Keeps :=
    hnested.acts (keeps_steady.mono fun _ _ => trivial) (by decide)
  have hcall := hnested.call
  -- an action that keeps to the naming from this world on does so now
  have hnow : ∀ {x : BridgeAction (Body C) Unit}, n.Keeping w x → x.WithinAt n.Keeps w :=
    fun hx hends hkept => hx w (.refl w) hkept hends hkept
  have hdone : Within n.Keeps (pure () : BridgeAction (Body C) Unit) := .pure keeps_steady ()
  have hwild : ∀ w w' : World (Body C), ¬w.TypesFree HostName → n.Keeps w w' :=
    fun w w' hnot hkept => absurd (fun _ _ hcls => (hkept.registered hcls).2) hnot
  cases call with
  | registerTopicType s =>
      obtain ⟨hfree, hclass⟩ := h
      have hregister : (Registry.registerTopicType (host inner invoke) s).WithinAt n.Keeps w := by
        refine .bind keeps_steady (Within.lift (classOf_within keeps_steady hh.toReads _ _ _) w)
          fun cls w₁ hrun => ?_
        exact .bind keeps_steady
          (.of_rel (keeps_register (hclass cls w₁ (Action.apply_lift_eq_ok hrun)) hfree))
          fun _ _ _ => Within.pure keeps_steady cls _
      exact .bind keeps_steady hregister fun _ w₁ _ => hdone w₁
  | createParticipant proxy domain => exact hnow (createParticipant_keeping hcall h domain)
  | createTopic proxy participant name typeName =>
      exact hnow (createTopic_keeping hh hcall h.1 participant name h.2)
  | createPublisher proxy participant => exact hnow (createPublisher_keeping hh hcall h participant)
  | createSubscriber proxy participant => exact hnow (createSubscriber_keeping hh hcall h participant)
  | createWriter proxy publisher topic qos =>
      exact fun hends hkept => createEndpoint_keeps hh hcall hkept h.1 (.inl rfl)
        (fun g t qos s => s.createWriter g t qos) (fun g t qos s => s.createWriter_makes g t qos)
        State.createWriter_typed publisher qos _
        (fun hproxy hfree _ _ _ w₁ hrun => h.2 hproxy hfree _ _ w₁ rfl hrun) hends hkept
  | createReader proxy subscriber topic qos =>
      exact fun hends hkept => createEndpoint_keeps hh hcall hkept h.1 (.inr rfl)
        (fun g t qos s => s.createReader g t qos) (fun g t qos s => s.createReader_makes g t qos)
        State.createReader_typed subscriber qos _
        (fun hproxy hfree _ _ _ w₁ hrun => h.2 hproxy hfree _ _ w₁ rfl hrun) hends hkept
  | _ =>
      exact Bridge.Call.within_of_settled keeps_steady hh keeps_turning (by decide) hwild rfl
        (fun _ => by simp) w

/-- What runs keep is what their steps keep. -/
theorem rules_allow : n.rules.Allows (n.Keeps : World (Body C) → World (Body C) → Prop) where
  steady := keeps_steady
  noted := keeps_turning.noted
  discard := keeps_discard
  provider w isFile operation := keeps_advance (State.perform_goes isFile operation w.provider)
  agrees h hkept := h hkept hkept
  call := fun hnested hfits => Fits.keeps hnested hfits

/-- Every run keeps to its naming. -/
theorem Run.keeps (h : n.Run w w') : n.Keeps w w' := Rules.Run.within rules_allow h

/-! ## Proxies that keep to a type name for some time -/

/-- A proxy may take up a type name to keep to if it is the one of the topic proxy that it is linked to,
or if nothing is stored on the proxy yet. -/
def MayKeep (n : Naming) (w : World (Body C)) (r : Ref) (typeName : String) : Prop :=
  (∃ topic, w.attrAt r Registry.topicAttr = some topic ∧ n.topicName topic = some typeName) ∨
    ∀ name, ¬HostName name → w.attrAt r name = none

/-- The worlds that runs reach with a naming. Between two runs writer and reader proxies give up the
type names that they keep to, and take up others. -/
inductive Reaches (w₀ : World (Body C)) : Naming → World (Body C) → Prop where
  | start (n : Naming) : Reaches w₀ n w₀
  | run {n : Naming} {w w' : World (Body C)} : Reaches w₀ n w → n.Run w w' → Reaches w₀ n w'
  | keep {n : Naming} {w : World (Body C)} {keptName : Ref → Option String} (h : Reaches w₀ n w)
    (hkeeps : ∀ r typeName, keptName r = some typeName →
      n.keptName r = some typeName ∨ n.MayKeep w r typeName) : Reaches w₀ { n with keptName } w

omit [HostCode C] in
/-- A proxy that takes up a type name serves for it already. -/
theorem Kept.keep (hkept : n.Kept w) {keptName : Ref → Option String}
    (hkeeps : ∀ r typeName, keptName r = some typeName →
      n.keptName r = some typeName ∨ n.MayKeep w r typeName) :
    Kept { n with keptName } w := by
  refine hkept.of_same rfl rfl rfl fun {r} hr => ?_
  obtain ⟨served, hserved, hserves⟩ := hkept.endpoint hr
  cases hname : keptName r with
  | none => exact ⟨served, fun kept h => absurd (hname.symm.trans h) (by simp), hserves⟩
  | some typeName =>
      refine ⟨typeName, fun kept h => (Option.some.inj (hname.symm.trans h)).symm, ?_⟩
      rcases hkeeps r typeName hname with hsame | ⟨topic, hlinked, hnamed⟩ | hbare
      · exact hserved typeName hsame ▸ hserves
      · obtain ⟨hservedName, -⟩ := (hserves _ _ not_hostName_topic hlinked).topic rfl
        exact Option.some.inj (hservedName.symm.trans hnamed) ▸ hserves
      · intro name value hwatched hattr
        rw [hbare name hwatched] at hattr
        exact absurd hattr (by simp)

/-- The worlds that are reached agree with their naming. -/
theorem Reaches.kept (hstart : w₀.Unused) (h : n.Reaches w₀ w) : n.Kept w := by
  induction h with
  | start n => exact kept_of_unused hstart n
  | run _ hrun ih => exact (hrun.keeps ih).1
  | keep _ hkeeps ih => exact ih.keep hkeeps

/-! ## What a proxy resolves to -/

omit [HostCode C] in
/-- The topic type of a proxy has the type name that the proxy serves for. -/
theorem Kept.typeName_of_typedBy (hkept : n.Kept w) (hproxy : n.Proxy w proxy)
    (hserves : n.Serves w proxy typeName) {s : StructType} (h : TypedBy w proxy s) :
    s.head.typeName = typeName := by
  obtain ⟨topic, cls, htopic, hcls, hs⟩ := h
  rw [hkept.lookup_eq hproxy not_hostName_topic] at htopic
  obtain ⟨htopicName, htopicProxy⟩ := (hserves _ _ not_hostName_topic htopic).topic rfl
  rw [hkept.lookup_eq htopicProxy not_hostName_type] at hcls
  rw [(hkept.registered hs).1]
  exact (hkept.topic htopicName not_hostName_type hcls).type rfl

omit [HostCode C] in
/-- In a world that agrees with the naming, what a writer or reader proxy resolves to has the type
name of the topic on which its live entity was created. -/
theorem Kept.resolves (hkept : n.Kept w) (hproxy : n.Proxy w proxy) (hendpoint : n.endpoint proxy)
    {side : Side} {e : Handle} {s : StructType} (hstands : StandsFor w proxy side.kind e)
    (htyped : TypedBy w proxy s) :
    ∃ site, w.provider.EndpointAt side e site ∧ site.typeName = s.head.typeName := by
  obtain ⟨typeName, -, hserves⟩ := hkept.endpoint hendpoint
  have hentity := hkept.typed_of_serves hproxy hserves (by cases side <;> decide) hstands
  obtain ⟨_, _, _, halive⟩ := hstands
  obtain ⟨site, hat, hname⟩ := hentity.endpointAt hkept.wellFormed halive
  exact ⟨site, hat, hname.trans (hkept.typeName_of_typedBy hproxy hserves htyped).symm⟩

/-- In every world that is reached from one in which no bridge was used, what a writer or reader proxy
resolves to has the type name of the topic on which its live entity was created. A write that
succeeds has therefore encoded a value of that type for the writer that it found, even if host code
ran while the value was read. -/
theorem resolves_type_name (hstart : w₀.Unused) (hreached : n.Reaches w₀ w)
    (hproxy : n.Proxy w proxy) (hendpoint : n.endpoint proxy) :
    (∀ (side : Side) (e : Handle) (s : StructType), StandsFor w proxy side.kind e →
      TypedBy w proxy s →
        ∃ site, w.provider.EndpointAt side e site ∧ site.typeName = s.head.typeName) ∧
    ∀ (inner : Host (Body C)) (invoke : C → List Ref → MemoryAction C Ref) (coding : SampleCoding)
      (sample : Ref) (w' : World (Body C)),
      (∀ callable args, (inner.call callable args).Within fun w w' => n.Kept w → n.Run w w') →
      (∀ obj, (inner.strOf obj).Within fun w w' => n.Kept w → n.Run w w') →
      (Bridge.write (host inner invoke) coding proxy sample).apply w = (.ok (), w') →
        ∃ e s v payload wr code, StandsFor w proxy .writer e ∧ TypedBy w proxy s ∧
          (Marshal.fromHost (host inner invoke) .bridge s.type sample).apply w = (.ok v, wr) ∧
          coding.encode s.type v = .ok payload ∧
          (Gate.run .write fun state => state.write e payload :
            BridgeAction (Body C) ReturnCode).apply wr = (.ok code, w') ∧ code.isOk = true ∧
          ∀ site, wr.provider.EndpointAt .writer e site → site.typeName = s.head.typeName := by
  have hkept := hreached.kept hstart
  constructor
  · exact fun side e s hstands htyped => hkept.resolves hproxy hendpoint hstands htyped
  · intro inner invoke coding sample w' hcall hstr hwrite
    obtain ⟨e, s, v, wr, payload, code, hstands, htyped, hread, hpayload, hgate, hcode⟩ :=
      Bridge.write_eq_ok hwrite
    refine ⟨e, s, v, payload, wr, code, hstands, htyped, hread, hpayload, hgate, hcode, ?_⟩
    intro site hat
    -- the conversion runs host code, which keeps to the naming, and so does the writer
    have hreads : (host inner invoke).Reads n.Keeps :=
      host_reads (keeps_steady.mono fun _ _ => trivial)
        (fun callable args w hends hkept => (hcall callable args w hends hkept).keeps hkept)
        (fun obj w hends hkept => (hstr obj w hends hkept).keeps hkept)
    have hconverted := Marshal.fromHost_within keeps_steady hreads .bridge s.type sample w
    obtain ⟨-, ho⟩ := hkept.after hconverted hread
    obtain ⟨typeName, -, hserves⟩ := hkept.endpoint hendpoint
    have hentity :=
      (hkept.typed_of_serves hproxy hserves (.inl rfl) hstands).mono hkept.wellFormed ho.provider
    exact (hentity.only (.endpoint hat rfl)).trans
      (hkept.typeName_of_typedBy hproxy hserves htyped).symm

/-! ## Proxies that are created again -/

/-- A structure without fields. -/
def blankType : StructType where
  head := ⟨"Blank", "Blank", ⟨"app", ["Blank"]⟩⟩
  fields := .nil

/-- The built-in objects; a module with two classes, and a third class for writers; proxies for a
participant, two topics, a publisher and a writer; a function. -/
def proxyObjects : List (Node (Memory.Body Session.Code)) :=
  Builtin.all.map (fun b => ⟨.empty, b.body⟩) ++
    [⟨Bridge.attrsOf [("Point", ⟨17⟩), ("Blank", ⟨18⟩)], .module "app"⟩,
      ⟨.empty, .cls ⟨"app.Point", [Builtin.object.ref], [Builtin.object.ref], none⟩⟩,
      ⟨.empty, .cls ⟨"app.Blank", [Builtin.object.ref], [Builtin.object.ref], none⟩⟩,
      ⟨.empty, .cls ⟨"app.Writer", [Builtin.object.ref], [Builtin.object.ref], none⟩⟩,
      ⟨.empty, .instance Builtin.object.ref none⟩,
      ⟨.empty, .instance Builtin.object.ref none⟩,
      ⟨.empty, .instance Builtin.object.ref none⟩,
      ⟨.empty, .instance Builtin.object.ref none⟩,
      ⟨.empty, .instance ⟨19⟩ none⟩,
      ⟨.empty, .function (.give ⟨22⟩)⟩]

/-- The world with these objects. -/
def proxyWorld : World (Memory.Body Session.Code) :=
  { (World.empty : World (Memory.Body Session.Code)) with
    heap := ⟨(proxyObjects.map some).toArray⟩
    permanent := 26
    modules := Bridge.attrsOf [("app", ⟨16⟩)] }

/-- A function that fails unless it is given a certain value to assign. -/
def onlyValue : Session.Code → List Ref → MemoryAction Session.Code Ref
  | .give accepted, [_, _, value] =>
    if value = accepted then return Builtin.none.ref else Action.raise (.type "refused")
  | _, _ => return Builtin.none.ref

/-- The host with this function. -/
def onlyHost : Host (Memory.Body Session.Code) := host (host stuck onlyValue) onlyValue

theorem unused_proxyWorld : proxyWorld.Unused where
  wellFormed := Provider.State.wellFormed_new _
  registry := rfl
  attrs := by
    have hnames : ∀ node ∈ proxyObjects, ∀ name ∈ node.attrs.keys, HostName name := by decide
    intro r name hname
    rw [Option.eq_none_iff_forall_ne_some]
    intro value hvalue
    obtain ⟨node, hnode, hvalue⟩ := Option.bind_eq_some_iff.mp hvalue
    exact hname (hnames node (Heap.mem_of_get? hnode) name
      (List.mem_map_of_mem (Table.mem_entries_iff.mpr hvalue)))

theorem run_steady (n : Naming) :
    World.Steady (fun _ : Body C => True) HostName fun w w' => n.Kept w → n.Run w w' :=
  Rules.Run.steady fun hkept hrun => (Run.keeps hrun hkept).1

/-- This function stays within whatever the host stays within. -/
theorem nested_onlyValue {Plain : Memory.Body Session.Code → Prop} {Free : String → Prop}
    {R : World (Memory.Body Session.Code) → World (Memory.Body Session.Code) → Prop}
    (hR : World.Steady Plain Free R) (hplain : ∀ body, Body.IsPlain body → Plain body)
    (hown : ∀ name ∈ ownNames, Free name) : Nested Free R (host stuck onlyValue) onlyValue := by
  refine .host (.stuck fun w code args _ => ?_) (hR.mono hplain) hown
  unfold onlyValue
  split
  · split
    · exact Within.pure hR _ w
    · exact Within.raise hR _ w
  · exact Within.pure hR _ w

theorem obeyed_onlyHost (n : Naming) : n.rules.Obeyed (host stuck onlyValue) onlyValue := by
  have hown : ∀ name ∈ ownNames, HostName name := by decide
  exact nested_onlyValue (run_steady n) (fun _ _ => trivial) hown

/-- A naming of the objects of this world: the two classes have their type names, and if the proxies
are named, so have the two topic proxies, and there is a proxy for writers. -/
def pointNaming (named : Bool) : Naming where
  topicName r := if named then if r = ⟨21⟩ then some "Message" else if r = ⟨22⟩ then some "Blank"
    else none else none
  endpoint r := named = true ∧ r = ⟨24⟩
  keptName _ := none
  className r := if r = ⟨18⟩ then "Blank" else "Message"
  above r := r ∈ [Builtin.object.ref, (⟨19⟩ : Ref)]

/-- The world in which the point is registered. -/
def pointRegistered : World (Memory.Body Session.Code) :=
  (((Bridge.Call.registerTopicType Bridge.pointType).act onlyHost).apply proxyWorld).2

/-- The world in which both types are registered. -/
def bothRegistered : World (Memory.Body Session.Code) :=
  (((Bridge.Call.registerTopicType blankType).act onlyHost).apply pointRegistered).2

variable {named : Bool}

/-- Nothing inherits from a proxy. -/
theorem pointNaming_not_above {r : Ref} (h : r ∈ [(⟨20⟩ : Ref), ⟨21⟩, ⟨22⟩, ⟨23⟩, ⟨24⟩]) :
    ¬(pointNaming named).above r :=
  (by decide : ∀ r ∈ [(⟨20⟩ : Ref), ⟨21⟩, ⟨22⟩, ⟨23⟩, ⟨24⟩],
    r ∉ [Builtin.object.ref, (⟨19⟩ : Ref)]) r h

theorem run_bothRegistered (named : Bool) : (pointNaming named).Run proxyWorld bothRegistered := by
  have hobeyed := obeyed_onlyHost (pointNaming named)
  have hpoint : (pointNaming named).rules.Fits onlyHost proxyWorld
      (.registerTopicType Bridge.pointType) := by
    refine ⟨Bridge.pointType_namesFree (by decide) (by decide), fun cls w' hcls => ?_⟩
    have hfound : (.ok ⟨17⟩ : Except (Stop HostError) Ref) = .ok cls := congrArg Prod.fst hcls
    cases hfound
    rfl
  have hblank : (pointNaming named).rules.Fits onlyHost pointRegistered
      (.registerTopicType blankType) := by
    refine ⟨trivial, fun cls w' hcls => ?_⟩
    have hfound : (.ok ⟨18⟩ : Except (Stop HostError) Ref) = .ok cls := congrArg Prod.fst hcls
    cases hfound
    rfl
  refine .trans (.ofCall hobeyed hpoint ?_) (.ofCall hobeyed hblank ?_)
  · exact fun h => absurd (show (.ok () : Except (Stop Error) Unit) = .error .endless from h) (by simp)
  · exact fun h => absurd (show (.ok () : Except (Stop Error) Unit) = .error .endless from h) (by simp)

/-- The topic proxies and the writer proxy serve as proxies only. -/
theorem proxy_bothRegistered {r : Ref} (h : r = ⟨21⟩ ∨ r = ⟨22⟩ ∨ r = ⟨24⟩) :
    (pointNaming named).Proxy bothRegistered r := by
  have hbody : ∃ cls, body? proxyWorld r = some (.instance cls none) ∧ cls.id < proxyWorld.heap.size ∧
      ∀ c ∈ lineage proxyWorld cls, c ∈ [Builtin.object.ref, (⟨19⟩ : Ref)] := by
    rcases h with rfl | rfl | rfl
    · exact ⟨Builtin.object.ref, rfl, by decide, by decide⟩
    · exact ⟨Builtin.object.ref, rfl, by decide, by decide⟩
    · exact ⟨⟨19⟩, rfl, by decide, by decide⟩
  obtain ⟨cls, hbody, hlt, hlineage⟩ := hbody
  have hproxy : (pointNaming named).Proxy proxyWorld r := by
    refine ⟨World.lt_size_of_bodyAt hbody, pointNaming_not_above ?_, fun info hcls => ?_,
      fun {cls' value} hinstance => ?_⟩
    · rcases h with rfl | rfl | rfl <;> decide
    · rw [hbody] at hcls
      cases hcls
    · rw [hbody] at hinstance
      cases hinstance
      exact ⟨hlt, hlineage⟩
  exact hproxy.mono ((run_bothRegistered named).keeps (kept_of_unused unused_proxyWorld _)).2

/-- The live entity that a proxy stands for, and the type name that it resolves to. -/
def leadsTo (w : World (Body C)) (proxy : Ref) : Option ((EntityKind × Handle) × String) :=
  (lookup w proxy Proxies.capsuleAttr).bind fun wrapped =>
    (capsuleHandle w wrapped).bind fun held =>
      (lookup w proxy Registry.topicAttr).bind fun topic =>
        (lookup w topic Registry.typeAttr).bind fun cls =>
          (w.bridge.registry.get? cls).bind fun s =>
            if w.provider.isAlive held.2 then some (held, s.head.typeName) else none

omit [HostCode C] in
theorem of_leadsTo {kind : EntityKind} {e : Handle}
    (h : leadsTo w proxy = some ((kind, e), typeName)) :
    StandsFor w proxy kind e ∧ ∃ s, TypedBy w proxy s ∧ s.head.typeName = typeName := by
  obtain ⟨wrapped, hwrapped, h⟩ := Option.bind_eq_some_iff.mp h
  obtain ⟨held, hheld, h⟩ := Option.bind_eq_some_iff.mp h
  obtain ⟨topic, htopic, h⟩ := Option.bind_eq_some_iff.mp h
  obtain ⟨cls, hcls, h⟩ := Option.bind_eq_some_iff.mp h
  obtain ⟨s, hs, h⟩ := Option.bind_eq_some_iff.mp h
  split at h
  · rename_i halive
    cases h
    exact ⟨⟨wrapped, hwrapped, hheld, halive⟩, s, ⟨topic, cls, htopic, hcls, hs⟩, rfl⟩
  · exact absurd h (by simp)

/-- The calls that make topics with two proxies. -/
def topicCalls : List Bridge.Call :=
  [.init (fun _ => false) {}, .createParticipant ⟨20⟩ 7, .registerType ⟨20⟩ ⟨17⟩,
    .registerType ⟨20⟩ ⟨18⟩, .createPublisher ⟨23⟩ ⟨20⟩,
    .createTopic ⟨21⟩ ⟨20⟩ "points" "Message"]

/-- The topic is created again for points, and a second one is created for blanks. -/
def bothTopicCalls : List Bridge.Call :=
  topicCalls ++
    [.createTopic ⟨21⟩ ⟨20⟩ "more points" "Message", .createTopic ⟨22⟩ ⟨20⟩ "blanks" "Blank"]

/-- The world after these calls. -/
def bothTopicsWorld : World (Memory.Body Session.Code) :=
  ((bothTopicCalls.forM (Bridge.Call.act onlyHost)).apply bothRegistered).2

/-- The creation of a writer with the writer proxy. -/
def writerCall (topic : Ref) : Bridge.Call := .createWriter ⟨24⟩ ⟨23⟩ topic none

/-- The world with a writer for points. -/
def pointWriterWorld : World (Memory.Body Session.Code) :=
  (((writerCall ⟨21⟩).act onlyHost).apply bothTopicsWorld).2

/-- The world in which the writer proxy was created again for blanks. -/
def againWorld : World (Memory.Body Session.Code) :=
  (((writerCall ⟨22⟩).act onlyHost).apply pointWriterWorld).2

theorem fits_topicCalls (h : ∀ found, (pointNaming named).topicName ⟨21⟩ = some found →
    found = "Message") :
    ∀ call ∈ topicCalls, ∀ w, (pointNaming named).Fits onlyHost w call := by
  simp only [topicCalls, List.forall_mem_cons]
  exact ⟨fun _ => trivial, fun _ => pointNaming_not_above (by decide), fun _ => trivial,
    fun _ => trivial, fun _ => pointNaming_not_above (by decide),
    fun _ => ⟨pointNaming_not_above (by decide), h⟩, by simp⟩

theorem fits_bothTopicCalls :
    ∀ call ∈ bothTopicCalls, ∀ w, (pointNaming true).Fits onlyHost w call := by
  have hpoint : ∀ found, (pointNaming true).topicName ⟨21⟩ = some found → found = "Message" :=
    fun found hfound => (Option.some.inj (show some "Message" = some found from hfound)).symm
  have hblank : ∀ found, (pointNaming true).topicName ⟨22⟩ = some found → found = "Blank" :=
    fun found hfound => (Option.some.inj (show some "Blank" = some found from hfound)).symm
  refine List.forall_mem_append.mpr ⟨fits_topicCalls hpoint, ?_⟩
  simp only [List.forall_mem_cons]
  exact ⟨fun _ => ⟨pointNaming_not_above (by decide), hpoint⟩,
    fun _ => ⟨pointNaming_not_above (by decide), hblank⟩, by simp⟩

/-- A writer is created where no guard watches. -/
theorem fits_writerCall {w : World (Memory.Body Session.Code)} (ho : bothRegistered.Onward w)
    {topic : Ref} {typeName : String} (htopic : topic = ⟨21⟩ ∨ topic = ⟨22⟩)
    (hnamed : (pointNaming true).topicName topic = some typeName)
    (hguard : ∀ prepare, (writerCall topic).prepare? onlyHost = some prepare →
      guardOf (prepare.apply w).2 ⟨24⟩ = none) :
    (pointNaming true).Fits onlyHost w (writerCall topic) := by
  refine ⟨⟨pointNaming_not_above (by decide), fun _ => ⟨typeName, hnamed,
    (proxy_bothRegistered (.inr (.inr rfl))).mono ho,
    (proxy_bothRegistered (by rcases htopic with rfl | rfl <;> simp)).mono ho,
    fun _ h => absurd h (by simp [pointNaming])⟩⟩, fun _ _ prepare question w₁ hprepare hrun => ?_⟩
  have hnone := hguard prepare hprepare
  rwa [hrun] at hnone

/-- The writer that was created last is on a topic for blanks. -/
theorem resolves_type_name_again : ∃ site,
    againWorld.provider.EndpointAt .writer ⟨7⟩ site ∧ site.typeName = "Blank" := by
  have hfacts : ((bothTopicCalls.forM (Bridge.Call.act onlyHost)).apply bothRegistered).1.isOk = true ∧
      (((writerCall ⟨21⟩).act onlyHost).apply bothTopicsWorld).1.isOk = true ∧
      (((writerCall ⟨22⟩).act onlyHost).apply pointWriterWorld).1.isOk = true ∧
      leadsTo againWorld ⟨24⟩ = some ((.writer, ⟨7⟩), "Blank") := by
    decide +kernel
  obtain ⟨htopics, hfirst, hsecond, hleads⟩ := hfacts
  obtain ⟨hstands, s, htyped, hname⟩ := of_leadsTo hleads
  have hobeyed := obeyed_onlyHost (pointNaming true)
  have hends : ∀ {result : Except (Stop Error) Unit}, result.isOk = true →
      result ≠ .error .endless := fun h hends => by rw [hends] at h; cases h
  have hkept := kept_of_unused unused_proxyWorld (pointNaming true)
  have hafter : ∀ {w}, (pointNaming true).Run bothRegistered w → bothRegistered.Onward w :=
    fun h => (h.keeps ((run_bothRegistered true).keeps hkept).1).2
  -- up to the writers nothing depends on the world
  have hboth : (pointNaming true).Run bothRegistered bothTopicsWorld :=
    Rules.run_of_calls hobeyed (fun call hmem w _ => fits_bothTopicCalls call hmem w) htopics
  have hpoints : (pointNaming true).Run bothTopicsWorld pointWriterWorld := by
    refine .ofCall hobeyed (fits_writerCall (hafter hboth) (.inl rfl) rfl ?_) (hends hfirst)
    rintro prepare ⟨⟩
    decide +kernel
  have hblanks : (pointNaming true).Run pointWriterWorld againWorld := by
    refine .ofCall hobeyed (fits_writerCall (hafter (hboth.trans hpoints)) (.inr rfl) rfl ?_)
      (hends hsecond)
    rintro prepare ⟨⟩
    decide +kernel
  have hrun : (pointNaming true).Run bothRegistered againWorld :=
    (hboth.trans hpoints).trans hblanks
  have hproxy : (pointNaming true).Proxy againWorld ⟨24⟩ :=
    (proxy_bothRegistered (.inr (.inr rfl))).mono (hafter hrun)
  obtain ⟨site, hat, hsite⟩ := (resolves_type_name unused_proxyWorld
    (.run (.start _) ((run_bothRegistered true).trans hrun)) hproxy ⟨rfl, rfl⟩).1
      .writer ⟨7⟩ s hstands htyped
  exact ⟨site, hat, hsite.trans hname⟩

/-! ### Creation for another type -/

/-- No two registered classes share a type name. -/
def NamesApart (w : World (Body C)) : Prop :=
  (w.bridge.registry.values.map fun s => s.head.typeName).Nodup

instance (w : World (Body C)) : Decidable (NamesApart w) := inferInstanceAs (Decidable (List.Nodup _))

/-- The proxy of a live writer resolves to a type with another type name than that of the writer's
topic. -/
def Misled (w : World (Body C)) (proxy : Ref) : Prop :=
  ∃ e s site, StandsFor w proxy .writer e ∧ TypedBy w proxy s ∧
    w.provider.EndpointAt .writer e site ∧ site.typeName ≠ s.head.typeName

omit [HostCode C] in
theorem misled_of_leadsTo {w : World (Body C)} {proxy : Ref} {e : Handle} {typeName : String}
    (h : leadsTo w proxy = some ((.writer, e), typeName)) {site : Provider.Site}
    (hat : w.provider.EndpointAt .writer e site) (hne : site.typeName ≠ typeName) :
    Misled w proxy := by
  obtain ⟨hstands, s, htyped, hname⟩ := of_leadsTo h
  exact ⟨e, s, site, hstands, htyped, hat, hname.symm ▸ hne⟩

/-- The topic is created again for blanks before a writer is made on it. -/
def topicAgainCalls : List Bridge.Call :=
  topicCalls ++
    [.createTopic ⟨21⟩ ⟨20⟩ "blanks" "Blank", writerCall ⟨21⟩]

/-- The world after these calls. -/
def topicAgainWorld : World (Memory.Body Session.Code) :=
  ((topicAgainCalls.forM (Bridge.Call.act onlyHost)).apply bothRegistered).2

/-- A second topic is created for blanks, and a writer on the topic for points. -/
def writerOnceCalls : List Bridge.Call :=
  topicCalls ++
    [.createTopic ⟨22⟩ ⟨20⟩ "blanks" "Blank", writerCall ⟨21⟩]

/-- The world after these calls. -/
def writerOnceWorld : World (Memory.Body Session.Code) :=
  ((writerOnceCalls.forM (Bridge.Call.act onlyHost)).apply bothRegistered).2

/-- The class of the writer proxy gets a guard that lets the second topic pass and nothing else. -/
def guardedWorld : World (Memory.Body Session.Code) :=
  writerOnceWorld.storeAttr ⟨19⟩ "__setattr__" ⟨25⟩

/-- The writer is created again on the second topic: the proxy takes the link, refuses the capsule
and does not let the bridge restore the link. -/
def writerAgainWorld : World (Memory.Body Session.Code) :=
  (((writerCall ⟨22⟩).act onlyHost).apply guardedWorld).2

/-- Nothing is asked of proxies that the naming does not name. -/
theorem fits_unnamed_writer (w : World (Memory.Body Session.Code)) (topic : Ref) :
    (pointNaming false).Fits onlyHost w (writerCall topic) :=
  ⟨⟨pointNaming_not_above (by decide), fun h => absurd h.1 (by decide)⟩,
    fun h => absurd h.1 (by decide)⟩

/-- The calls that come before the second creation, or include it. -/
theorem fits_unnamed {topic : Ref} (htopic : topic ∈ [(⟨21⟩ : Ref), ⟨22⟩]) :
    ∀ call ∈ topicCalls ++ [.createTopic topic ⟨20⟩ "blanks" "Blank", writerCall ⟨21⟩], ∀ w,
      (pointNaming false).Fits onlyHost w call := by
  have hunnamed : ∀ {r found typeName}, (pointNaming false).topicName r = some found →
      found = typeName := fun hnamed => absurd hnamed (by simp [pointNaming])
  refine List.forall_mem_append.mpr ⟨fits_topicCalls fun _ => hunnamed, ?_⟩
  simp only [List.forall_mem_cons]
  refine ⟨fun _ => ⟨pointNaming_not_above ?_, fun _ => hunnamed⟩,
    fun w => fits_unnamed_writer w _, by simp⟩
  have hproxies : ∀ r ∈ [(⟨21⟩ : Ref), ⟨22⟩], r ∈ [(⟨20⟩ : Ref), ⟨21⟩, ⟨22⟩, ⟨23⟩, ⟨24⟩] := by
    decide
  exact hproxies topic htopic

/-- If a topic proxy is created again for another type name, the writer that is made on it resolves
to the type it had before. If a writer proxy is, its class can see to it that it gets the new topic
and keeps the old writer. In both runs the host stores none of the three attributes itself. -/
theorem created_again_misleads : proxyWorld.Unused ∧
    ((pointNaming false).Run proxyWorld topicAgainWorld ∧ NamesApart topicAgainWorld ∧
      Misled topicAgainWorld ⟨24⟩) ∧
    (pointNaming false).Run proxyWorld writerAgainWorld ∧ NamesApart writerAgainWorld ∧
      Misled writerAgainWorld ⟨24⟩ := by
  have hobeyed := obeyed_onlyHost (pointNaming false)
  have hstart := kept_of_unused unused_proxyWorld (pointNaming false)
  obtain ⟨hkept, -⟩ := (run_bothRegistered false).keeps hstart
  refine ⟨unused_proxyWorld, ?_, ?_⟩
  · have hfacts :
        ((topicAgainCalls.forM (Bridge.Call.act onlyHost)).apply bothRegistered).1.isOk = true ∧
        NamesApart topicAgainWorld ∧
        leadsTo topicAgainWorld ⟨24⟩ = some ((.writer, ⟨5⟩), "Message") ∧
        topicAgainWorld.provider.profile ⟨5⟩ =
          some ⟨⟨1⟩, some ⟨2⟩, .writer ⟨4⟩ .writerDefault⟩ ∧
        topicAgainWorld.provider.profile ⟨1⟩ = some ⟨⟨1⟩, none, .participant 7⟩ ∧
        topicAgainWorld.provider.profile ⟨2⟩ = some ⟨⟨1⟩, some ⟨1⟩, .publisher []⟩ ∧
        topicAgainWorld.provider.profile ⟨4⟩ =
          some ⟨⟨1⟩, some ⟨1⟩, .topic "blanks" "Blank"⟩ := by
      decide +kernel
    obtain ⟨hok, hapart, hleads, he, hp, hg, ht⟩ := hfacts
    have hagain : (pointNaming false).Run bothRegistered topicAgainWorld :=
      Rules.run_of_calls hobeyed (fun call hmem w _ => fits_unnamed (by decide) call hmem w) hok
    have hat : topicAgainWorld.provider.EndpointAt .writer ⟨5⟩
        ⟨7, "blanks", "Blank", [], .writerDefault⟩ := ⟨⟨1⟩, ⟨2⟩, ⟨4⟩, he, hp, hg, ht⟩
    exact ⟨(run_bothRegistered false).trans hagain, hapart,
      misled_of_leadsTo hleads hat (by decide)⟩
  · have hfacts :
        ((writerOnceCalls.forM (Bridge.Call.act onlyHost)).apply bothRegistered).1.isOk = true ∧
        NamesApart writerAgainWorld ∧
        leadsTo writerAgainWorld ⟨24⟩ = some ((.writer, ⟨5⟩), "Blank") ∧
        writerAgainWorld.provider.profile ⟨5⟩ =
          some ⟨⟨1⟩, some ⟨2⟩, .writer ⟨3⟩ .writerDefault⟩ ∧
        writerAgainWorld.provider.profile ⟨1⟩ = some ⟨⟨1⟩, none, .participant 7⟩ ∧
        writerAgainWorld.provider.profile ⟨2⟩ = some ⟨⟨1⟩, some ⟨1⟩, .publisher []⟩ ∧
        writerAgainWorld.provider.profile ⟨3⟩ =
          some ⟨⟨1⟩, some ⟨1⟩, .topic "points" "Message"⟩ ∧
        (((((writerCall ⟨22⟩).act onlyHost).attempt : Action _ Error _)).apply guardedWorld).1.isOk =
          true := by
      decide +kernel
    obtain ⟨hok, hapart, hleads, he, hp, hg, ht, hcomplete⟩ := hfacts
    have honce : (pointNaming false).Run bothRegistered writerOnceWorld :=
      Rules.run_of_calls hobeyed (fun call hmem w _ => fits_unnamed (by decide) call hmem w) hok
    have hguarded : (pointNaming false).Run writerOnceWorld guardedWorld :=
      (run_steady _).storeAttr writerOnceWorld ⟨19⟩ (by decide) ⟨25⟩ (honce.keeps hkept).1
    have hagain : (pointNaming false).Run guardedWorld writerAgainWorld :=
      .ofCall hobeyed (fits_unnamed_writer guardedWorld ⟨22⟩) (Action.ne_endless_of_attempt hcomplete)
    have hat : writerAgainWorld.provider.EndpointAt .writer ⟨5⟩
        ⟨7, "points", "Message", [], .writerDefault⟩ := ⟨⟨1⟩, ⟨2⟩, ⟨3⟩, he, hp, hg, ht⟩
    exact ⟨((run_bothRegistered false).trans honce).trans (hguarded.trans hagain), hapart,
      misled_of_leadsTo hleads hat (by decide)⟩

end Naming

end DdsBridge
