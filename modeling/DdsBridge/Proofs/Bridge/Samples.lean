import DdsBridge.Bridge.Samples
import DdsBridge.Host.Memory.Prelude
import DdsBridge.Proofs.Bridge.Conversion
import DdsBridge.Proofs.Bridge.Course
import DdsBridge.Proofs.Bridge.Gate
import DdsBridge.Proofs.Bridge.Standing
import DdsBridge.Proofs.Idl.Cdr
import DdsBridge.Session.Command

/-!
# Samples from one proxy to another

A sample that is written through the writer of a proxy and taken through the reader of another one
of the same type is a new object that reads as what was written. A write that fails has touched
neither a queue nor a history.

* **`write_eq_ok`**, **`write_fails`** — the two ways in which a write ends.
* **`take_struct`** — a sample that waits as the oldest in the queue of a reader is taken.
* **`write_then_take`** — both together.
-/

namespace DdsBridge.Bridge

open Memory Provider

variable {C : Type} [HostCode C] {inner : Host (Body C)} {invoke : C → List Ref → MemoryAction C Ref}
variable {classes : String → Ref} {w w' : World (Body C)} {proxy sample : Ref} {s : StructType}
  {coding : SampleCoding}

/-! ## Writing -/

theorem check_eq_ok {B : Type} {operation : String} {code : ReturnCode} {w w' : World B}
    (h : (Gate.check operation code).apply w = (.ok (), w')) : w' = w ∧ code.isOk = true := by
  unfold Gate.check at h
  split at h
  · rename_i hcode
    cases h
    exact ⟨rfl, hcode⟩
  · exact absurd (congrArg Prod.fst h) (by simp)

theorem check_eq_error {B : Type} {operation : String} {code : ReturnCode} {stop : Stop Error}
    {w w' : World B} (h : (Gate.check operation code).apply w = (.error stop, w')) : w' = w := by
  unfold Gate.check at h
  split at h
  · exact absurd (congrArg Prod.fst h) (by simp)
  · cases h
    rfl

/-- A write that succeeds has found a writer and its type, has read a value from the sample and
coded it, and ends with a call of the provider. -/
theorem write_eq_ok (h : (write (host inner invoke) coding proxy sample).apply w = (.ok (), w')) :
    ∃ writer s v wr payload code, StandsFor w proxy .writer writer ∧ TypedBy w proxy s ∧
      (Marshal.fromHost (host inner invoke) .bridge s.type sample).apply w = (.ok v, wr) ∧
      coding.encode s.type v = .ok payload ∧
      (Gate.run .write fun state => state.write writer payload :
        BridgeAction (Body C) ReturnCode).apply wr = (.ok code, w') ∧ code.isOk = true := by
  obtain ⟨writer, w₁, hwriter, hrest⟩ := Action.apply_bind_eq_ok_iff.mp h
  obtain ⟨rfl, hstands⟩ := resolveAs_eq_ok_iff.mp hwriter
  obtain ⟨s, w₂, htype, hsample⟩ := Action.apply_bind_eq_ok_iff.mp hrest
  obtain ⟨rfl, htyped⟩ := topicTypeOf_eq_ok_iff.mp htype
  obtain ⟨v, wr, hread, hcoded⟩ := Action.apply_bind_eq_ok_iff.mp hsample
  obtain ⟨payload, w₃, hpayload, hgate⟩ := Action.apply_bind_eq_ok_iff.mp hcoded
  obtain ⟨hencode, rfl⟩ := Action.apply_ofExcept_eq_ok hpayload
  obtain ⟨code, w₄, hrun, hcheck⟩ := Action.apply_bind_eq_ok_iff.mp hgate
  obtain ⟨rfl, hcode⟩ := check_eq_ok hcheck
  refine ⟨writer, s, v, w₃, payload, code, hstands, htyped, hread, ?_, hrun, hcode⟩
  cases hfit : coding.encode s.type v with
  | error reason =>
      rw [hfit] at hencode
      cases hencode
  | ok found =>
      rw [hfit] at hencode
      cases hencode
      rfl

/-- The provider refuses a write to a writer that is not there, and never with the code of a
success. -/
theorem write_error_ne_ok {s : State} {writer : Handle} {payload : List UInt8} {code : ReturnCode}
    (h : (s.write writer payload).1 = .error code) : code ≠ .ok := by
  refine State.proceed_get_ne_ok h fun r hsent => ?_
  dsimp only at hsent
  split at hsent <;> cases hsent
  simp

omit [HostCode C] in
/-- Without a fault in store, a write that succeeds has offered the payload to the readers matched
with the writer. -/
theorem run_write_inbox {writer : Handle} {payload : List UInt8} {code : ReturnCode}
    (hrun : (Gate.run .write fun state => state.write writer payload :
      BridgeAction (Body C) ReturnCode).apply w = (.ok code, w')) (hcode : code.isOk = true)
    (hfault : Gate.takeFault .write w.faults = none) (hm : w.provider.Matching) (reader : Handle) :
    w'.provider.inbox reader =
      if reader ∈ w.provider.matchedWith writer then
        (w.provider.inbox reader).map fun b =>
          b.offer w.provider.maxSamples ⟨payload, .valid writer⟩
      else w.provider.inbox reader := by
  rw [Gate.run_apply, hfault] at hrun
  rcases hwrite : w.provider.write writer payload with ⟨other | _, s'⟩
  · simp only [hwrite] at hrun
    cases hrun
    exact absurd (of_decide_eq_true hcode) (write_error_ne_ok (congrArg Prod.fst hwrite))
  · simp only [hwrite] at hrun
    cases hrun
    obtain ⟨pending, events, ended, waits, hadvance⟩ := w.advance_eq s'
    have hsettled : (w.advance s').provider.inbox reader = s'.inbox reader := by
      rw [hadvance, State.inbox, State.inbox]
      exact congrArg (fun t => (t.get? reader).bind Record.inbox) (State.leaveAll_entities _ ended)
    rw [hsettled, State.write_inbox hm hwrite]

/-- Whatever a write does before it fails, it does not do to a queue or to a history: its course
consists of runs of host code and of stretches in which the provider idles. -/
theorem write_fails {error : Error}
    (h : (write (host inner invoke) coding proxy sample).apply w = (.error (.raised error), w')) :
    ∃ runs, World.Course inner runs w w' := by
  have hR : World.Steady Body.IsPlain AnyName fun w w' => ∃ runs, World.Course inner runs w w' :=
    World.steady_course inner
  have hh : (host inner invoke).Reads fun w w' => ∃ runs, World.Course inner runs w w' :=
    host_reads hR (fun callable args w _ => (World.HostRun.call w callable args).course)
      (fun obj w _ => (World.HostRun.text w obj).course)
  refine Action.FailsWithin.bind hR (Proxies.resolveAs_within hR hh proxy _ _) (fun writer => ?_)
    w error w' h
  refine .bind hR (Registry.topicTypeOf_within hR hh proxy) fun s => ?_
  refine .bind hR (Marshal.fromHost_within hR hh .bridge s.type sample) fun v => ?_
  refine .bind hR (.ofExcept hR _) fun payload => ?_
  -- The last step is the call: it fails with a fault, or because the provider refuses the payload.
  intro w error w' h
  rw [Action.apply_bind, Gate.run_apply] at h
  cases hfault : Gate.takeFault .write w.faults with
  | some found =>
      rw [hfault] at h
      rw [check_eq_error h]
      exact hR.quiet (.beside rfl rfl rfl rfl rfl rfl rfl rfl rfl)
  | none =>
      rw [hfault] at h
      rcases hwrite : w.provider.write writer payload with ⟨code | _, s'⟩
      · have hkept : s' = w.provider :=
          (congrArg Prod.snd hwrite).symm.trans
            (w.provider.write_keeps writer payload code (congrArg Prod.fst hwrite))
        simp only [hwrite, hkept] at h
        obtain ⟨pending, events, ended, waits, hadvance⟩ := w.advance_eq w.provider
        refine ⟨[], .done ?_⟩
        rw [check_eq_error h, hadvance]
        exact .settle ended (.refl _)
      · simp only [hwrite] at h
        exact absurd (congrArg Prod.fst h) (by simp [Gate.check, ReturnCode.isOk])

/-! ## Taking -/

omit [HostCode C] in
/-- The provider's next state touches no object and forgets no class. -/
theorem extends_advance (w : World (Body C)) (s : State) :
    w.Extends classes .bridge (w.advance s) := by
  obtain ⟨pending, events, ended, waits, hadvance⟩ := w.advance_eq s
  rw [hadvance]
  exact
    { size_le := Nat.le_refl _
      old := fun _ _ => rfl
      modules := rfl
      remembered := fun _ => .inl rfl
      mark := rfl
      permanent := rfl
      pinned := List.Subset.refl _
      anchors := List.Subset.refl _
      callbacks := rfl }

variable (inner) (invoke) in
/-- A sample of a structure that waits as the oldest in the queue of a reader becomes a new object
that reads as the value that was coded. -/
theorem take_struct (hcoding : coding.Faithful) {reader writer : Handle} {x : Reader}
    {payload : List UInt8} {rest : List Sample} {v : Value} (hwf : w.provider.WellFormed)
    (hstands : StandsFor w proxy .reader reader)
    (htyped : TypedBy w proxy s) (htype : s.type.Exact) (hcarries : s.type.Carries v)
    (hpayload : coding.encode s.type v = .ok payload) (hx : w.provider.reader? reader = some x)
    (hqueue : x.queue = ⟨payload, .valid writer⟩ :: rest)
    (hfault : Gate.takeFault .takeNextSample w.faults = none) (hi : Issued w)
    (hready : s.type.Ready classes .bridge w) :
    ∃ obj w', (take (host inner invoke) coding proxy).apply w = (.ok obj, w') ∧ w.heap.size ≤ obj.id ∧
      Memory.typeOf w' obj = classes s.head.name ∧
      Marshal.ReadsBack classes .bridge w' s.type obj v := by
  have hgate : (Gate.fetch .takeNextSample fun state => state.take reader :
      BridgeAction (Body C) (Except ReturnCode Sample)).apply w =
        (.ok (.ok ⟨payload, .valid writer⟩), w.advance (w.provider.take reader).2) := by
    rw [Gate.fetch_apply, hfault]
    dsimp only
    rw [State.take_fst hwf hx, hqueue]
  have hdecode : coding.decode s.type payload = .ok v :=
    hcoding.decode_encode htype (hcarries.admits htype) hpayload
  have hgrown : w.Extends classes .bridge (w.advance (w.provider.take reader).2) :=
    extends_advance w _
  obtain ⟨obj, w', hobj, hread, hnew, hcls⟩ := Marshal.toHost_struct inner invoke
    htype hcarries hready hi hgrown
  refine ⟨obj, w', ?_, Nat.le_trans hgrown.size_le hnew, hcls, hread⟩
  rw [take, Action.apply_bind_of_ok (resolveAs_eq_ok_iff.mpr ⟨rfl, hstands⟩),
    Action.apply_bind_of_ok (topicTypeOf_eq_ok_iff.mpr ⟨rfl, htyped⟩), takeSample,
    Action.apply_bind_of_ok hgate]
  dsimp only [SampleInfo.valid]
  rw [if_pos rfl, hdecode]
  exact hobj

/-! ## From one proxy to the other -/

/-- A write and what comes of it, whatever host code there is and whatever the coding of samples is,
if only what was coded is decoded as what it was.

If it succeeds on a proxy of a topic type, a value was read from the sample and coded, and, unless
a fault stood in for the provider, the payload was offered once to each reader matched with the
writer and to no other. Whenever later that sample is the oldest in the queue of a reader whose
proxy has the same type, and the host classes of the type are ready, a take through that proxy
gives a new instance of the type's class, which is not the sample and reads as that value.

If it fails, and the host code that ran in its course did no more to the provider
than give back holds on entities, then no queue of a reader and no history of a writer changed. -/
theorem write_then_take {coding : SampleCoding} (hcoding : coding.Faithful)
    (inner : Host (Body C)) (invoke : C → List Ref → MemoryAction C Ref) (w : World (Body C))
    (writerProxy sample : Ref) :
    (∀ s w₁, s.type.Exact → TypedBy w writerProxy s →
      (write (host inner invoke) coding writerProxy sample).apply w = (.ok (), w₁) →
      ∃ writer v wr payload, StandsFor w writerProxy .writer writer ∧
        (Marshal.fromHost (host inner invoke) .bridge s.type sample).apply w = (.ok v, wr) ∧
        coding.encode s.type v = .ok payload ∧
        (Gate.takeFault .write wr.faults = none → wr.provider.Matching →
          ∀ reader, w₁.provider.inbox reader =
            if reader ∈ wr.provider.matchedWith writer then
              (wr.provider.inbox reader).map fun b =>
                b.offer wr.provider.maxSamples ⟨payload, .valid writer⟩
            else wr.provider.inbox reader) ∧
        ∀ (inner' : Host (Body C)) (invoke' : C → List Ref → MemoryAction C Ref)
          (w₂ : World (Body C)) (readerProxy : Ref) (reader : Handle) (x : Reader)
          (rest : List Sample) (classes : String → Ref),
          StandsFor w₂ readerProxy .reader reader → TypedBy w₂ readerProxy s →
          w₂.provider.reader? reader = some x →
          x.queue = ⟨payload, .valid writer⟩ :: rest →
          Gate.takeFault .takeNextSample w₂.faults = none →
          w₂.provider.WellFormed → Issued w₂ → s.type.Ready classes .bridge w₂ →
          sample.id < w₂.heap.size →
          ∃ obj w₃, (take (host inner' invoke') coding readerProxy).apply w₂ = (.ok obj, w₃) ∧
            w₂.heap.size ≤ obj.id ∧ obj ≠ sample ∧ Memory.typeOf w₃ obj = classes s.head.name ∧
            (Marshal.fromHost (host inner' invoke') .bridge s.type obj).apply w₃ = (.ok v, w₃)) ∧
    (∀ error w₁,
      (write (host inner invoke) coding writerProxy sample).apply w =
        (.error (.raised error), w₁) →
      ∃ runs, World.Course inner runs w w₁ ∧
        (w.provider.WellFormed → (∀ run ∈ runs, run.1.provider.Idles run.2.provider) →
          ∀ handle, w₁.provider.inbox handle = w.provider.inbox handle ∧
            w₁.provider.history handle = w.provider.history handle)) := by
  constructor
  · intro s w₁ htype htyped hwrite
    obtain ⟨writer, s', v, wr, payload, code, hstands, htyped', hread, hpayload, hrun, hcode⟩ :=
      write_eq_ok hwrite
    cases htyped.unique htyped'
    have hcarries : s.type.Carries v := Marshal.fromHost_carries htype hread
    refine ⟨writer, v, wr, payload, hstands, hread, hpayload,
      fun hfault hm reader => run_write_inbox hrun hcode hfault hm reader, ?_⟩
    intro inner' invoke' w₂ readerProxy reader x rest classes hreader htyped₂ hx hqueue hfault hwf
      hi hready hsample
    obtain ⟨obj, w₃, htake, hnew, hcls, hreads⟩ := take_struct inner' invoke' hcoding hwf
      hreader htyped₂ htype hcarries hpayload hx hqueue hfault hi hready
    refine ⟨obj, w₃, htake, hnew, ?_, hcls, hreads inner' invoke' w₃ (.refl w₃)⟩
    rintro rfl
    omega
  · intro error w₁ hwrite
    obtain ⟨runs, hcourse⟩ := write_fails hwrite
    refine ⟨runs, hcourse, fun hwf hruns handle => ?_⟩
    have hidle := hcourse.idles hruns
    exact ⟨hidle.inbox hwf handle, hidle.history hwf handle⟩

/-! A point in a world with one class, one writer proxy and one reader proxy. -/

/-- A point with a coordinate and flags. -/
def pointType : StructType where
  head := ⟨"Point", "Message", ⟨"app", ["Point"]⟩⟩
  fields :=
    .cons ⟨"x", some "x"⟩ (.int .i32) (.cons ⟨"flags", some "flags"⟩ (.seq .bool) .nil)

/-- The fields of a point have free names if these two are. -/
theorem pointType_namesFree {Free : String → Prop} (hx : Free "x") (hflags : Free "flags") :
    pointType.type.NamesFree Free := by
  refine ⟨fun name hname => ?_, fun name hname => ?_, trivial⟩
  · cases hname
    exact ⟨hx, trivial⟩
  · cases hname
    exact ⟨hflags, trivial⟩

/-- Attributes by name. -/
def attrsOf (entries : List (String × Ref)) : Table String Ref :=
  entries.foldl (fun t entry => t.insert entry.1 entry.2) .empty

/-- The built-in objects, the module and the class, the topic proxy, the two proxies with their
capsules, and the sample with what it holds. -/
def pointObjects : List (Node (Memory.Body Session.Code)) :=
  Builtin.all.map (fun b => ⟨.empty, b.body⟩) ++
    [⟨attrsOf [("Point", ⟨17⟩)], .module "app"⟩,
      ⟨.empty, .cls ⟨"app.Point", [Builtin.object.ref], [Builtin.object.ref], none⟩⟩,
      ⟨attrsOf [("type", ⟨17⟩)], .instance Builtin.object.ref none⟩,
      ⟨.empty, .capsule ⟨.writer, ⟨5⟩, .bridge 1 true⟩⟩,
      ⟨attrsOf [("_cpp_object", ⟨19⟩), ("topic", ⟨18⟩)], .instance Builtin.object.ref none⟩,
      ⟨.empty, .capsule ⟨.reader, ⟨6⟩, .bridge 1 true⟩⟩,
      ⟨attrsOf [("_cpp_object", ⟨21⟩), ("topic", ⟨18⟩)], .instance Builtin.object.ref none⟩,
      ⟨.empty, .int 7⟩,
      ⟨.empty, .list [Builtin.true.ref]⟩,
      ⟨attrsOf [("x", ⟨23⟩), ("flags", ⟨24⟩)], .instance ⟨17⟩ none⟩]

/-- The world with these objects, over a provider with a writer and a reader that are matched. -/
def pointWorld : World (Memory.Body Session.Code) :=
  { (World.empty : World (Memory.Body Session.Code)) with
    heap := ⟨(pointObjects.map some).toArray⟩
    modules := attrsOf [("app", ⟨16⟩)]
    provider := State.new.run (fun _ => false) State.chatRun
    bridge :=
      { BridgeState.unbuilt with
        generation := 1
        registry := (Table.empty : Table Ref StructType).insert ⟨17⟩ pointType } }

/-- The host without functions. -/
def pointHost : Host (Memory.Body Session.Code) := host stuck fun _ _ => Action.never

/-- The world after the point was written. -/
def pointSent : World (Memory.Body Session.Code) :=
  ((write pointHost Cdr.coding ⟨20⟩ ⟨25⟩).apply pointWorld).2

/-- The point that is written is taken as another object with the same value. -/
theorem write_then_take_point :
    ∃ obj w₃, (take pointHost Cdr.coding ⟨22⟩).apply pointSent = (.ok obj, w₃) ∧ obj ≠ ⟨25⟩ ∧
      (Marshal.fromHost pointHost .bridge pointType.type obj).apply w₃ =
        (.ok (.record [.int 7, .seq [.bool true]]), w₃) := by
  have htyped : TypedBy pointWorld ⟨20⟩ pointType := ⟨⟨18⟩, ⟨17⟩, rfl, rfl, rfl⟩
  have htype : pointType.type.Exact := ⟨by decide, trivial, trivial, trivial⟩
  obtain ⟨writer, v, wr, payload, ⟨wrapped, hwrapped, hhandle, -⟩, hread, hpayload, -, htake⟩ :=
    (write_then_take Cdr.coding_faithful stuck (fun _ _ => Action.never) pointWorld ⟨20⟩ ⟨25⟩).1
      pointType pointSent htype htyped rfl
  have hv : v = .record [.int 7, .seq [.bool true]] :=
    Except.ok.inj (congrArg Prod.fst hread).symm
  subst hv
  have hbytes : payload = [0, 1, 0, 0, 7, 0, 0, 0, 1, 0, 0, 0, 1] :=
    Except.ok.inj hpayload.symm
  subst hbytes
  have hwriter : writer = ⟨5⟩ := by
    cases hwrapped
    cases hhandle
    rfl
  subst hwriter
  -- the provider's entities are those after a chat in which the point was written
  have hreach : Reachable (fun _ => false) (State.new.run (fun _ => false)
      (State.chatRun ++ [.write ⟨5⟩ [0, 1, 0, 0, 7, 0, 0, 0, 1, 0, 0, 0, 1]])) :=
    State.reachable_run (.new _) _
  have hwf : pointSent.provider.WellFormed :=
    (State.Goes.of_entities rfl (Nat.le_refl _) (State.wellFormed_of_reachable hreach)).1
  have hplain : PlainClass pointSent ⟨17⟩ := ⟨rfl, by decide, by decide, rfl, by decide⟩
  have hready : pointType.type.Ready (fun _ => ⟨17⟩) .bridge pointSent :=
    ⟨rfl, hplain, trivial, trivial, trivial⟩
  obtain ⟨obj, w₃, hobj, -, hne, -, hreads⟩ := htake stuck (fun _ _ => Action.never) pointSent ⟨22⟩
    ⟨6⟩ ⟨⟨2⟩, .readerDefault, [⟨5⟩], [⟨[0, 1, 0, 0, 7, 0, 0, 0, 1, 0, 0, 0, 1], .valid ⟨5⟩⟩], none⟩
    [] (fun _ => ⟨17⟩) ⟨⟨21⟩, rfl, rfl, by decide⟩ ⟨⟨18⟩, ⟨17⟩, rfl, rfl, rfl⟩ (by decide) rfl rfl
    hwf (issued_of_check (by decide)) hready (by decide)
  exact ⟨obj, w₃, hobj, hne, hreads⟩

end DdsBridge.Bridge
