import DdsBridge.Proofs.Bridge.Operations
import DdsBridge.Proofs.Session.Orderly
import DdsBridge.Session.Run

/-!
# What the steps of a session stay within

A lawful relation that allows for orderly code bounds every orderly step, as long as the host that
the step is carried out with stays within it. The host of a session does at every level: the code
that it runs consists of orderly steps again.

* **`Operand.Orderly.eval_within`** — the objects that operands stand for.
* **`runCommand_within`**, **`runStep_within`** — commands and steps.
* **`invoke_within`**, **`hostAt_within`** — functions, and the host at every level.
-/

namespace DdsBridge.Session

open DdsBridge.Action (Within)

variable {R : SessionWorld → SessionWorld → Prop} {h : SessionHost} {isFile : String → Bool}

/-! ## Operands -/

section Operands

variable (hR : World.Steady Tame AnyName R)
include hR

theorem register_within (name : String) : Within R (register name : SessionAction Ref) := by
  refine .world fun w => ?_
  split
  · exact fun _ => hR.refl w
  · exact fun _ => hR.refl w

theorem evalAll_within {operands : List Operand} (heach : ∀ o ∈ operands, Within R (o.eval h)) :
    Within R (evalAll h operands) := by
  induction operands with
  | nil =>
      rw [evalAll]
      exact .pure hR []
  | cons operand rest ih =>
      obtain ⟨hfirst, hrest⟩ := List.forall_mem_cons.mp heach
      rw [evalAll]
      exact .bind hR hfirst fun _ => .bind hR (ih hrest) fun _ =>
        .pure hR _

theorem evalOptional_within {operand : Option Operand}
    (heach : ∀ o ∈ operand.toList, Within R (o.eval h)) : Within R (evalOptional h operand) := by
  cases operand with
  | none => exact .pure hR none
  | some operand =>
      exact .bind hR (heach operand List.mem_cons_self) fun _ => .pure hR _

theorem assignAll_within (hh : h.Acts AnyName R) (obj : Ref) {attrs : List (String × Operand)}
    (heach : ∀ attr ∈ attrs, Within R (attr.2.eval h)) : Within R (assignAll h obj attrs) := by
  induction attrs with
  | nil =>
      rw [assignAll]
      exact .pure hR ()
  | cons attr rest ih =>
      obtain ⟨hfirst, hrest⟩ := List.forall_mem_cons.mp heach
      rw [assignAll]
      exact .bind hR hfirst fun value =>
        .bind hR (.liftHost (hh.setAttr obj value trivial)) fun _ => ih hrest

mutual

/-- The object that an orderly operand stands for. -/
theorem Operand.Orderly.eval_within (hh : h.Acts AnyName R) : ∀ {o : Operand},
    o.Orderly → Within R (o.eval h)
  | _, .none => by
      rw [Operand.eval]
      exact .pure hR _
  | _, .bool b => by
      rw [Operand.eval]
      exact .pure hR _
  | _, .int n => by
      rw [Operand.eval]
      exact .keeping hR (.liftHost (hh.newInt n))
  | _, .float x => by
      rw [Operand.eval]
      exact .keeping hR (.liftHost (hh.newFloat x))
  | _, .text s => by
      rw [Operand.eval]
      exact .keeping hR (.liftHost (hh.newStr s))
  | _, .register name => by
      rw [Operand.eval]
      exact .keeping hR (register_within hR name)
  | _, .list hitems => by
      rw [Operand.eval]
      exact .bind hR (evalAll_within hR fun o ho => (hitems o ho).eval_within hh) fun items =>
        .keeping hR (.liftHost (hh.newList items))
  | _, .tuple hitems => by
      rw [Operand.eval]
      exact .bind hR (evalAll_within hR fun o ho => (hitems o ho).eval_within hh) fun items =>
        .keeping hR (.liftHost (hh.newTuple items))
  | _, .instance hcls hattrs => by
      rw [Operand.eval]
      exact .bind hR (hcls.eval_within hh) fun cls =>
        .bind hR (.keeping hR (.liftHost (hh.call cls []))) fun obj =>
          .bind hR
            (assignAll_within hR hh obj fun attr hattr => (hattrs attr hattr).eval_within hh)
            fun _ => .pure hR obj
  | _, .call hcallable hargs => by
      rw [Operand.eval]
      exact .bind hR (hcallable.eval_within hh) fun callable =>
        .bind hR (evalAll_within hR fun o ho => (hargs o ho).eval_within hh) fun args =>
          .keeping hR (.liftHost (hh.call callable args))
  | _, .function hspec => by
      rw [Operand.eval]
      refine fun w => .bind hR (hspec.eval_within hh w) fun code w₁ hrun => ?_
      have hcode : Tame (.function code) := ⟨hspec.code hrun, rfl⟩
      exact Within.keeping hR (.alloc hR hcode) w₁

/-- The function that an orderly notation stands for; its value is built now. -/
theorem FunctionSpec.Orderly.eval_within (hh : h.Acts AnyName R) : ∀ {spec : FunctionSpec},
    spec.Orderly → Within R (spec.eval h)
  | _, .give hvalue => by
      rw [FunctionSpec.eval]
      exact .bind hR (hvalue.eval_within hh) fun _ => .pure hR _
  | _, .fail error => by
      rw [FunctionSpec.eval]
      exact .pure hR _
  | _, .record name => by
      rw [FunctionSpec.eval]
      exact .pure hR _
  | _, .guard attr error => by
      rw [FunctionSpec.eval]
      exact .pure hR _
  | _, .argument index => by
      rw [FunctionSpec.eval]
      exact .pure hR _
  | _, .attribute name => by
      rw [FunctionSpec.eval]
      exact .pure hR _
  | _, .script _ => by
      rw [FunctionSpec.eval]
      exact .pure hR _

end

end Operands

/-! ## Commands on the host -/

section Host

variable (hR : World.Steady Tame AnyName R)
include hR

theorem yieldView_within (view : View) : Within R (yieldView view) := .pure hR _

theorem yieldObject_within (r : Ref) : Within R (yieldObject r) := .world fun w _ => hR.refl w

/-- What a look at an object yields. -/
theorem lookAt_within {α : Type} {x : Ref → HostAction SessionBody α} {view : α → View}
    {obj : Operand} (hobj : Within R (obj.eval h)) (hx : ∀ r, Within R (x r)) :
    Within R (do
      let obj ← obj.eval h
      yieldView (view (← x obj)) : SessionAction Yield) :=
  .bind hR hobj fun r => .bind hR (.liftHost (hx r)) fun _ =>
    yieldView_within hR _

theorem changeRegisters_within (f : Table String Ref → Table String Ref) :
    Within R (changeRegisters f) := by
  refine .change fun w => hR.trans (hR.quiet ?_) (hR.collect _)
  exact .beside rfl rfl rfl rfl rfl rfl rfl rfl rfl

variable (hh : h.Acts AnyName R)
include hh

theorem itemsOf_within {obj : Operand} (hobj : Within R (obj.eval h)) :
    Within R (itemsOf h obj) :=
  .bind hR hobj fun r => .liftHost (hh.listItems r)

/-- A class whose initializer is orderly. -/
theorem defineClass_within {module : Operand} {bases : List Operand} {init : Option FunctionSpec}
    (hmodule : Within R (module.eval h)) (hbases : ∀ o ∈ bases, Within R (o.eval h))
    (hinit : ∀ spec ∈ init.toList, spec.Orderly) (name : String) :
    Within R (defineClass h module name bases init) := by
  have hplain : World.Steady Memory.Body.IsPlain AnyName R := hR.mono fun _ => tame_of_isPlain
  have hdefine : ∀ module bases init, (∀ code, init = some code → code.Orderly) →
      Within R (do
        let cls ← (Memory.defineClass module name bases init : HostAction SessionBody Ref)
        yieldObject cls : SessionAction Yield) := by
    intro module bases init horderly
    refine .bind hR (.liftHost ?_) fun cls => yieldObject_within hR cls
    refine Memory.defineClass_within hplain (fun _ _ => trivial) (fun info hinfo => ?_) module
      trivial bases
    have htame : Tame (.cls info) := ⟨fun code hcode => horderly code (hinfo.symm.trans hcode), rfl⟩
    exact .alloc hR htame
  refine .bind hR hmodule fun module => ?_
  refine .bind hR (evalAll_within hR hbases) fun bases => ?_
  cases init with
  | none => exact hdefine module bases none fun code hcode => absurd hcode (by simp)
  | some spec =>
      have hspec := hinit spec List.mem_cons_self
      dsimp only
      rw [bind_map_left]
      refine fun w => .bind hR (hspec.eval_within hR hh w) fun code w₁ hrun => ?_
      refine hdefine module bases (some code) (fun found hfound => ?_) w₁
      exact Option.some.inj hfound ▸ hspec.code hrun

theorem HostCommand.run_within {command : HostCommand Operand FunctionSpec}
    (heval : ∀ o ∈ command.operands, Within R (o.eval h))
    (hinit : ∀ spec ∈ (Command.host command : Command Operand FunctionSpec).functions,
      spec.Orderly) : Within R (command.run h) := by
  have hplain : World.Steady Memory.Body.IsPlain AnyName R := hR.mono fun _ => tame_of_isPlain
  cases command with
  | addModule name =>
      exact .bind hR (.liftHost (Memory.addModule_within hplain name)) fun r =>
        yieldObject_within hR r
  | defineClass module name bases init =>
      obtain ⟨hmodule, hbases⟩ := List.forall_mem_cons.mp heval
      exact defineClass_within hR hh hmodule hbases hinit name
  | defineException name bases =>
      exact .bind hR (evalAll_within hR heval) fun bases =>
        .bind hR (.liftHost (hh.newExceptionClass name bases)) fun r =>
          yieldObject_within hR r
  | use value =>
      exact .bind hR (heval value List.mem_cons_self) fun r =>
        yieldObject_within hR r
  | importModule name =>
      exact .bind hR (.liftHost (hh.importModule name)) fun r => yieldObject_within hR r
  | getAttr obj name =>
      exact .bind hR (heval obj List.mem_cons_self) fun obj =>
        .bind hR (.liftHost (hh.getAttr obj name)) fun r => yieldObject_within hR r
  | setAttr obj name value =>
      exact .bind hR (heval obj List.mem_cons_self) fun obj =>
        .bind hR (heval value (List.mem_cons_of_mem _ List.mem_cons_self)) fun value =>
          .bind hR (.liftHost (hh.setAttr obj value trivial)) fun _ => yieldView_within hR _
  | delAttr obj name =>
      exact .bind hR (heval obj List.mem_cons_self) fun obj =>
        .bind hR (.liftHost (hh.delAttr obj name)) fun _ => yieldView_within hR _
  | call callable args =>
      obtain ⟨hcallable, hargs⟩ := List.forall_mem_cons.mp heval
      exact .bind hR hcallable fun callable =>
        .bind hR (evalAll_within hR hargs) fun args =>
          .bind hR (.liftHost (hh.call callable args)) fun r => yieldObject_within hR r
  | typeOf obj =>
      exact .bind hR (heval obj List.mem_cons_self) fun obj =>
        .world fun w => yieldObject_within hR _ w
  | isInstance obj cls =>
      exact .bind hR (heval obj List.mem_cons_self) fun obj =>
        .bind hR (heval cls (List.mem_cons_of_mem _ List.mem_cons_self)) fun cls =>
          .bind hR (.liftHost (hh.isInstance obj cls)) fun _ => yieldView_within hR _
  | same a b =>
      exact .bind hR (heval a List.mem_cons_self) fun _ =>
        .bind hR (heval b (List.mem_cons_of_mem _ List.mem_cons_self)) fun _ =>
          yieldView_within hR _
  | flags obj =>
      exact .bind hR (heval obj List.mem_cons_self) fun _ =>
        yieldView_within hR _
  | asSigned obj => exact lookAt_within hR (heval obj List.mem_cons_self) hh.asSigned
  | asUnsigned obj =>
      exact lookAt_within hR (heval obj List.mem_cons_self) hh.asUnsigned
  | asFloat obj => exact lookAt_within hR (heval obj List.mem_cons_self) hh.asFloat
  | strOf obj => exact lookAt_within hR (heval obj List.mem_cons_self) hh.strOf
  | describe obj =>
      exact .bind hR (heval obj List.mem_cons_self) fun obj =>
        .bind hR (hh.describe hR obj) fun _ => yieldView_within hR _
  | inspect obj | dump obj | capsuleHandle obj =>
      exact .bind hR (heval obj List.mem_cons_self) fun _ =>
        .world fun w => yieldView_within hR _ w
  | items obj =>
      exact .bind hR (itemsOf_within hR hh (heval obj List.mem_cons_self))
        fun _ => .world fun w => yieldView_within hR _ w
  | item obj index =>
      refine .bind hR (itemsOf_within hR hh (heval obj List.mem_cons_self))
        fun items => ?_
      split
      · exact yieldObject_within hR _
      · exact .raise hR _
  | weaken obj name =>
      exact .bind hR (heval obj List.mem_cons_self) fun _ =>
        .bind hR (.change fun _ => hR.quiet (.beside rfl rfl rfl rfl rfl rfl rfl rfl rfl)) fun _ =>
          yieldView_within hR _
  | upgrade name =>
      refine .world fun w => ?_
      split
      · exact yieldObject_within hR _ w
      · exact yieldView_within hR _ w
  | drop | dropAll =>
      exact .world fun w => Within.bind hR (changeRegisters_within hR _)
        (fun _ => yieldView_within hR _) w
  | counters => exact .world fun w => yieldView_within hR _ w

end Host

/-! ## Conversions and capsules that belong to no bridge -/

section Conversions

variable (hR : World.Steady Tame AnyName R)
include hR

theorem currentStore_within : Within R currentStore := .world fun w _ => hR.refl w

theorem readQos_within (hh : h.Acts AnyName R) (default : EndpointQos) {qos : Option Operand}
    (heval : ∀ o ∈ qos.toList, Within R (o.eval h)) : Within R (readQos h default qos) :=
  .bind hR (evalOptional_within hR heval) fun qos =>
    .bind hR
      (.liftBridge (Policies.endpointQos_within hR hh.toReads default qos)) fun _ =>
        yieldView_within hR _

theorem TypeCommand.run_within (hh : h.Acts AnyName R) {command : TypeCommand Operand}
    (heval : ∀ o ∈ command.operands, Within R (o.eval h)) : Within R (command.run h) := by
  cases command with
  | fromHost type obj =>
      exact .bind hR (heval obj List.mem_cons_self) fun obj =>
        .bind hR (currentStore_within hR) fun store =>
          .bind hR
            (.liftBridge (Marshal.fromHost_within hR hh.toReads store type obj)) fun _ =>
              yieldView_within hR _
  | toHost type value =>
      exact .bind hR (currentStore_within hR) fun store =>
        .bind hR (.liftBridge (Marshal.toHost_within hR hh store type value type.namesFree_any))
          fun r => yieldObject_within hR r
  | structToHost type value existing =>
      refine .bind hR (evalOptional_within hR heval) fun existing => ?_
      refine .bind hR (currentStore_within hR) fun store => ?_
      refine .bind hR
        (.liftBridge (Marshal.structToHost_within hR hh store (IdlType.namesFree_any _) value existing))
          fun _ => ?_
      exact .world fun w _ => hR.refl w
  | structFromHost type obj =>
      exact .bind hR (heval obj List.mem_cons_self) fun obj =>
        .bind hR (currentStore_within hR) fun store =>
          .bind hR
            (.liftBridge (Marshal.fromHost_within hR hh.toReads store _ obj)) fun _ =>
              yieldView_within hR _
  | resolve name path =>
      exact .bind hR
        (.liftHost (classOf_within hR hh.toReads .session name path)) fun r =>
          yieldObject_within hR r
  | remembered => exact .world fun w => yieldView_within hR _ w
  | writerQos qos => exact readQos_within hR hh _ heval
  | readerQos qos => exact readQos_within hR hh _ heval

theorem CapsuleCommand.run_within (hh : h.Acts AnyName R) (hseals : h.Seals)
    {command : CapsuleCommand Operand} (heval : ∀ o ∈ command.operands, Within R (o.eval h)) :
    Within R (command.run h) := by
  have hloose : ∀ kind handle, Within R (h.newCapsule ⟨kind, handle, .loose⟩) := by
    intro kind handle
    rcases hseals ⟨kind, handle, .loose⟩ with hnever | ⟨body, hbody, halloc⟩
    · rw [hnever]
      exact .never
    · rw [halloc]
      exact .alloc hR (tame_of_loose hbody)
  cases command with
  | bind proxy kind handle =>
      exact .bind hR (heval proxy List.mem_cons_self) fun proxy =>
        .bind hR
          (.liftBridge (Proxies.bind_within hR hh trivial (hloose kind handle) proxy))
            fun _ => yieldView_within hR _
  | fetch proxy kind role =>
      exact .bind hR (heval proxy List.mem_cons_self) fun proxy =>
        .bind hR
          (.liftBridge (Proxies.heldAs_within hR hh.toReads proxy kind role)) fun _ =>
            yieldView_within hR _
  | fetchAny proxy role expected =>
      exact .bind hR (heval proxy List.mem_cons_self) fun proxy =>
        .bind hR
          (.liftBridge (Proxies.heldBy_within hR hh.toReads proxy role expected)) fun _ =>
            yieldView_within hR _
  | unbind proxy =>
      exact .bind hR (heval proxy List.mem_cons_self) fun proxy =>
        .bind hR (.liftBridge (Proxies.unbind_within hR hh.toReads proxy))
          fun _ => yieldView_within hR _

end Conversions

/-! ## Commands on the bridge -/

section Bridge

variable (hR : World.Steady Tame AnyName R)
include hR

theorem buildBridge_within (hL : World.Lawful R) (hh : h.Acts AnyName R)
    (moduleName : Option String) (maxSamples : Option Nat) (observed : Bool) :
    Within R (buildBridge h moduleName maxSamples observed) :=
  .bind hR (.liftBridge (Bridge.build_within hR hh hL _ _ observed)) fun _ =>
    yieldView_within hR _

theorem onProxy_within {proxy : Operand} {operation : Ref → OnBridge Unit}
    (hproxy : Within R (proxy.eval h)) (hoperation : ∀ r, Within R (operation r)) :
    Within R (onProxy h proxy operation) :=
  .bind hR hproxy fun r => .bind hR (.liftBridge (hoperation r)) fun _ =>
    yieldView_within hR _

theorem onProxies_within {a b : Operand} {operation : Ref → Ref → OnBridge Unit}
    (heval : ∀ o ∈ [a, b], Within R (o.eval h)) (hoperation : ∀ r s, Within R (operation r s)) :
    Within R (onProxies h a b operation) :=
  .bind hR (heval a List.mem_cons_self) fun r =>
    .bind hR (heval b (List.mem_cons_of_mem _ List.mem_cons_self)) fun s =>
      .bind hR (.liftBridge (hoperation r s)) fun _ => yieldView_within hR _

theorem createEndpoint_within {create : Ref → Ref → Ref → Option Ref → OnBridge Unit}
    {proxy parent topic : Operand} {qos : Option Operand}
    (heval : ∀ o ∈ proxy :: parent :: topic :: qos.toList, Within R (o.eval h))
    (hcreate : ∀ proxy parent topic qos, Within R (create proxy parent topic qos)) :
    Within R (createEndpoint h create proxy parent topic qos) := by
  obtain ⟨hproxy, hrest⟩ := List.forall_mem_cons.mp heval
  obtain ⟨hparent, hrest⟩ := List.forall_mem_cons.mp hrest
  obtain ⟨htopic, hqos⟩ := List.forall_mem_cons.mp hrest
  exact .bind hR hproxy fun proxy => .bind hR hparent fun parent =>
    .bind hR htopic fun topic => .bind hR (evalOptional_within hR hqos) fun qos =>
      .bind hR (.liftBridge (hcreate proxy parent topic qos)) fun _ =>
        yieldView_within hR _

variable (hh : h.Acts AnyName R)
include hh

theorem takeValue_within (hL : World.Lawful R) {reader : Operand}
    (hreader : Within R (reader.eval h)) (type : IdlType) : Within R (takeValue h type reader) := by
  refine .bind hR hreader fun reader => ?_
  have htake := Bridge.take_within hR hh hL.toTurning (fun w _ h => absurd w.typesFree_any h)
    Cdr.coding reader
  refine .bind hR (.keeping hR (.liftBridge htake)) fun sample => ?_
  split
  · exact yieldView_within hR _
  · exact .bind hR
      (.liftBridge (Marshal.fromHost_within hR hh.toReads .bridge type sample)) fun _ =>
        yieldView_within hR _

theorem waitWithin_within (hL : World.Lawful R) {entity : Operand} (hentity : Within R (entity.eval h))
    (mask : StatusMask) (sec : Int) (nanosec : Nat) :
    Within R (waitWithin h entity mask sec nanosec) :=
  .bind hR hentity fun entity =>
    .bind hR (.liftBridge (.ofExcept hR _)) fun limit =>
      .bind hR (.liftBridge (Bridge.waitFor_within hR hh hL.toTurning entity mask limit)) fun _ =>
        yieldView_within hR _

theorem BridgeCommand.runOn_within (hL : World.Lawful R) (hmakes : World.Makes R) (hseals : h.Seals)
    (bridge : BridgeState)
    {command : BridgeCommand Operand} (heval : ∀ o ∈ command.operands, Within R (o.eval h)) :
    Within R (command.runOn isFile h bridge) := by
  have hreads := hh.toReads
  have hturning := hL.toTurning
  have hany : ∀ name, AnyName name := fun _ => trivial
  cases command with
  | build moduleName maxSamples observed => exact buildBridge_within hR hL hh _ _ observed
  | init options =>
      exact .bind hR (.liftBridge (Bridge.init_within hR hturning isFile options)) fun _ =>
        yieldView_within hR _
  | isInitialized => exact yieldView_within hR _
  | version => exact yieldView_within hR _
  | registerTopicType type =>
      exact .bind hR
        (.liftBridge (Registry.registerTopicType_within hR hreads hL.register type)) fun r =>
          yieldObject_within hR r
  | registry names => exact .world fun w => yieldView_within hR _ w
  | lookup cls =>
      exact .bind hR (heval cls List.mem_cons_self) fun cls =>
        .bind hR (.liftBridge (Registry.lookupType_within hR hreads cls))
          fun _ => .world fun w => yieldView_within hR _ w
  | typeName cls =>
      exact .bind hR (heval cls List.mem_cons_self) fun cls =>
        .bind hR (.liftBridge (Bridge.typeName_within hR hh cls)) fun _ =>
          yieldView_within hR _
  | createParticipant proxy domain =>
      exact onProxy_within hR (heval proxy List.mem_cons_self) fun proxy =>
        Bridge.createParticipant_within hR hh hany hseals hmakes hturning proxy domain
  | createTopic proxy participant name topicType =>
      exact onProxies_within hR heval fun proxy participant =>
        Bridge.createTopic_within hR hh hany hseals hmakes hturning proxy participant name topicType
  | createPublisher proxy participant =>
      exact onProxies_within hR heval (Bridge.createPublisher_within hR hh hany hseals hmakes hturning)
  | createSubscriber proxy participant =>
      exact onProxies_within hR heval (Bridge.createSubscriber_within hR hh hany hseals hmakes hturning)
  | createWriter proxy publisher topic qos =>
      exact createEndpoint_within hR heval (Bridge.createWriter_within hR hh hany hseals hmakes hturning)
  | createReader proxy subscriber topic qos =>
      exact createEndpoint_within hR heval (Bridge.createReader_within hR hh hany hseals hmakes hturning)
  | registerType participant cls =>
      exact onProxies_within hR heval (Bridge.registerType_within hR hh hturning trivial)
  | cleanup proxy =>
      exact onProxy_within hR (heval proxy List.mem_cons_self) (Bridge.cleanup_within hR hh hturning)
  | write writer sample =>
      exact .bind hR (heval writer List.mem_cons_self) fun writer =>
        .bind hR (heval sample (List.mem_cons_of_mem _ List.mem_cons_self)) fun sample =>
          .bind hR (.liftBridge (Bridge.write_within hR hh hturning Cdr.coding writer sample)) fun _ =>
            yieldView_within hR _
  | take reader =>
      exact .bind hR (heval reader List.mem_cons_self) fun reader =>
        .bind hR (.liftBridge (Bridge.take_within hR hh hturning
          (fun w _ h => absurd w.typesFree_any h) Cdr.coding reader)) fun r => yieldObject_within hR r
  | takeAs reader type => exact takeValue_within hR hh hL (heval reader List.mem_cons_self) type
  | waitFor entity mask sec nanosec =>
      exact waitWithin_within hR hh hL (heval entity List.mem_cons_self) mask sec nanosec
  | setCallback reader callback =>
      exact onProxies_within hR heval (Bridge.setCallback_within hR hh hturning)
  | clearCallback reader =>
      exact onProxy_within hR (heval reader List.mem_cons_self) (Bridge.clearCallback_within hR hh hturning)
  | pending => exact yieldView_within hR _
  | dispatch timeout =>
      exact .bind hR (.liftBridge (Bridge.dispatch_within hR hh hL.noted _)) fun _ =>
        yieldView_within hR _
  | fetch proxy kind role =>
      exact .bind hR (heval proxy List.mem_cons_self) fun proxy =>
        .bind hR
          (.liftBridge (Proxies.resolveAs_within hR hreads proxy kind role)) fun _ =>
            yieldView_within hR _
  | fetchAny proxy role =>
      exact .bind hR (heval proxy List.mem_cons_self) fun proxy =>
        .bind hR (.liftBridge (Proxies.resolve_within hR hreads proxy role))
          fun _ => yieldView_within hR _
  | exception error =>
      exact .bind hR (.liftHost (newException_within hR hh trivial error)) fun r =>
        yieldObject_within hR r
  | exceptionClass key =>
      cases key with
      | kind kind => exact yieldObject_within hR _
      | error error => exact yieldObject_within hR _
      | code code =>
          unfold BridgeCommand.runOn
          dsimp only
          split
          · exact yieldObject_within hR _
          · exact yieldView_within hR _
  | exceptionClasses => exact .world fun w => yieldView_within hR _ w
  | exceptionBase => exact yieldObject_within hR _

omit hh in
theorem currentBridge_within : Within R currentBridge := by
  refine .world fun w => ?_
  dsimp only
  split
  · exact fun _ => hR.refl w
  · exact fun _ => hR.refl w

theorem BridgeCommand.run_within (hL : World.Lawful R) (hmakes : World.Makes R) (hseals : h.Seals)
    {command : BridgeCommand Operand} (heval : ∀ o ∈ command.operands, Within R (o.eval h)) :
    Within R (command.run isFile h) := by
  unfold BridgeCommand.run
  split
  · exact buildBridge_within hR hL hh _ _ _
  · exact .bind hR (currentBridge_within hR) fun bridge =>
      BridgeCommand.runOn_within hR hh hL hmakes hseals bridge heval

end Bridge

/-! ## Commands on the provider -/

section Provider

variable (hR : World.Steady Tame AnyName R)
include hR

theorem yieldReply_within (operation : Provider.Operation) (reply : Provider.Reply) :
    Within R (yieldReply operation reply) := by
  cases reply with
  | failed code =>
      unfold yieldReply
      dsimp only
      split
      · exact yieldView_within hR _
      · exact .raise hR _
  | done =>
      unfold yieldReply
      dsimp only
      split
      · exact yieldView_within hR _
      · exact yieldView_within hR _
  | entity handle => exact yieldView_within hR _
  | condition condition => exact yieldView_within hR _
  | waitSet waitSet => exact yieldView_within hR _
  | sample sample => exact yieldView_within hR _

theorem startWait_within (hL : World.Lawful R) (name : String) (waitSet : WaitSetId) (limit : Duration) :
    Within R (startWait name waitSet limit) := by
  refine .world fun w => ?_
  split
  · exact yieldView_within hR _ w
  · rename_i s hok
    split
    · exact yieldView_within hR _ w
    · split
      · exact yieldView_within hR _ w
      · refine Action.WithinAt.bind hR (fun _ => hL.turn ?_) fun _ w₁ _ =>
          yieldView_within hR _ w₁
        have hcalm := w.provider.enterWait_calm waitSet
        rw [hok] at hcalm
        exact ⟨⟨⟨rfl, rfl, rfl⟩, rfl, hcalm.toRests⟩, hcalm.goes, rfl⟩

theorem joinWait_within (name : String) : Within R (joinWait name) := by
  refine .world fun w => ?_
  split
  · refine Within.bind hR (.change fun _ => hR.quiet ?_)
      (fun _ => yieldView_within hR _) w
    exact .beside rfl rfl rfl rfl rfl rfl rfl rfl rfl
  · exact fun _ => hR.refl w

/-- A command on the provider that does not meddle with holds. -/
theorem ProviderCommand.run_within (hL : World.Lawful R) {command : ProviderCommand}
    (hmeddles : command.meddles = false) : Within R (command.run isFile) := by
  have hobserved : Within R (command.runObserved isFile) := by
    cases command with
    | perform operation =>
        obtain ⟨hcreates, hgives⟩ := Bool.or_eq_false_iff.mp hmeddles
        exact .bind hR (Gate.perform_within hR hL.toTurning hcreates hgives isFile) fun reply =>
          yieldReply_within hR operation reply
    | release kind handle => cases hmeddles
    | config => exact .world fun w => yieldView_within hR _ w
    | version => exact yieldView_within hR _
    | isAlive handle => exact .world fun w => yieldView_within hR _ w
    | entity handle => exact .world fun w => yieldView_within hR _ w
    | wait waitSet limit =>
        exact .bind hR (Gate.wait_within hR hL.toTurning waitSet limit) fun code =>
          yieldView_within hR _
    | startWait name waitSet limit => exact startWait_within hR hL name waitSet limit
    | joinWait name => exact joinWait_within hR name
    | inject method codes =>
        exact .bind hR (.change fun _ => hR.quiet (.beside rfl rfl rfl rfl rfl rfl rfl rfl rfl))
          fun _ => yieldView_within hR _
  refine .world fun w => ?_
  split
  · exact hobserved w
  · exact fun _ => hR.refl w

end Provider

/-! ## Steps and functions -/

section Steps

variable (hR : World.Steady Tame AnyName R) (hL : World.Lawful R) (hmakes : World.Makes R)
  (hh : h.Acts AnyName R) (hseals : h.Seals)
include hR hL hmakes hh hseals

/-- A command that does not meddle with holds. -/
theorem runCommand_within {command : Command Operand FunctionSpec}
    (hmeddles : command.meddles = false) (heval : ∀ o ∈ command.operands, o.Orderly)
    (hinit : ∀ spec ∈ command.functions, spec.Orderly) :
    Within R (runCommand isFile h command) := by
  have hoperands : ∀ o ∈ command.operands, Within R (o.eval h) :=
    fun o ho => (heval o ho).eval_within hR hh
  cases command with
  | host command => exact HostCommand.run_within hR hh hoperands hinit
  | type command => exact TypeCommand.run_within hR hh hoperands
  | capsule command => exact CapsuleCommand.run_within hR hh hseals hoperands
  | «bridge» command => exact BridgeCommand.run_within hR hh hL hmakes hseals hoperands
  | provider command => exact ProviderCommand.run_within hR hL hmeddles

/-- An orderly step. -/
theorem runStep_within {step : SessionStep} (hstep : Step.Orderly step) :
    Within R (runStep isFile h step) := by
  cases hstep with
  | mk hmeddles heval hinit =>
      have hkeep : ∀ name object, Within R (keepYield name object) := by
        intro name object
        unfold keepYield
        split
        · exact .change fun _ => hR.quiet (.beside rfl rfl rfl rfl rfl rfl rfl rfl rfl)
        · exact .pure hR ()
      have hbody : Within R (do
          let yielded ← runCommand isFile h step.command
          keepYield step.register yielded.object
          return yielded.view : SessionAction View) :=
        .bind hR (runCommand_within hR hL hmakes hh hseals hmeddles heval hinit) fun _ =>
          .bind hR (hkeep _ _) fun _ => .pure hR _
      refine .framed hR (.bind hR (.attempt hbody) fun result => ?_)
      cases result with
      | ok view => exact .pure hR _
      | error outcome => exact .pure hR outcome

theorem runScript_within {steps : List SessionStep} (hsteps : ∀ step ∈ steps, Step.Orderly step)
    (args : List Ref) : Within R (runScript isFile h steps args) := by
  refine .bind hR (.forIn hR (fun _ _ _ => ?_) _) fun _ => ?_
  · exact .bind hR (.change fun _ => hR.quiet (.beside rfl rfl rfl rfl rfl rfl rfl rfl rfl)) fun _ =>
      .pure hR _
  refine .bind hR (.forIn hR (fun step hstep _ => ?_) _) fun _ => ?_
  · exact .bind hR (runStep_within hR hL hmakes hh hseals (hsteps step hstep)) fun _ =>
      .bind hR (.change fun _ => hR.quiet (.beside rfl rfl rfl rfl rfl rfl rfl rfl rfl)) fun _ =>
        .pure hR _
  refine .bind hR (.forIn hR (fun name _ _ => ?_) _) fun _ => .pure hR ()
  refine .bind hR (.change fun w => hR.trans (hR.quiet ?_) (hR.collect _)) fun _ =>
    .pure hR _
  exact .beside rfl rfl rfl rfl rfl rfl rfl rfl rfl

omit hL hmakes hh hseals in
theorem argument_within (args : List Ref) (index : Nat) : Within R (argument args index) := by
  unfold argument
  split
  · exact .pure hR _
  · exact .raise hR _

/-- Orderly code. -/
theorem invoke_within {code : Code} (hcode : code.Orderly) (args : List Ref) :
    Within R (invoke isFile h code args) := by
  cases code with
  | give value => exact .pure hR value
  | fail error => exact .raise hR error
  | record name =>
      refine .world fun w => ?_
      refine Within.bind hR (.change fun _ => hR.quiet ?_) (fun _ => .pure hR _) w
      exact .beside rfl rfl rfl rfl rfl rfl rfl rfl rfl
  | guard attr error =>
      refine .bind hR (argument_within hR args 1) fun name => ?_
      refine .bind hR (hh.strOf name) fun text => ?_
      exact .ite_bind hR (.raise hR error) fun _ => .pure hR _
  | argument index => exact argument_within hR args index
  | «attribute» name =>
      exact .bind hR (argument_within hR args 0) fun obj => hh.getAttr obj name
  | script steps =>
      exact .bind hR (runScript_within hR hL hmakes hh hseals hcode args) fun _ =>
        .pure hR _

end Steps

/-! ## The host at every level -/

omit isFile in
theorem stuck_seals : (Memory.stuck : SessionHost).Seals := fun _ => .inl rfl

theorem hostAt_seals (level : Nat) : (hostAt isFile level).Seals := by
  cases level with
  | zero => exact stuck_seals
  | succ level => exact fun capsule => .inr ⟨.capsule capsule, rfl, rfl⟩

/-- The host of a session stays within a relation that asks nothing of a world with code that is not
orderly. -/
theorem hostAt_within (hR : World.Steady Tame AnyName R) (hL : World.Lawful R) (hmakes : World.Makes R)
    (hwild : ∀ w w', ¬WorldOrderly w → R w w') (level : Nat) : (hostAt isFile level).Acts AnyName R := by
  have hplain : World.Steady Memory.Body.IsPlain AnyName R := hR.mono fun _ => tame_of_isPlain
  induction level with
  | zero => exact Memory.stuck_acts
  | succ level ih =>
      refine Memory.host_acts hplain (fun _ _ => trivial) ih.call ih.strOf ih.setAttr
        fun w code args hcode => ?_
      by_cases horderly : WorldOrderly w
      · refine invoke_within hR hL hmakes ih (hostAt_seals level) ?_ args w
        rcases hcode with ⟨r, hbody⟩ | ⟨r, info, hbody, hinit⟩
        · exact horderly r _ hbody
        · exact horderly r _ hbody code hinit
      · exact fun _ => hwild w _ horderly

end DdsBridge.Session
