import DdsBridge.Proofs.Bridge.Operations

/-!
# Runs of the bridge

A host runs its own code and calls the bridge, a call of the bridge runs host code in its course, and
that code can call the bridge again. What the host may do by itself, and with which arguments it may
call, depends on the property that is shown of its runs: these are the rules of a run.

* **`Bridge.Call`** — the operations of the bridge with their arguments;
  **`Bridge.Call.within_of_settled`** bounds those that neither create nor register.
* **`Rules`** — what the host may do.
* **`Rules.Run`** — runs of calls and host code, nested in each other as they like.
* **`Rules.Run.within`** — what the steps of runs stay within, the runs do.
* **`Rules.run_of_calls`** — one call after another.
-/

namespace DdsBridge

open Memory
open DdsBridge.Action (Within WithinAt)

/-- A call of the bridge. -/
inductive Bridge.Call where
  | init (isFile : String → Bool) (options : InitOptions)
  | registerTopicType (s : StructType)
  | createParticipant (proxy : Ref) (domain : DomainId)
  | createTopic (proxy participant : Ref) (name typeName : String)
  | createPublisher (proxy participant : Ref)
  | createSubscriber (proxy participant : Ref)
  | createWriter (proxy publisher topic : Ref) (qos : Option Ref)
  | createReader (proxy subscriber topic : Ref) (qos : Option Ref)
  | registerType (participant cls : Ref)
  | typeName (cls : Ref)
  | cleanup (proxy : Ref)
  | write (coding : SampleCoding) (writer sample : Ref)
  | take (coding : SampleCoding) (reader : Ref)
  | waitFor (proxy : Ref) (mask : StatusMask) (limit : Duration)
  | setCallback (reader callback : Ref)
  | clearCallback (reader : Ref)
  | dispatch (wait : Bool)

/-- What a call does, whatever it answers. -/
def Bridge.Call.act {B : Type} [ObjectBody B] (h : Host B) : Call → BridgeAction B Unit
  | .init isFile options => Bridge.init isFile options
  | .registerTopicType s => do let _ ← Registry.registerTopicType h s
  | .createParticipant proxy domain => Bridge.createParticipant h proxy domain
  | .createTopic proxy participant name type => Bridge.createTopic h proxy participant name type
  | .createPublisher proxy participant => Bridge.createPublisher h proxy participant
  | .createSubscriber proxy participant => Bridge.createSubscriber h proxy participant
  | .createWriter proxy publisher topic qos => Bridge.createWriter h proxy publisher topic qos
  | .createReader proxy subscriber topic qos => Bridge.createReader h proxy subscriber topic qos
  | .registerType participant cls => Bridge.registerType h participant cls
  | .typeName cls => do let _ ← Bridge.typeName h cls
  | .cleanup proxy => Bridge.cleanup h proxy
  | .write coding writer sample => Bridge.write h coding writer sample
  | .take coding reader => do let _ ← Bridge.take h coding reader
  | .waitFor proxy mask limit => Bridge.waitFor h proxy mask limit
  | .setCallback reader callback => Bridge.setCallback h reader callback
  | .clearCallback reader => Bridge.clearCallback h reader
  | .dispatch wait => do let _ ← Bridge.dispatch h wait

/-- The proxy on which a call creates an entity. -/
def Bridge.Call.target? : Call → Option Ref
  | .createParticipant proxy _ | .createTopic proxy _ _ _ | .createPublisher proxy _
  | .createSubscriber proxy _ | .createWriter proxy _ _ _ | .createReader proxy _ _ _ => some proxy
  | _ => none

/-- A call that neither creates an entity nor registers a topic type stays within every relation
within which the host and the provider stay. Of the relation nothing is asked in worlds in which a
registered type has a field under a watched name. -/
theorem Bridge.Call.within_of_settled {B : Type} [ObjectBody B] {Plain : B → Prop}
    {Free : String → Prop} {R : World B → World B → Prop} {h : Host B} (hR : World.Steady Plain Free R)
    (hh : h.Acts Free R) (hL : World.Turning R) (hlisted : Free Bridge.registeredTypesAttr)
    (hwild : ∀ w w' : World B, ¬w.TypesFree Free → R w w') {call : Call}
    (htarget : call.target? = none) (hregisters : ∀ s, call ≠ .registerTopicType s) :
    (call.act h).Within R := by
  cases call with
  | init isFile options => exact Bridge.init_within hR hL isFile options
  | registerTopicType s => exact absurd rfl (hregisters s)
  | registerType participant cls => exact Bridge.registerType_within hR hh hL hlisted participant cls
  | typeName cls => exact .bind hR (Bridge.typeName_within hR hh cls) fun _ => .pure hR ()
  | cleanup proxy => exact Bridge.cleanup_within hR hh hL proxy
  | write coding writer sample => exact Bridge.write_within hR hh hL coding writer sample
  | take coding reader =>
      exact .bind hR (Bridge.take_within hR hh hL hwild coding reader) fun _ => .pure hR ()
  | waitFor proxy mask limit => exact Bridge.waitFor_within hR hh hL proxy mask limit
  | setCallback reader callback => exact Bridge.setCallback_within hR hh hL reader callback
  | clearCallback reader => exact Bridge.clearCallback_within hR hh hL reader
  | dispatch wait => exact .bind hR (Bridge.dispatch_within hR hh hL.noted wait) fun _ => .pure hR ()
  | _ => cases htarget

/-- The rules of a run: the bodies of objects that the host makes and the attributes that it assigns by
itself, the calls that it makes, and the worlds in which host code that a call runs has to keep to
the rules. -/
structure Rules (C : Type) where
  Plain : Body C → Prop
  Free : String → Prop
  Fits : Host (Body C) → World (Body C) → Bridge.Call → Prop
  Agrees : World (Body C) → Prop

namespace Rules

variable {C : Type} [HostCode C]

/-- A run of the bridge and of host code. The host changes objects, objects go, other clients act on the
provider, and the host calls the bridge. Host code that a call runs in its course does what a run
does, and it need do so only if it starts in a world that agrees with the rules: elsewhere it may do
anything, so what is shown of runs shows that there is no elsewhere. -/
inductive Run (rules : Rules C) : World (Body C) → World (Body C) → Prop where
  | host {w w' : World (Body C)} (h : w.Hushed rules.Plain rules.Free w') : Run rules w w'
  | discard (w : World (Body C)) (r : Ref) : Run rules w (w.discard r)
  | provider (w : World (Body C)) (isFile : String → Bool) (operation : Provider.Operation) :
    Run rules w (w.advance (w.provider.perform isFile operation).2)
  | call {w : World (Body C)} {inner : Host (Body C)} {invoke : C → List Ref → MemoryAction C Ref}
    (hcall : ∀ callable args,
      (inner.call callable args).Within fun w w' => rules.Agrees w → Run rules w w')
    (hstr : ∀ obj, (inner.strOf obj).Within fun w w' => rules.Agrees w → Run rules w w')
    (hset : ∀ obj {name} value, rules.Free name →
      (inner.setAttr obj name value).Within fun w w' => rules.Agrees w → Run rules w w')
    (hinvoke : ∀ w code args, HasCode w code →
      (invoke code args).WithinAt (fun w w' => rules.Agrees w → Run rules w w') w)
    {call : Bridge.Call} (hfits : rules.Fits (host inner invoke) w call)
    (hends : ((call.act (host inner invoke)).apply w).1 ≠ .error .endless) :
    Run rules w ((call.act (host inner invoke)).apply w).2
  | trans {w w₁ w₂ : World (Body C)} : Run rules w w₁ → Run rules w₁ w₂ → Run rules w w₂

/-- The host that nested operations go to and the code keep to the rules. -/
abbrev Obeyed (rules : Rules C) (inner : Host (Body C))
    (invoke : C → List Ref → MemoryAction C Ref) : Prop :=
  Nested rules.Free (fun w w' => rules.Agrees w → rules.Run w w') inner invoke

variable {rules : Rules C} {R : World (Body C) → World (Body C) → Prop} {w w' : World (Body C)}
variable {inner : Host (Body C)} {invoke : C → List Ref → MemoryAction C Ref}

/-- A relation to which the steps of runs belong: what the host does, what the provider does, and
the calls, if the host code in their course belongs to it. -/
structure Allows (rules : Rules C) (R : World (Body C) → World (Body C) → Prop) : Prop where
  steady : World.Steady rules.Plain rules.Free R
  noted : World.Noted R
  discard : ∀ w r, R w (w.discard r)
  provider : ∀ (w : World (Body C)) isFile operation,
    R w (w.advance (w.provider.perform isFile operation).2)
  agrees : ∀ {w w'}, (rules.Agrees w → R w w') → R w w'
  call : ∀ {inner invoke w call}, Nested rules.Free R inner invoke →
    rules.Fits (host inner invoke) w call → (Bridge.Call.act (host inner invoke) call).WithinAt R w

/-- To such a relation every run belongs. -/
theorem Run.within (hR : rules.Allows R) (h : rules.Run w w') : R w w' := by
  induction h with
  | host h => exact hR.steady.hushed hR.noted h
  | discard w r => exact hR.discard w r
  | provider w isFile operation => exact hR.provider w isFile operation
  | call _ _ _ _ hfits hends hcall hstr hset hinvoke =>
      refine hR.call ⟨?_, ?_, ?_, ?_⟩ hfits hends
      · exact fun callable args w hends => hR.agrees (hcall callable args w hends)
      · exact fun obj w hends => hR.agrees (hstr obj w hends)
      · exact fun obj _ value hname w hends => hR.agrees (hset obj value hname w hends)
      · exact fun w code args hcode hends => hR.agrees (hinvoke w code args hcode hends)
  | trans _ _ ih ih' => exact hR.steady.trans ih ih'

/-- A call is a run. -/
theorem Run.ofCall (h : rules.Obeyed inner invoke) {call : Bridge.Call}
    (hfits : rules.Fits (Memory.host inner invoke) w call)
    (hends : ((call.act (Memory.host inner invoke)).apply w).1 ≠ .error .endless) :
    rules.Run w ((call.act (Memory.host inner invoke)).apply w).2 :=
  .call h.call h.strOf h.setAttr h.invoke hfits hends

/-- What runs do from worlds that agree with the rules, if they lead to such worlds again. -/
theorem Run.steady (hagrees : ∀ {w w'}, rules.Agrees w → rules.Run w w' → rules.Agrees w') :
    World.Steady rules.Plain rules.Free fun w w' => rules.Agrees w → rules.Run w w' where
  trans h h' hw := .trans (h hw) (h' (hagrees hw (h hw)))
  quiet h _ := .host h.toHushed
  discard _ _ _ := .discard _ _

/-- One call after another is a run, if each keeps to the rules in every world that a run reaches. -/
theorem run_of_calls (h : rules.Obeyed inner invoke) {calls : List Bridge.Call}
    (hfits : ∀ call ∈ calls, ∀ w₁, rules.Run w w₁ → rules.Fits (Memory.host inner invoke) w₁ call)
    (hok : ((calls.forM (Bridge.Call.act (Memory.host inner invoke))).apply w).1.isOk = true) :
    rules.Run w ((calls.forM (Bridge.Call.act (Memory.host inner invoke))).apply w).2 := by
  induction calls generalizing w with
  | nil => exact .host (.refl _)
  | cons call rest ih =>
      obtain ⟨hcall, hrest⟩ := List.forall_mem_cons.mp hfits
      have hcons : (call :: rest).forM (Bridge.Call.act (Memory.host inner invoke)) =
          call.act (Memory.host inner invoke) >>= fun _ =>
            rest.forM (Bridge.Call.act (Memory.host inner invoke)) := rfl
      rw [hcons] at hok ⊢
      rcases hfirst : (call.act (Memory.host inner invoke)).apply w with ⟨stop | _, w₁⟩
      · rw [Action.apply_bind_of_error hfirst] at hok
        exact absurd hok (by simp [Except.isOk, Except.toBool])
      · rw [Action.apply_bind_of_ok hfirst] at hok ⊢
        have hends : ((call.act (Memory.host inner invoke)).apply w).1 ≠ .error .endless := by
          rw [hfirst]
          simp
        have hstep := Run.ofCall h (hcall w (.host (.refl _))) hends
        rw [hfirst] at hstep
        exact hstep.trans (ih (fun call hmem w₂ hrun => hrest call hmem w₂ (hstep.trans hrun)) hok)

end Rules

end DdsBridge
