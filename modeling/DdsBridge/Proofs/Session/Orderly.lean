import DdsBridge.Proofs.Bridge.Holds
import DdsBridge.Proofs.Host.Memory.Within
import DdsBridge.Session.Operand

/-!
# Orderly steps

A session can go past the bridge: it can have the provider create an entity that no proxy holds, or
tell it that a hold is given back although the capsule for it is there. An orderly step does no such
thing, and neither do the functions that it builds. In an orderly world neither does any function
that is there.

* **`Operand.Orderly`**, **`FunctionSpec.Orderly`**, **`Step.Orderly`** — the notation, mutually.
* **`Code.Orderly`**, **`World.Orderly`** — functions that are there.
-/

namespace DdsBridge.Session

/-! ## The parts of a command -/

section Parts

variable {O F : Type}

/-- The objects that a command on the host names. -/
def HostCommand.operands : HostCommand O F → List O
  | .defineClass module _ bases _ => module :: bases
  | .defineException _ bases => bases
  | .use value => [value]
  | .getAttr obj _ | .delAttr obj _ => [obj]
  | .setAttr obj _ value => [obj, value]
  | .call callable args => callable :: args
  | .isInstance a b | .same a b => [a, b]
  | .typeOf obj | .flags obj | .asSigned obj | .asUnsigned obj | .asFloat obj | .strOf obj
  | .describe obj | .inspect obj | .dump obj | .items obj | .item obj _ | .capsuleHandle obj
  | .weaken obj _ => [obj]
  | .addModule _ | .importModule _ | .upgrade _ | .drop _ | .dropAll | .counters => []

/-- The objects that a conversion names. -/
def TypeCommand.operands : TypeCommand O → List O
  | .fromHost _ obj | .structFromHost _ obj => [obj]
  | .structToHost _ _ existing => existing.toList
  | .writerQos qos | .readerQos qos => qos.toList
  | .toHost .. | .resolve .. | .remembered => []

/-- The objects that a command on a capsule names. -/
def CapsuleCommand.operands : CapsuleCommand O → List O
  | .bind proxy .. | .fetch proxy .. | .fetchAny proxy .. | .unbind proxy => [proxy]

/-- The objects that a command on the bridge names. -/
def BridgeCommand.operands : BridgeCommand O → List O
  | .lookup cls | .typeName cls => [cls]
  | .createParticipant proxy _ | .cleanup proxy | .fetch proxy .. | .fetchAny proxy _ => [proxy]
  | .createTopic proxy participant .. | .createPublisher proxy participant
  | .createSubscriber proxy participant => [proxy, participant]
  | .createWriter proxy parent topic qos | .createReader proxy parent topic qos =>
    proxy :: parent :: topic :: qos.toList
  | .registerType participant cls => [participant, cls]
  | .write writer sample => [writer, sample]
  | .take reader | .takeAs reader _ | .clearCallback reader => [reader]
  | .waitFor entity .. => [entity]
  | .setCallback reader callback => [reader, callback]
  | .build .. | .init _ | .isInitialized | .version | .registerTopicType _ | .registry _ | .pending
  | .dispatch _ | .exception _ | .exceptionClass _ | .exceptionClasses | .exceptionBase => []

/-- The objects that a command names. -/
def Command.operands : Command O F → List O
  | .host command => command.operands
  | .type command => command.operands
  | .capsule command => command.operands
  | .bridge command => command.operands
  | .provider _ => []

/-- The functions that a command names. -/
def Command.functions : Command O F → List F
  | .host (.defineClass _ _ _ init) => init.toList
  | _ => []

/-- Whether a command creates an entity past the bridge or gives a hold back past its capsule. -/
def ProviderCommand.meddles : ProviderCommand → Bool
  | .perform operation => operation.creates || operation.givesBack
  | .release .. => true
  | _ => false

/-- Whether a command creates an entity past the bridge or gives a hold back past its capsule. -/
def Command.meddles : Command O F → Bool
  | .provider command => command.meddles
  | _ => false

end Parts

/-! ## The notation -/

mutual

/-- Objects that are built without a function that goes past the bridge. -/
inductive Operand.Orderly : Operand → Prop where
  | none : Operand.Orderly .none
  | bool (b : Bool) : Operand.Orderly (.bool b)
  | int (n : Int) : Operand.Orderly (.int n)
  | float (x : Number.Binary64) : Operand.Orderly (.float x)
  | text (s : String) : Operand.Orderly (.text s)
  | register (name : String) : Operand.Orderly (.register name)
  | list {items : List Operand} :
    (∀ item ∈ items, Operand.Orderly item) → Operand.Orderly (.list items)
  | tuple {items : List Operand} :
    (∀ item ∈ items, Operand.Orderly item) → Operand.Orderly (.tuple items)
  | instance {cls : Operand} {attrs : List (String × Operand)} :
    Operand.Orderly cls → (∀ attr ∈ attrs, Operand.Orderly attr.2) →
      Operand.Orderly (.instance cls attrs)
  | call {callable : Operand} {args : List Operand} :
    Operand.Orderly callable → (∀ arg ∈ args, Operand.Orderly arg) →
      Operand.Orderly (.call callable args)
  | function {spec : FunctionSpec} : FunctionSpec.Orderly spec → Operand.Orderly (.function spec)

/-- Functions that do not go past the bridge. -/
inductive FunctionSpec.Orderly : FunctionSpec → Prop where
  | give {value : Operand} : Operand.Orderly value → FunctionSpec.Orderly (.give value)
  | fail (error : HostError) : FunctionSpec.Orderly (.fail error)
  | record (name : String) : FunctionSpec.Orderly (.record name)
  | guard (attr : String) (error : HostError) : FunctionSpec.Orderly (.guard attr error)
  | argument (index : Nat) : FunctionSpec.Orderly (.argument index)
  | attribute (name : String) : FunctionSpec.Orderly (.attribute name)
  | script {steps : List SessionStep} :
    (∀ step ∈ steps, Step.Orderly step) → FunctionSpec.Orderly (.script steps)

/-- Steps that do not go past the bridge. -/
inductive Step.Orderly : SessionStep → Prop where
  | mk {step : SessionStep} : step.command.meddles = false →
    (∀ operand ∈ step.command.operands, Operand.Orderly operand) →
      (∀ spec ∈ step.command.functions, FunctionSpec.Orderly spec) → Step.Orderly step

end

/-! ## Functions that are there -/

/-- Code that does not go past the bridge. -/
def Code.Orderly : Code → Prop
  | .script steps => ∀ step ∈ steps, Step.Orderly step
  | _ => True

/-- The code that a body carries does not go past the bridge. -/
def BodyOrderly : SessionBody → Prop
  | .function code => code.Orderly
  | .cls info => ∀ code, info.init = some code → code.Orderly
  | _ => True

/-- No code that is there goes past the bridge. -/
def WorldOrderly (w : SessionWorld) : Prop := ∀ r body, w.bodyAt r = some body → BodyOrderly body

/-- Bodies that come in orderly steps, but for the capsules of new entities. -/
def Tame (body : SessionBody) : Prop := BodyOrderly body ∧ World.NoHold body

theorem tame_of_isPlain {body : SessionBody} (h : body.IsPlain) : Tame body := by
  cases body with
  | cls info => exact ⟨fun code hcode => absurd (h.symm.trans hcode) (by simp), rfl⟩
  | «function» code => exact h.elim
  | capsule hold => exact h.elim
  | _ => exact ⟨trivial, rfl⟩

/-- The capsule of no bridge. -/
theorem tame_of_loose {body : SessionBody} {kind : EntityKind} {handle : Handle}
    (h : ObjectBody.capsule? body = some ⟨kind, handle, .loose⟩) : Tame body := by
  cases body with
  | capsule hold =>
      cases h
      exact ⟨trivial, rfl⟩
  | _ => cases h

/-- The notation of an orderly function stands for orderly code. -/
theorem FunctionSpec.Orderly.code {h : Host SessionBody} {spec : FunctionSpec} {code : Code}
    {w w' : SessionWorld} (horderly : spec.Orderly)
    (hrun : (spec.eval h).apply w = (.ok code, w')) : code.Orderly := by
  rw [FunctionSpec.eval.eq_def] at hrun
  cases horderly with
  | give =>
      obtain ⟨value, _, -, hrun⟩ := Action.apply_bind_eq_ok_iff.mp hrun
      cases hrun
      trivial
  | script hsteps =>
      cases hrun
      exact hsteps
  | _ =>
      cases hrun
      trivial

end DdsBridge.Session
