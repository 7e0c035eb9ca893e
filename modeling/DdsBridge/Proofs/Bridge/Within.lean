import DdsBridge.Bridge.Exceptions
import DdsBridge.Bridge.Policies
import DdsBridge.Bridge.Proxies
import DdsBridge.Bridge.Registry
import DdsBridge.Proofs.Bridge.Carries
import DdsBridge.Proofs.Host.Memory.Within

/-!
# What conversions and look-ups stay within

Reading values from the host, finding classes, proxies and topic types stay within every steady
relation that the host's operations stay within.

* **`classOf_within`** — classes.
* **`Marshal.fromHost_within`**, **`Marshal.toHost_within`** — values.
* **`Proxies.resolveAs_within`**, **`Registry.topicTypeOf_within`** — proxies and their types.
* **`Policies.endpointQos_within`**, **`newException_within`** — policies and exceptions.
-/

namespace DdsBridge

variable {B : Type} [ObjectBody B] {Plain : B → Prop} {Free : String → Prop}
variable {R : World B → World B → Prop} {h : Host B}

open DdsBridge.Action (Within)

section Reads

variable (hR : World.Steady Plain Free R) (hh : h.Reads R)
include hR hh

theorem findClass_within (path : ClassPath) : Within R (findClass h path) :=
  .bind hR (hh.importModule _) fun module => .foldlM hR hh.getAttr path.path module

theorem classOf_within (store : ClassStore) (name : String) (path : ClassPath) :
    Within R (classOf h store name path) := by
  refine .world fun w => ?_
  split
  · exact fun _ => hR.refl w
  · refine Within.bind hR (findClass_within hR hh path) (fun cls => ?_) w
    refine .bind hR (.change fun w => hR.quiet ?_) fun _ => .pure hR cls
    cases store <;> exact .beside rfl rfl rfl rfl rfl rfl rfl rfl rfl

namespace Marshal

/-! ## Values from the host -/

theorem numberText_within (obj : Ref) : Within R (numberText h obj) := by
  refine .bind hR (.attempt (hh.strOf obj)) fun text => ?_
  cases text with
  | ok text => exact .pure hR text
  | error error => exact .pure hR _

theorem numberFailure_within {α : Type} (target : String) (obj : Ref) (error : HostError) :
    Within R (numberFailure h target obj error : BridgeAction B α) := by
  unfold numberFailure
  split
  · exact .bind hR (numberText_within hR hh obj) fun _ => .raise hR _
  · exact .raise hR _
  · exact .raise hR _

theorem intFromHost_within (kind : IntKind) (obj : Ref) : Within R (intFromHost h kind obj) := by
  have hnumber : Within R (if kind.isSigned then h.asSigned obj else h.asUnsigned obj) := by
    split
    · exact hh.asSigned obj
    · exact hh.asUnsigned obj
  refine .bind hR (.attempt hnumber) fun result => ?_
  cases result with
  | error error => exact numberFailure_within hR hh _ obj error
  | ok n =>
      dsimp only
      split
      · exact .pure hR n
      · exact .raise hR _

theorem floatFromHost_within (obj : Ref) : Within R (floatFromHost h obj) := by
  refine .bind hR (.attempt (hh.asFloat obj)) fun result => ?_
  cases result with
  | error error => exact numberFailure_within hR hh _ obj error
  | ok x => exact .pure hR x

theorem float32FromHost_within (obj : Ref) : Within R (float32FromHost h obj) := by
  refine .bind hR (floatFromHost_within hR hh obj) fun x => ?_
  split
  · exact .bind hR (.raise hR _) fun _ => .pure hR _
  · exact .pure hR _

theorem boolFromHost_within (obj : Ref) : Within R (boolFromHost h obj) := by
  unfold boolFromHost
  split
  · exact .pure hR true
  · split
    · exact .pure hR false
    · exact .bind hR (hh.describe hR obj) fun _ => .raise hR _

theorem codedFromHost_within (codec : Codec) (obj : Ref) :
    Within R (codedFromHost h codec obj) := by
  refine .bind hR (.attempt (hh.strOf obj)) fun result => ?_
  cases result with
  | ok text => exact .ofExcept hR _
  | error error =>
      dsimp only
      split
      · exact .raise hR _
      · exact .raise hR _

theorem textFromHost_within (obj : Ref) : Within R (textFromHost h obj) :=
  .bind hR (codedFromHost_within hR hh .utf8 obj) fun _ => .ofExcept hR _

theorem variantFromHost_within (e : EnumDef) (obj : Ref) : Within R (variantFromHost h e obj) := by
  refine .bind hR (intFromHost_within hR hh .u32 obj) fun n => ?_
  split
  · exact .pure hR _
  · exact .raise hR _

theorem checkInstance_within (store : ClassStore) (head : StructHead) (obj : Ref) :
    Within R (checkInstance h store head obj) := by
  refine .bind hR (.lift (classOf_within hR hh store _ _)) fun cls => .world fun w => ?_
  split
  · exact Within.bind hR (hh.describe hR obj) (fun _ => .raise hR _) w
  · exact fun _ => hR.refl w

omit hh in
theorem readItems_within {item : Ref → BridgeAction B Value} (hitem : ∀ r, Within R (item r))
    (objs : List Ref) : Within R (readItems item objs) :=
  .pinning hR (.mapM hR hitem objs)

mutual

theorem fromHost_within (store : ClassStore) : ∀ (type : IdlType) (obj : Ref),
    Within R (fromHost h store type obj)
  | .bool, obj => by
      rw [fromHost]
      exact .bind hR (boolFromHost_within hR hh obj) fun _ => .pure hR _
  | .int kind, obj => by
      rw [fromHost]
      exact .bind hR (intFromHost_within hR hh kind obj) fun _ => .pure hR _
  | .float64, obj => by
      rw [fromHost]
      exact .bind hR (floatFromHost_within hR hh obj) fun _ => .pure hR _
  | .float32, obj => by
      rw [fromHost]
      exact .bind hR (float32FromHost_within hR hh obj) fun _ => .pure hR _
  | .string, obj => by
      rw [fromHost]
      exact .bind hR (textFromHost_within hR hh obj) fun _ => .pure hR _
  | .coded codec, obj => by
      rw [fromHost]
      exact .bind hR (codedFromHost_within hR hh codec obj) fun _ => .pure hR _
  | .enumeration e, obj => by
      rw [fromHost]
      exact .bind hR (variantFromHost_within hR hh e obj) fun _ => .pure hR _
  | .struct head fields, obj => by
      rw [fromHost]
      exact .bind hR (checkInstance_within hR hh store head obj) fun _ =>
        .bind hR (fieldsFromHost_within store fields obj) fun _ => .pure hR _
  | .seq item, obj => by
      rw [fromHost]
      refine .bind hR (.attempt (hh.listItems obj)) fun result => ?_
      cases result with
      | ok objs =>
          exact .bind hR (readItems_within hR (fromHost_within store item) objs) fun _ =>
            .pure hR _
      | error error =>
          dsimp only
          split
          · exact .raise hR _
          · exact .raise hR _

theorem fieldsFromHost_within (store : ClassStore) : ∀ (fields : Fields) (obj : Ref),
    Within R (fieldsFromHost h store fields obj)
  | .nil, obj => by
      rw [fieldsFromHost]
      exact .pure hR []
  | .cons field type rest, obj => by
      have hrest : ∀ v, Within R (do
          return v :: (← fieldsFromHost h store rest obj) : BridgeAction B (List Value)) :=
        fun v => .bind hR (fieldsFromHost_within store rest obj) fun _ => .pure hR _
      rw [fieldsFromHost]
      cases field.hostName with
      | none => exact .bind hR (.pure hR _) hrest
      | some name =>
          exact .bind hR (.lift (hh.getAttr obj name)) fun value =>
            .bind hR (.pinning hR (fromHost_within store type value)) hrest

end

end Marshal

/-! ## Proxies and topic types -/

namespace Proxies

omit hh in
theorem missing_within {α : Type} (role expected : String) :
    Within R (missing role expected : BridgeAction B α) :=
  .raise hR _

theorem unbind_within (proxy : Ref) : Within R (unbind h proxy) := by
  refine .bind hR (.attempt (hh.delAttr proxy _)) fun result => ?_
  cases result with
  | ok => exact .pure hR ()
  | error error =>
      dsimp only
      split
      · exact .pure hR ()
      · exact .raise hR _

theorem heldBy_within (proxy : Ref) (role expected : String) :
    Within R (heldBy h proxy role expected) := by
  refine .bind hR (.attempt (hh.getAttr proxy _)) fun result => ?_
  cases result with
  | error error => exact missing_within hR role expected
  | ok wrapped =>
      refine .world fun w => ?_
      split
      · exact fun _ => hR.refl w
      · exact fun _ => hR.refl w

theorem heldAs_within (proxy : Ref) (kind : EntityKind) (role : String) :
    Within R (heldAs h proxy kind role) := by
  refine .bind hR (heldBy_within hR hh proxy role _) fun held => ?_
  dsimp only
  split
  · exact .pure hR _
  · exact missing_within hR role _

theorem requireAlive_within (proxy : Ref) (handle : Handle) (role : String) (kind : EntityKind) :
    Within R (requireAlive h proxy handle role kind) := by
  refine .world fun w => ?_
  split
  · exact fun _ => hR.refl w
  · exact Within.bind hR (unbind_within hR hh proxy) (fun _ => missing_within hR role _) w

theorem resolveAs_within (proxy : Ref) (kind : EntityKind) (role : String) :
    Within R (resolveAs h proxy kind role) :=
  .bind hR (heldAs_within hR hh proxy kind role) fun handle =>
    .bind hR (requireAlive_within hR hh proxy handle role kind) fun _ => .pure hR handle

theorem resolve_within (proxy : Ref) (role : String) : Within R (resolve h proxy role) :=
  .bind hR (heldBy_within hR hh proxy role _) fun held =>
    .bind hR (requireAlive_within hR hh proxy held.2 role held.1) fun _ => .pure hR _

end Proxies

namespace Registry

theorem nameOfClass_within (cls : Ref) : Within R (nameOfClass h cls) := by
  refine .bind hR (.attempt (.bind hR (hh.getAttr cls _) fun _ => hh.strOf _)) fun named => ?_
  cases named with
  | ok name => exact .pure hR name
  | error error =>
      refine .bind hR (.attempt (hh.strOf cls)) fun text => ?_
      cases text with
      | ok text => exact .pure hR text
      | error error => exact .pure hR _

theorem lookupType_within (cls : Ref) : Within R (lookupType h cls) := by
  refine .world fun w => ?_
  split
  · exact fun _ => hR.refl w
  · exact Within.bind hR (nameOfClass_within hR hh cls) (fun _ => .raise hR _) w

theorem topicTypeOf_within (proxy : Ref) : Within R (topicTypeOf h proxy) := by
  refine .bind hR (.attempt (hh.getAttr proxy _)) fun topic => ?_
  cases topic with
  | error error => exact .bind hR (hh.describe hR proxy) fun _ => .raise hR _
  | ok topic =>
      refine .bind hR (.attempt (hh.getAttr topic _)) fun cls => ?_
      cases cls with
      | error error => exact .bind hR (hh.describe hR topic) fun _ => .raise hR _
      | ok cls => exact lookupType_within hR hh cls

/-- A type is registered if the relation allows for another table of registered types. -/
theorem registerTopicType_within
    (hregister : ∀ (w : World B) registry, R w { w with bridge := { w.bridge with registry } })
    (s : StructType) : Within R (registerTopicType h s) :=
  .bind hR (.lift (classOf_within hR hh .bridge _ _)) fun cls =>
    .bind hR (.change fun w => hregister w _) fun _ => .pure hR cls

omit [ObjectBody B] hR hh in
/-- A topic type that is found for a proxy is registered. -/
theorem topicTypeOf_registered {proxy : Ref} {s : StructType} {w w' : World B}
    (hrun : (topicTypeOf h proxy).apply w = (.ok s, w')) :
    ∃ cls, w'.bridge.registry.get? cls = some s := by
  have hlookup : ∀ cls w, (lookupType h cls).apply w = (.ok s, w') →
      ∃ cls, w'.bridge.registry.get? cls = some s := by
    intro cls w h
    rw [lookupType, Action.apply_bind_of_ok (Action.apply_world w)] at h
    split at h
    · rename_i found hfound
      cases h
      exact ⟨cls, hfound⟩
    · obtain ⟨_, _, _, hraise⟩ := Action.apply_bind_eq_ok_iff.mp h
      exact absurd (congrArg Prod.fst hraise) (by simp)
  obtain ⟨topic, w₁, -, hrun⟩ := Action.apply_bind_eq_ok_iff.mp hrun
  cases topic with
  | error error =>
      obtain ⟨_, _, _, hraise⟩ := Action.apply_bind_eq_ok_iff.mp hrun
      exact absurd (congrArg Prod.fst hraise) (by simp)
  | ok topic =>
      obtain ⟨cls, w₂, -, hrun⟩ := Action.apply_bind_eq_ok_iff.mp hrun
      cases cls with
      | error error =>
          obtain ⟨_, _, _, hraise⟩ := Action.apply_bind_eq_ok_iff.mp hrun
          exact absurd (congrArg Prod.fst hraise) (by simp)
      | ok cls => exact hlookup cls w₂ hrun

end Registry

/-! ## Policies -/

namespace Policies

theorem readKind_within {K : Type} (policy : Ref) (target : String) (ofRank? : Nat → Option K) :
    Within R (readKind h policy target ofRank?) := by
  refine .bind hR (.lift (hh.getAttr policy _)) fun kind => ?_
  refine .bind hR (Marshal.intFromHost_within hR hh .u32 kind) fun rank => ?_
  split
  · exact .pure hR _
  · exact .raise hR _

theorem readReliability_within (qos : Ref) : Within R (readReliability h qos) :=
  .bind hR (.lift (hh.getAttr qos _)) fun policy =>
    .bind hR (.lift (hh.getAttr policy _)) fun time =>
      .bind hR (Marshal.floatFromHost_within hR hh time) fun _ =>
        .bind hR (readKind_within hR hh policy _ _) fun _ =>
          .bind hR (.ofExcept hR _) fun _ => .pure hR _

theorem readHistory_within (qos : Ref) : Within R (readHistory h qos) := by
  refine .bind hR (.lift (hh.getAttr qos _)) fun policy => ?_
  refine .bind hR (readKind_within hR hh policy _ _) fun kind => ?_
  refine .bind hR (.lift (hh.getAttr policy _)) fun depth => ?_
  refine .bind hR (Marshal.intFromHost_within hR hh .i32 depth) fun _ => ?_
  dsimp only
  split
  · exact .pure hR _
  · exact .raise hR _

theorem endpointQos_within (default : EndpointQos) (qos : Option Ref) :
    Within R (endpointQos h default qos) := by
  cases qos with
  | none => exact .pure hR default
  | some qos =>
      unfold endpointQos
      dsimp only
      split
      · exact .pure hR default
      · exact .bind hR (.bind hR (.lift (hh.getAttr qos _)) fun policy =>
          readKind_within hR hh policy _ _) fun _ =>
            .bind hR (readReliability_within hR hh qos) fun _ =>
              .bind hR (readHistory_within hR hh qos) fun _ => .pure hR _

end Policies

end Reads

/-! ## Names of attributes -/

mutual

/-- The objects of a type get attributes with `Free` names only. -/
def IdlType.NamesFree (Free : String → Prop) : IdlType → Prop
  | .struct _ fields => fields.NamesFree Free
  | .seq item => item.NamesFree Free
  | _ => True

/-- The attributes of the fields that the host sees have `Free` names. -/
def Fields.NamesFree (Free : String → Prop) : Fields → Prop
  | .nil => True
  | .cons field type rest =>
    (∀ name, field.hostName = some name → Free name ∧ type.NamesFree Free) ∧ rest.NamesFree Free

end

mutual

theorem IdlType.namesFree_any : ∀ type : IdlType, type.NamesFree AnyName
  | .struct _ fields => fields.namesFree_any
  | .seq item => item.namesFree_any
  | .bool | .int _ | .float64 | .float32 | .string | .coded _ | .enumeration _ => trivial

theorem Fields.namesFree_any : ∀ fields : Fields, fields.NamesFree AnyName
  | .nil => trivial
  | .cons _ type rest => ⟨fun _ _ => ⟨trivial, type.namesFree_any⟩, rest.namesFree_any⟩

end

theorem Fields.NamesFree.attrs {Free : String → Prop} : ∀ {fields : Fields},
    fields.NamesFree Free → ∀ name ∈ fields.attrs, Free name
  | .nil, _, _, hname => absurd hname List.not_mem_nil
  | .cons _ _ _, hfree, name, hname => by
      rcases List.mem_append.mp hname with hname | hname
      · exact (hfree.1 name (Option.mem_toList.mp hname)).1
      · exact hfree.2.attrs name hname

/-- The objects of every registered type get attributes with `Free` names only. -/
def World.TypesFree {B : Type} (Free : String → Prop) (w : World B) : Prop :=
  ∀ cls s, w.bridge.registry.get? cls = some s → s.type.NamesFree Free

theorem World.typesFree_any {B : Type} (w : World B) : w.TypesFree AnyName :=
  fun _ s _ => s.type.namesFree_any

section Acts

variable (hR : World.Steady Plain Free R) (hh : h.Acts Free R)
include hR hh

namespace Marshal

/-! ## Values to the host -/

theorem variantToHost_within (store : ClassStore) (e : EnumDef) (index : Nat) :
    Within R (variantToHost h store e index) :=
  .bind hR (.lift (classOf_within hR hh.toReads store _ _)) fun cls =>
    .bind hR (.lift (hh.newInt _)) fun _ => .lift (hh.call cls _)

theorem assignAll_within (target : Ref) {fields : List (String × Ref)}
    (hfields : ∀ field ∈ fields, Free field.1) : Within R (assignAll h target fields) :=
  .pinning hR (.bind hR (.forIn hR (fun field hfield _ =>
    .bind hR (.lift (hh.setAttr target _ (hfields field hfield))) fun _ => .pure hR _) _)
      fun _ => .pure hR ())

theorem newInstance_within (store : ClassStore) (head : StructHead) :
    Within R (newInstance h store head) :=
  .bind hR (.lift (classOf_within hR hh.toReads store _ _)) fun cls => .lift (hh.call cls [])

theorem fillInstance_within (store : ClassStore) (head : StructHead) (existing : Option Ref)
    {fields : List (String × Ref)} (hfields : ∀ field ∈ fields, Free field.1) :
    Within R (fillInstance h store head existing fields) := by
  refine .bind hR (.pinning hR ?_) fun target =>
    .bind hR (assignAll_within hR hh target hfields) fun _ => .pure hR target
  cases existing with
  | none => exact newInstance_within hR hh store head
  | some obj =>
      exact .bind hR (checkInstance_within hR hh.toReads store head obj) fun _ => .pure hR obj

omit hh in
theorem convertItems_within {item : Value → BridgeAction B Ref}
    (hitem : ∀ v, Within R (item v)) (items : List Value) : Within R (convertItems item items) := by
  induction items with
  | nil => exact .pure hR []
  | cons v rest ih =>
      exact .bind hR (hitem v) fun _ => .bind hR (.pinning hR ih) fun _ => .pure hR _

omit hR hh

omit [ObjectBody B] in
/-- The fields that are converted have names of the type. -/
theorem fieldsToHost_names {store : ClassStore} {fields : Fields} {values : List Value}
    {found : List (String × Ref)} {w w' : World B} (hfree : fields.NamesFree Free)
    (hrun : (fieldsToHost h store fields values).apply w = (.ok found, w')) :
    ∀ field ∈ found, Free field.1 := by
  intro field hfield
  refine hfree.attrs field.1 ?_
  rw [← fieldsToHost_attrs hrun]
  exact List.mem_map_of_mem hfield

include hR

mutual

theorem toHost_within (hh : h.Acts Free R) (store : ClassStore) : ∀ (type : IdlType) (v : Value),
    type.NamesFree Free → Within R (toHost h store type v) := by
  intro type v hfree
  unfold toHost
  split
  · exact .pure hR _
  · exact .lift (hh.newInt _)
  · exact .lift (hh.newFloat _)
  · exact .lift (hh.newFloat _)
  · exact .lift (hh.newStr _)
  · exact .bind hR (.ofExcept hR _) fun text => .lift (hh.newStr text)
  · exact variantToHost_within hR hh store _ _
  · exact fun w => .bind hR (fieldsToHost_within hh store _ _ hfree w) fun _ w₁ hrun =>
      fillInstance_within hR hh store _ none (fieldsToHost_names hfree hrun) w₁
  · rename_i item items
    exact .bind hR (convertItems_within hR (fun v => toHost_within hh store item v hfree) _)
      fun items => .lift (hh.newList items)
  · exact .raise hR _

theorem fieldsToHost_within (hh : h.Acts Free R) (store : ClassStore) :
    ∀ (fields : Fields) (values : List Value), fields.NamesFree Free →
      Within R (fieldsToHost h store fields values) := by
  intro fields values hfree
  unfold fieldsToHost
  split
  · exact .pure hR []
  · split
    · exact fieldsToHost_within hh store _ _ hfree.2
    · rename_i name hname
      exact .bind hR (toHost_within hh store _ _ (hfree.1 name hname).2) fun _ =>
        .bind hR (.pinning hR (fieldsToHost_within hh store _ _ hfree.2)) fun _ => .pure hR _
  · exact .raise hR _

end

include hh

theorem structToHost_within (store : ClassStore) {s : StructType} (hfree : s.type.NamesFree Free)
    (v : Value) (existing : Option Ref) : Within R (structToHost h store s v existing) := by
  unfold structToHost
  split
  · exact fun w => .bind hR (fieldsToHost_within hR hh store _ _ hfree w) fun _ w₁ hrun =>
      fillInstance_within hR hh store _ existing (fieldsToHost_names hfree hrun) w₁
  · exact .raise hR _

end Marshal

/-! ## Exceptions -/

theorem builtinClass_within (name : String) : Within R (builtinClass h name) := by
  refine .bind hR (.attempt (hh.importModule _)) fun found => ?_
  cases found with
  | error error => exact .pure hR []
  | ok module =>
      refine .bind hR (.attempt (hh.getAttr module name)) fun found => ?_
      cases found with
      | error error => exact .pure hR []
      | ok cls => exact .pure hR [cls]

theorem createKindClass_within (moduleName : String) (base : Ref) (kind : ErrorKind) :
    Within R (createKindClass h moduleName base kind) := by
  unfold createKindClass
  cases kind.builtinBase with
  | none => exact .bind hR (.pure hR []) fun _ => hh.newExceptionClass _ _
  | some name => exact .bind hR (builtinClass_within hR hh name) fun _ => hh.newExceptionClass _ _

theorem createExceptions_within (moduleName : String) :
    Within R (createExceptions h moduleName) := by
  refine .bind hR (builtinClass_within hR hh _) fun builtin => ?_
  refine .bind hR (hh.newExceptionClass _ _) fun base => ?_
  refine .bind hR (.forIn hR (fun kind _ kinds => ?_) _) fun kinds => ?_
  · dsimp only
    split
    · exact .bind hR (createKindClass_within hR hh moduleName base kind) fun _ => .pure hR _
    · exact .pure hR _
  · refine .bind hR (.forIn hR (fun code _ codes => ?_) _) fun codes => .pure hR _
    exact .bind hR (hh.newExceptionClass _ _) fun _ => .pure hR _

theorem newException_within (hname : Free "return_code") (error : Error) :
    Within R (newException h error) := by
  refine .world fun w => ?_
  refine Within.bind hR (hh.newStr _) (fun message => ?_) w
  refine .bind hR (hh.call _ _) fun exception => ?_
  split
  · exact .pure hR exception
  · refine .bind hR (hh.newInt _) fun number => ?_
    exact .bind hR (.pinning hR (hh.setAttr _ _ hname)) fun _ => .pure hR exception

/-! ## Capsules that belong to no bridge -/

/-- A capsule on a proxy, if its object may come. -/
theorem Proxies.bind_within {capsule : Capsule} (hname : Free Proxies.capsuleAttr)
    (hnew : Within R (h.newCapsule capsule)) (proxy : Ref) :
    Within R (Proxies.bind h proxy capsule) :=
  .bind hR (.lift hnew) fun wrapped =>
    .bind hR (.holding hR (.lift (hh.setAttr proxy _ hname))) fun _ => .pure hR wrapped

end Acts

end DdsBridge
