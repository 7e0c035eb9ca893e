import DdsBridge.Proofs.Session.Within
import DdsBridge.Session.Fixture

/-!
# Where sessions start

Every session starts in a fresh world: its preparation makes modules and classes, builds a bridge,
registers topic types and initializes the provider, but it neither creates an entity nor leaves code
behind.

* **`Fresh`** — worlds without holds and entities.
* **`Bare`** — worlds that are without code, too.
* **`prepare_within`** — what the preparation of a session does.
* **`fresh_startWorld`** — the start of a session.
-/

namespace DdsBridge.Session

open DdsBridge.Action (Within)

/-- A world in which no entity was created yet. -/
structure Fresh (w : SessionWorld) : Prop where
  orderly : WorldOrderly w
  unheld : ∀ k, ¬w.Held k
  lifeless : ∀ e, w.provider.entities.get? e = none
  permanent_le : w.permanent ≤ w.heap.size

/-- A world without code, without holds of a bridge and without entities. -/
structure Bare (w : SessionWorld) : Prop where
  plain : ∀ r body, w.bodyAt r = some body → Memory.Body.IsPlain body
  lifeless : ∀ e, w.provider.entities.get? e = none
  permanent_le : w.permanent ≤ w.heap.size

/-- Changes that leave a bare world bare. -/
def StaysBare (w w' : SessionWorld) : Prop := Bare w → Bare w'

theorem Bare.fresh {w : SessionWorld} (h : Bare w) : Fresh w where
  orderly r body hbody := (tame_of_isPlain (h.plain r body hbody)).1
  unheld k hk := by
    obtain ⟨r, hr⟩ := hk
    obtain ⟨capsule, hcapsule, hhold⟩ := Option.bind_eq_some_iff.mp hr
    obtain ⟨body, hbody, hsome⟩ := Option.bind_eq_some_iff.mp hcapsule
    have hnone := (tame_of_isPlain (h.plain r body hbody)).2
    rw [World.NoHold, hsome, Option.bind_some, hhold] at hnone
    exact absurd hnone (by simp)
  lifeless := h.lifeless
  permanent_le := h.permanent_le

theorem rests_lifeless {s s' : Provider.State} (h : s.Rests s')
    (hlifeless : ∀ e, s.entities.get? e = none) (e : Handle) : s'.entities.get? e = none := by
  cases he : s'.entities.get? e with
  | none => rfl
  | some record =>
      obtain ⟨before, hbefore, -⟩ := h.refs e record he
      exact absurd ((hlifeless e).symm.trans hbefore) (by simp)

theorem staysBare_steady : World.Steady Memory.Body.IsPlain AnyName StaysBare where
  trans h h' hbare := h' (h hbare)
  quiet {w w'} hq hbare := by
    refine ⟨fun r body hbody => ?_, fun e => hq.provider ▸ hbare.lifeless e, ?_⟩
    · rcases hq.new r body hbody with hold | hplain
      · exact hbare.plain r body hold
      · exact hplain
    · have hpermanent := hbare.permanent_le
      have hsize := hq.size_le
      rw [hq.permanent]
      omega
  discard {w r} _ _ hbare := by
    refine ⟨fun r' body hbody => hbare.plain r' body (World.bodyAt_of_discard hbody),
      fun e => ?_, ?_⟩
    · cases he : (w.discard r).provider.entities.get? e with
      | none => rfl
      | some record =>
          -- no entity comes when an object goes
          have hbefore : ∃ before, w.provider.entities.get? e = some before := by
            cases hcapsule : w.capsuleAt r with
            | none => exact ⟨record, (World.discard_lost hcapsule).1 ▸ he⟩
            | some capsule =>
                obtain ⟨before, hbefore, -⟩ := (World.discard_gone hcapsule).2.2.2 e record he
                exact ⟨before, hbefore⟩
          obtain ⟨before, hbefore⟩ := hbefore
          exact absurd ((hbare.lifeless e).symm.trans hbefore) (by simp)
    · rw [World.discard_permanent, World.discard_heap, Heap.size, Heap.erase,
        Array.size_setIfInBounds]
      exact hbare.permanent_le

theorem staysBare_lawful : World.Lawful StaysBare where
  register _ _ hbare := ⟨hbare.plain, hbare.lifeless, hbare.permanent_le⟩
  noted _ _ _ hbare := ⟨hbare.plain, hbare.lifeless, hbare.permanent_le⟩
  turn {w w'} ht hbare := by
    refine ⟨fun r body hbody => hbare.plain r body ?_,
      rests_lifeless ht.provider hbare.lifeless, ?_⟩
    · rwa [World.bodyAt, ht.heap] at hbody
    · rw [ht.permanent, ht.heap]
      exact hbare.permanent_le
  rebuild {w w'} hb hbare := by
    refine ⟨fun r body hbody => hbare.plain r body ?_, hb.provider, ?_⟩
    · rwa [World.bodyAt, hb.heap] at hbody
    · rw [hb.permanent, hb.heap]
      exact hbare.permanent_le

/-- In a bare world there is no code to run. -/
theorem hostAt_staysBare {isFile : String → Bool} (level : Nat) :
    (hostAt isFile level).Acts AnyName StaysBare := by
  induction level with
  | zero => exact Memory.stuck_acts
  | succ level ih =>
      refine Memory.host_acts staysBare_steady (fun _ _ => trivial) ih.call ih.strOf ih.setAttr
        fun w code args hcode => ?_
      intro _ hbare
      rcases hcode with ⟨r, hbody⟩ | ⟨r, info, hbody, hinit⟩
      · exact (hbare.plain r _ hbody).elim
      · exact absurd ((hbare.plain r _ hbody).symm.trans hinit) (by simp)

/-! ## The new world -/

theorem newClass_succeeds (qualified : String) (bases : List Ref) (init : Option Code) :
    (Memory.newClass qualified bases init).Succeeds := by
  refine .world fun w => ?_
  refine .bind (.alloc _) fun cls => .bind (.alloc _) fun name => .bind (.change _) fun _ => ?_
  split
  · exact .pure cls
  · exact .bind (.alloc _) fun name => .bind (.change _) fun _ => .pure cls

theorem addModule_succeeds (name : String) :
    (Memory.addModule name : Preparation Ref).Succeeds := by
  refine .world fun w => ?_
  split
  · exact .pure _
  · exact .bind (.alloc _) fun module => .bind (.change _) fun _ => .pure module

theorem createBuiltins_succeeds : (Memory.createBuiltins : Preparation Unit).Succeeds := by
  refine .bind (.forIn (fun b _ => .bind (.alloc _) fun _ => .pure _) _ _) fun _ => ?_
  refine .bind (.change _) fun _ => .bind (.forIn (fun b _ => ?_) _ _) fun _ => ?_
  · split
    · exact .bind (.alloc _) fun _ => .bind (.change _) fun _ => .pure _
    · exact .pure _
  refine .bind (addModule_succeeds _) fun module => ?_
  refine .bind (.forIn (fun b _ => .bind (.change _) fun _ => .pure _) _ _) fun _ => ?_
  refine .bind (.forIn (fun name _ => ?_) _ _) fun _ => .pure ()
  exact .bind (newClass_succeeds _ _ _) fun cls => .bind (.change _) fun _ => .pure _

theorem builtin_isPlain (b : Memory.Builtin) : (b.body : SessionBody).IsPlain := by
  cases b <;> trivial

theorem createBuiltins_within : Within StaysBare (Memory.createBuiltins : Preparation Unit) := by
  have hR := staysBare_steady
  refine .bind hR (.forIn hR (fun b _ _ => ?_) _) fun _ => ?_
  · exact .bind hR (.alloc hR (builtin_isPlain b)) fun _ => .pure hR _
  refine .bind hR (.change fun w hbare => ⟨hbare.plain, hbare.lifeless, Nat.le_refl _⟩) fun _ => ?_
  refine .bind hR (.forIn hR (fun b _ _ => ?_) _) fun _ => ?_
  · split
    · exact .bind hR (.alloc hR trivial) fun name =>
        .bind hR (.change fun w => hR.storeAttr w b.ref trivial name) fun _ => .pure hR _
    · exact .pure hR _
  refine .bind hR (Memory.addModule_within hR _) fun module => ?_
  refine .bind hR (.forIn hR (fun b _ _ => ?_) _) fun _ => ?_
  · exact .bind hR (.change fun w => hR.storeAttr w module trivial _) fun _ => .pure hR _
  refine .bind hR (.forIn hR (fun name _ _ => ?_) _) fun _ => .pure hR ()
  exact .bind hR
    (Memory.newClass_within hR (fun _ _ => trivial) (fun _ hinit => .alloc hR hinit) _ _) fun cls =>
      .bind hR (.change fun w => hR.storeAttr w module trivial cls) fun _ => .pure hR _

theorem bare_newWorld : Bare (Memory.newWorld : SessionWorld) := by
  have hempty : Bare (World.empty : SessionWorld) := by
    refine ⟨fun r body hbody => ?_, fun _ => rfl, Nat.le_refl 0⟩
    obtain ⟨node, hnode, -⟩ := Option.map_eq_some_iff.mp hbody
    exact absurd (Heap.lt_size_of_get? hnode) (Nat.not_lt_zero _)
  obtain ⟨_, w, hrun⟩ := createBuiltins_succeeds World.empty
  have hwithin := createBuiltins_within World.empty
  unfold Action.WithinAt at hwithin
  exact hwithin (by rw [hrun]; simp) hempty

/-! ## Preparations -/

section Preparation

variable {h : SessionHost} (hh : h.Acts AnyName StaysBare)

theorem setRegister_within (name : String) (r : Ref) :
    Within StaysBare (setRegister name r) :=
  .change fun _ => staysBare_steady.quiet (.beside rfl rfl rfl rfl rfl rfl rfl rfl rfl)

theorem defineClasses_within (module : Ref) (bases : List Ref) (names : List String) :
    Within StaysBare (defineClasses module bases names) := by
  have hR := staysBare_steady
  refine .bind hR (.forIn hR (fun name _ _ => ?_) _) fun _ => .pure hR ()
  exact .bind hR (Memory.defineClass_within hR (fun _ _ => trivial) (fun _ hinit => .alloc hR hinit)
    module trivial bases) fun cls => .bind hR (setRegister_within name cls) fun _ => .pure hR _

theorem prepareClasses_within : Within StaysBare prepareClasses := by
  have hR := staysBare_steady
  refine .bind hR (Memory.addModule_within hR _) fun basic => ?_
  refine .bind hR (setRegister_within _ basic) fun _ => ?_
  refine .bind hR (defineClasses_within basic _ _) fun _ => ?_
  refine .bind hR (defineClasses_within basic _ _) fun _ => ?_
  refine .bind hR (Memory.getAttr_within hR basic _) fun reading => ?_
  refine .bind hR (defineClasses_within basic _ _) fun _ => ?_
  refine .bind hR (Memory.addModule_within hR _) fun sub => ?_
  refine .bind hR (defineClasses_within sub _ _) fun _ => ?_
  refine .bind hR (Memory.getAttr_within hR sub _) fun outer => ?_
  refine .bind hR (defineClasses_within outer _ _) fun _ => ?_
  refine .bind hR (Memory.addModule_within hR _) fun qos => ?_
  refine .bind hR (defineClasses_within qos _ _) fun _ => ?_
  exact .bind hR (Memory.addModule_within hR _) fun entities => defineClasses_within entities _ _

include hh

theorem prepare_within (isFile : String → Bool) (fixture : Fixture) :
    Within StaysBare (prepare isFile h fixture) := by
  have hR := staysBare_steady
  have hinit : Within StaysBare (if fixture.includes .init then Bridge.init isFile {} else pure () :
      BridgeAction SessionBody Unit) := by
    split
    · exact Bridge.init_within hR staysBare_lawful.toTurning isFile {}
    · exact .pure hR ()
  refine .bind hR (.lift (hh.importModule _)) fun builtins => ?_
  refine .bind hR (.lift (setRegister_within _ builtins)) fun _ => ?_
  refine .bind hR (.lift (setRegister_within _ _)) fun _ => ?_
  refine .ite_bind hR (.lift prepareClasses_within) fun _ => ?_
  refine .ite_bind hR (Bridge.build_within hR hh staysBare_lawful _ _ _) fun _ => ?_
  refine .ite_bind hR (.forIn hR (fun type _ _ => ?_) _) fun _ => hinit
  exact .bind hR
    (Registry.registerTopicType_within hR hh.toReads staysBare_lawful.register type) fun _ =>
      .pure hR _

end Preparation

/-- Every session starts in a fresh world. -/
theorem fresh_startWorld {isFile : String → Bool} {level : Nat} {fixture : Fixture}
    (hends : ((Action.framed (prepare isFile (hostAt isFile level) fixture)).apply
      Memory.newWorld).1 ≠ .error .endless) :
    Fresh (startWorld isFile (hostAt isFile level) fixture) :=
  (Action.Within.framed staysBare_steady
    (prepare_within (hostAt_staysBare level) isFile fixture) Memory.newWorld hends
      bare_newWorld).fresh

end DdsBridge.Session
