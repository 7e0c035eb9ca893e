import DdsBridge.Proofs.Bridge.Runs
import DdsBridge.Proofs.Bridge.Standing

/-!
# The look-ups of a call

Most calls of the bridge begin by looking up what some of their proxies stand for, before they do
anything else. On the host in memory a look-up runs no host code: it finds a live entity and changes
nothing, or it fails with a missing handle. If the capsule is of the expected kind and its entity is
gone, the proxy loses the capsule.

* **`Bridge.Lookup`**, **`Bridge.Call.lookups`** — the look-ups; **`Bridge.Call.begins`** says that a
  call begins with them.
* **`Names`** — what a proxy's capsule names, whether it is alive or not.
* **`Bridge.Lookup.run_of_standsFor`**, **`Bridge.Lookup.run_of_stale`** — a look-up finds a live
  entity or misses a handle.
* **`Bridge.Call.misses`**, **`Bridge.Call.misses_at`** — calls that fail with a look-up.
-/

namespace DdsBridge

open Memory Proxies

/-- A proxy that is looked up, the kind of the entity it has to stand for, if that matters, and the
role of the proxy. -/
structure Bridge.Lookup where
  proxy : Ref
  kind : Option EntityKind
  role : String

namespace Bridge

section Calls

variable {B : Type} (h : Host B)

/-- Looks the proxy up. -/
def Lookup.run (l : Lookup) : BridgeAction B (EntityKind × Handle) :=
  match l.kind with
  | some kind => do return (kind, ← resolveAs h l.proxy kind l.role)
  | none => resolve h l.proxy l.role

/-- The name under which a call asks whether the bridge was set up, if it does. -/
def Call.gate? : Call → Option String
  | .createParticipant .. => some "create_participant"
  | .createTopic .. => some "create_topic"
  | .createPublisher .. => some "create_publisher"
  | .createSubscriber .. => some "create_subscriber"
  | .createWriter .. => some "create_datawriter"
  | .createReader .. => some "create_datareader"
  | .registerType .. => some "register_type"
  | _ => none

/-- What a call looks up, in order. -/
def Call.lookups : Call → List Lookup
  | .createTopic _ participant _ _ | .createPublisher _ participant
  | .createSubscriber _ participant | .registerType participant _ =>
    [⟨participant, some .participant, "participant"⟩]
  | .createWriter _ publisher topic _ =>
    [⟨publisher, some .publisher, "publisher"⟩, ⟨topic, some .topic, "topic"⟩]
  | .createReader _ subscriber topic _ =>
    [⟨subscriber, some .subscriber, "subscriber"⟩, ⟨topic, some .topic, "topic"⟩]
  | .cleanup proxy => [⟨proxy, some .participant, "participant"⟩]
  | .write _ writer _ => [⟨writer, some .writer, "datawriter"⟩]
  | .take _ reader | .setCallback reader _ | .clearCallback reader =>
    [⟨reader, some .reader, "datareader"⟩]
  | .waitFor proxy _ _ => [⟨proxy, none, "entity"⟩]
  | .init .. | .registerTopicType _ | .createParticipant .. | .typeName _ | .dispatch _ => []

/-- Asks whether the bridge was set up, if the call does. -/
def Call.gate (call : Call) : BridgeAction B Unit :=
  match call.gate? with
  | some operation => requireInit operation
  | none => pure ()

/-- An action begins with look-ups and goes on with what they found. -/
def Begins (ls : List Lookup) (x : BridgeAction B Unit) : Prop :=
  ∃ rest : List (EntityKind × Handle) → BridgeAction B Unit, x = ls.mapM (Lookup.run h) >>= rest

variable {h}

theorem Begins.none (x : BridgeAction B Unit) : Begins h [] x :=
  ⟨fun _ => x, by rw [List.mapM_nil, pure_bind]⟩

theorem Begins.any {proxy : Ref} {role : String} (f : EntityKind × Handle → BridgeAction B Unit) :
    Begins h [⟨proxy, Option.none, role⟩] (resolve h proxy role >>= f) := by
  refine ⟨fun found => found.head?.elim (pure ()) f, ?_⟩
  simp only [List.mapM_cons, List.mapM_nil, Lookup.run, bind_assoc, pure_bind, List.head?_cons,
    Option.elim_some]

theorem Begins.one {proxy : Ref} {kind : EntityKind} {role : String}
    (f : Handle → BridgeAction B Unit) :
    Begins h [⟨proxy, some kind, role⟩] (resolveAs h proxy kind role >>= f) := by
  refine ⟨fun found => found.head?.elim (pure ()) fun held => f held.2, ?_⟩
  simp only [List.mapM_cons, List.mapM_nil, Lookup.run, bind_assoc, pure_bind, List.head?_cons,
    Option.elim_some]

theorem Begins.two {proxy proxy' : Ref} {kind kind' : EntityKind} {role role' : String}
    (f : Handle → Handle → BridgeAction B Unit) :
    Begins h [⟨proxy, some kind, role⟩, ⟨proxy', some kind', role'⟩]
      (resolveAs h proxy kind role >>= fun e => resolveAs h proxy' kind' role' >>= f e) := by
  refine ⟨fun found => found.head?.elim (pure ()) fun held =>
    found.tail.head?.elim (pure ()) fun held' => f held.2 held'.2, ?_⟩
  simp only [List.mapM_cons, List.mapM_nil, Lookup.run, bind_assoc, pure_bind, List.head?_cons,
    List.tail_cons, Option.elim_some]

theorem Call.act_of_ungated [ObjectBody B] {call : Call} (hgate : call.gate? = Option.none) :
    call.act h = call.gate >>= fun _ => call.act h := by
  rw [gate, hgate, pure_bind]

/-- A call begins with its look-ups, once it is known that the bridge was set up. -/
theorem Call.begins [ObjectBody B] (call : Call) :
    ∃ x, call.act h = (call.gate >>= fun _ => x) ∧ Begins h call.lookups x := by
  cases call with
  | createParticipant proxy domain => exact ⟨_, rfl, .none _⟩
  | createTopic proxy participant name type => exact ⟨_, rfl, .one _⟩
  | createPublisher proxy participant => exact ⟨_, rfl, .one _⟩
  | createSubscriber proxy participant => exact ⟨_, rfl, .one _⟩
  | createWriter proxy publisher topic qos => exact ⟨_, rfl, .two _⟩
  | createReader proxy subscriber topic qos => exact ⟨_, rfl, .two _⟩
  | registerType participant cls => exact ⟨_, rfl, .one _⟩
  | cleanup proxy => exact ⟨_, act_of_ungated rfl, .one _⟩
  | write coding writer sample => exact ⟨_, act_of_ungated rfl, .one _⟩
  | take coding reader =>
      refine ⟨_, act_of_ungated rfl, ?_⟩
      rw [act, Bridge.take, bind_assoc]
      exact .one _
  | waitFor proxy mask limit => exact ⟨_, act_of_ungated rfl, .any _⟩
  | setCallback reader callback => exact ⟨_, act_of_ungated rfl, .one _⟩
  | clearCallback reader => exact ⟨_, act_of_ungated rfl, .one _⟩
  | init isFile options => exact ⟨_, act_of_ungated rfl, .none _⟩
  | registerTopicType s => exact ⟨_, act_of_ungated rfl, .none _⟩
  | typeName cls => exact ⟨_, act_of_ungated rfl, .none _⟩
  | dispatch wait => exact ⟨_, act_of_ungated rfl, .none _⟩

end Calls

end Bridge

/-! ## Look-ups on the host in memory -/

variable {C : Type} {w : World (Body C)} {proxy : Ref} {kind : EntityKind} {e : Handle}
variable {role : String}

/-- The capsule of a proxy names an entity, which may be gone. -/
def Names (w : World (Body C)) (proxy : Ref) (kind : EntityKind) (e : Handle) : Prop :=
  ∃ wrapped, lookup w proxy capsuleAttr = some wrapped ∧ capsuleHandle w wrapped = some (kind, e)

instance : Decidable (Names w proxy kind e) :=
  decidable_of_iff ((lookup w proxy capsuleAttr).bind (capsuleHandle w) = some (kind, e))
    Option.bind_eq_some_iff

theorem standsFor_iff :
    StandsFor w proxy kind e ↔ Names w proxy kind e ∧ w.provider.isAlive e = true := by
  simp only [StandsFor, Names, exists_and_right, ← and_assoc]

instance : Decidable (StandsFor w proxy kind e) := decidable_of_iff _ standsFor_iff.symm

theorem Names.unique {kind' : EntityKind} {e' : Handle} (h : Names w proxy kind e)
    (h' : Names w proxy kind' e') : kind' = kind ∧ e' = e := by
  obtain ⟨wrapped, hwrapped, hheld⟩ := h
  obtain ⟨wrapped', hwrapped', hheld'⟩ := h'
  cases hwrapped.symm.trans hwrapped'
  cases hheld.symm.trans hheld'
  exact ⟨rfl, rfl⟩

variable [HostCode C] {inner : Host (Body C)} {invoke : C → List Ref → MemoryAction C Ref}

/-- A proxy whose capsule names nothing misses what was expected of it. -/
theorem heldBy_of_nameless {expected : String} (h : ∀ kind e, ¬Names w proxy kind e) :
    (heldBy (host inner invoke) proxy role expected).apply w =
      (.error (.raised (.handleMissing role expected)), w) := by
  cases hfound : lookup w proxy capsuleAttr with
  | none => rw [heldBy, Action.apply_bind_of_ok (getAttr_attempt_of_missing hfound)]; rfl
  | some wrapped =>
      have hnone : (host inner invoke).capsuleHandle w wrapped = none := by
        cases hheld : capsuleHandle w wrapped with
        | none => exact hheld
        | some held => exact absurd ⟨wrapped, hfound, hheld⟩ (h held.1 held.2)
      rw [heldBy, Action.apply_bind_of_ok (getAttr_attempt_of_found hfound)]
      dsimp only
      rw [Action.apply_bind_of_ok (Action.apply_world w), hnone]
      rfl

theorem heldBy_of_names {expected : String} (h : Names w proxy kind e) :
    (heldBy (host inner invoke) proxy role expected).apply w = (.ok (kind, e), w) :=
  heldBy_eq_ok_iff.mpr ⟨rfl, h⟩

/-- A proxy whose capsule names an entity of another kind. -/
theorem heldAs_of_names_ne {expected : EntityKind} (h : Names w proxy kind e) (hne : kind ≠ expected) :
    (heldAs (host inner invoke) proxy expected role).apply w =
      (.error (.raised (.handleMissing role expected.name)), w) := by
  rw [heldAs, Action.apply_bind_of_ok (heldBy_of_names h)]
  dsimp only
  rw [if_neg hne]
  rfl

namespace Bridge

/-- A look-up for which the kind of an entity is right. -/
def Lookup.Accepts (l : Lookup) (kind : EntityKind) : Prop := ∀ expected ∈ l.kind, kind = expected

variable {l : Lookup}

/-- What a look-up finds. -/
theorem Lookup.run_of_standsFor (h : StandsFor w l.proxy kind e) (hkind : l.Accepts kind) :
    (l.run (host inner invoke)).apply w = (.ok (kind, e), w) := by
  obtain ⟨proxy, expected, role⟩ := l
  cases expected with
  | some expected =>
      obtain rfl := hkind expected rfl
      rw [run, Action.apply_bind_of_ok (resolveAs_eq_ok_iff.mpr ⟨rfl, h⟩)]
      rfl
  | none =>
      obtain ⟨hnames, halive⟩ := standsFor_iff.mp h
      rw [run, resolve, Action.apply_bind_of_ok (heldBy_of_names hnames),
        Action.apply_bind_of_ok (requireAlive_of_alive halive)]
      rfl

/-- A look-up of a proxy that names nothing of the right kind. -/
theorem Lookup.run_of_nameless (h : ∀ kind e, Names w l.proxy kind e → ¬l.Accepts kind) :
    ∃ expected, (l.run (host inner invoke)).apply w =
      (.error (.raised (.handleMissing l.role expected)), w) := by
  obtain ⟨proxy, expected, role⟩ := l
  cases expected with
  | some expected =>
      have hheld : (heldAs (host inner invoke) proxy expected role).apply w =
          (.error (.raised (.handleMissing role expected.name)), w) := by
        by_cases hnames : ∃ kind e, Names w proxy kind e
        · obtain ⟨kind, e, hnames⟩ := hnames
          refine heldAs_of_names_ne hnames fun hkind => h kind e hnames ?_
          intro found hfound
          cases hfound
          exact hkind
        · have hnameless : ∀ kind e, ¬Names w proxy kind e := fun kind e hn => hnames ⟨kind, e, hn⟩
          rw [heldAs, Action.apply_bind_of_error (heldBy_of_nameless hnameless)]
      refine ⟨expected.name, ?_⟩
      rw [run]
      dsimp only
      rw [resolveAs, bind_assoc, Action.apply_bind_of_error hheld]
  | none =>
      have hnameless : ∀ kind e, ¬Names w proxy kind e := fun kind e hnames =>
        h kind e hnames fun _ hnone => absurd hnone (by simp)
      refine ⟨"entity", ?_⟩
      rw [run, resolve, Action.apply_bind_of_error (heldBy_of_nameless hnameless)]

/-- A look-up of a proxy that names an entity of the right kind which is gone. -/
theorem Lookup.run_of_gone (h : Names w l.proxy kind e) (hkind : l.Accepts kind)
    (hgone : w.provider.isAlive e = false) :
    ∃ expected w', (l.run (host inner invoke)).apply w =
        (.error (.raised (.handleMissing l.role expected)), w') ∧
      w'.attrAt l.proxy capsuleAttr = none := by
  obtain ⟨proxy, expected, role⟩ := l
  obtain ⟨w', halive, hlost⟩ :
      ∃ w', (requireAlive (host inner invoke) proxy e role kind).apply w =
        (.error (.raised (.handleMissing role kind.name)), w') ∧ Loses proxy w w' :=
    requireAlive_of_gone hgone
  refine ⟨kind.name, w', ?_, hlost.attrAt⟩
  cases expected with
  | some expected =>
      obtain rfl := hkind expected rfl
      rw [run]
      dsimp only
      rw [resolveAs, bind_assoc, Action.apply_bind_of_ok (heldAs_eq_ok_iff.mpr ⟨rfl, h⟩), bind_assoc,
        Action.apply_bind_of_error halive]
  | none =>
      rw [run, resolve, Action.apply_bind_of_ok (heldBy_of_names h),
        Action.apply_bind_of_error halive]

/-- A look-up of a proxy that stands for no live entity of the right kind fails. If the proxy still
names one, it has no capsule of its own afterwards. -/
theorem Lookup.run_of_stale (h : ∀ kind e, l.Accepts kind → ¬StandsFor w l.proxy kind e) :
    ∃ expected w', (l.run (host inner invoke)).apply w =
        (.error (.raised (.handleMissing l.role expected)), w') ∧
      ∀ kind e, Names w l.proxy kind e → l.Accepts kind → w'.attrAt l.proxy capsuleAttr = none := by
  by_cases hnames : ∃ kind e, Names w l.proxy kind e ∧ l.Accepts kind
  · obtain ⟨kind, e, hnames, hkind⟩ := hnames
    have hgone : w.provider.isAlive e = false :=
      Bool.eq_false_iff.mpr fun halive => h kind e hkind (standsFor_iff.mpr ⟨hnames, halive⟩)
    obtain ⟨expected, w', hrun, hlost⟩ := Lookup.run_of_gone hnames hkind hgone
    exact ⟨expected, w', hrun, fun _ _ _ _ => hlost⟩
  · have hnameless : ∀ kind e, Names w l.proxy kind e → ¬l.Accepts kind :=
      fun kind e hn hkind => hnames ⟨kind, e, hn, hkind⟩
    obtain ⟨expected, hrun⟩ := Lookup.run_of_nameless hnameless
    exact ⟨expected, w, hrun, fun kind e hn hkind => absurd hkind (hnameless kind e hn)⟩

/-- Whether a look-up finds a live entity of the right kind. -/
def Lookup.Finds (w : World (Body C)) (l : Lookup) : Prop :=
  ∃ kind e, l.Accepts kind ∧ StandsFor w l.proxy kind e

/-! ## Calls that fail with a look-up -/

/-- Look-ups fail with the first that does not find anything. -/
theorem lookups_of_stale {before after : List Lookup} (hbefore : ∀ found ∈ before, found.Finds w)
    {error : Error} {w' : World (Body C)}
    (hrun : (l.run (host inner invoke)).apply w = (.error (.raised error), w')) :
    ((before ++ l :: after).mapM (Lookup.run (host inner invoke))).apply w =
      (.error (.raised error), w') := by
  induction before with
  | nil => rw [List.nil_append, List.mapM_cons, Action.apply_bind_of_error hrun]
  | cons first rest ih =>
      obtain ⟨⟨kind, e, hkind, hstands⟩, hrest⟩ := List.forall_mem_cons.mp hbefore
      rw [List.cons_append, List.mapM_cons,
        Action.apply_bind_of_ok (Lookup.run_of_standsFor hstands hkind),
        Action.apply_bind_of_error (ih hrest)]

omit [HostCode C] in
/-- Among look-ups of which not all find something there is a first that does not. -/
theorem exists_first_stale {ls : List Lookup} (hl : l ∈ ls) (hstale : ¬l.Finds w) :
    ∃ before first after, ls = before ++ first :: after ∧ (∀ found ∈ before, found.Finds w) ∧
      ¬first.Finds w := by
  induction ls with
  | nil => exact absurd hl List.not_mem_nil
  | cons head rest ih =>
      by_cases hhead : head.Finds w
      · have hrest : l ∈ rest := by
          rcases List.mem_cons.mp hl with rfl | hrest
          · exact absurd hhead hstale
          · exact hrest
        obtain ⟨before, first, after, hsplit, hbefore, hfirst⟩ := ih hrest
        exact ⟨head :: before, first, after, by rw [hsplit, List.cons_append],
          List.forall_mem_cons.mpr ⟨hhead, hbefore⟩, hfirst⟩
      · exact ⟨[], head, rest, rfl, by simp, hhead⟩

/-- The bridge was set up, as far as a call asks for that. -/
def Call.Admitted (w : World (Body C)) (call : Call) : Prop :=
  call.gate?.isSome → w.bridge.initialized = true

/-- A call fails with the first look-up that does not find anything. -/
theorem Call.misses_at {call : Call} (hadmitted : call.Admitted w) {before after : List Lookup}
    (hlookups : call.lookups = before ++ l :: after) (hbefore : ∀ found ∈ before, found.Finds w)
    (hstale : ¬l.Finds w) :
    ∃ expected w', (call.act (host inner invoke)).apply w =
        (.error (.raised (.handleMissing l.role expected)), w') ∧
      ∀ kind e, Names w l.proxy kind e → l.Accepts kind → w'.attrAt l.proxy capsuleAttr = none := by
  obtain ⟨expected, w', hrun, hlost⟩ : ∃ expected w', (l.run (host inner invoke)).apply w =
      (.error (.raised (.handleMissing l.role expected)), w') ∧ _ :=
    Lookup.run_of_stale fun kind e hkind hstands => hstale ⟨kind, e, hkind, hstands⟩
  refine ⟨expected, w', ?_, hlost⟩
  have hgate : (call.gate : BridgeAction (Body C) Unit).apply w = (.ok (), w) := by
    unfold Call.gate
    split
    · rename_i operation hsome
      rw [requireInit, Action.apply_bind_of_ok
        (show (isInitialized : BridgeAction (Body C) Bool).apply w = _ from rfl),
        hadmitted (by rw [hsome]; rfl)]
      rfl
    · rfl
  obtain ⟨x, hact, rest, rfl⟩ := Call.begins (h := host inner invoke) call
  rw [hact, Action.apply_bind_of_ok hgate, hlookups,
    Action.apply_bind_of_error (lookups_of_stale hbefore hrun)]

/-- A call fails if it looks up a proxy that stands for no live entity of the right kind. -/
theorem Call.misses {call : Call} (hadmitted : call.Admitted w) (hl : l ∈ call.lookups)
    (hstale : ¬l.Finds w) :
    ∃ role expected w', (call.act (host inner invoke)).apply w =
      (.error (.raised (.handleMissing role expected)), w') := by
  obtain ⟨before, first, after, hlookups, hbefore, hfirst⟩ := exists_first_stale hl hstale
  obtain ⟨expected, w', hrun, -⟩ := Call.misses_at hadmitted hlookups hbefore hfirst
  exact ⟨first.role, expected, w', hrun⟩

end Bridge

end DdsBridge
