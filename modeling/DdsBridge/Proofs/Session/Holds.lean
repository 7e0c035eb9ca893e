import DdsBridge.Proofs.Bridge.Endpoints
import DdsBridge.Proofs.Session.Start

/-!
# Holds in a session

A session is a run of steps, each of which can run host code that carries out further steps. Along
every run of orderly steps an entity that the bridge created is given back at most once, in the step
in which nothing refers to its capsule any more; as long as its capsule is there the entity has one
holder and afterwards none.

* **`Run`**, **`Stage`** — runs of orderly steps, with the worlds before and after each.
* **`Stage.Settled`** — the books of one step.
* **`holds_given_back_once`** — every step of every run is settled.
* **`Run.unforeseen`** — what the creation of an entity relies on holds in every state of a session.
-/

namespace DdsBridge.Session

variable {isFile : String → Bool}

/-! ## Runs -/

/-- A step of a run: the world before it and the world after it. -/
structure Stage where
  before : SessionWorld
  after : SessionWorld

/-- A world at the beginning of a step: nothing happened in the step yet. -/
def cleared (w : SessionWorld) : SessionWorld := { w with events := [], releases := [] }

/-- A run of orderly steps that all come to an end; host code nests as deep as the host allows. -/
inductive Run (isFile : String → Bool) (level : Nat) (w₀ : SessionWorld) :
    List Stage → SessionWorld → Prop where
  | start : Run isFile level w₀ [] w₀
  | step {stages : List Stage} {w w' : SessionWorld} {step : SessionStep} {outcome : Outcome} :
    Run isFile level w₀ stages w → Step.Orderly step →
      (runStep isFile (hostAt isFile level) step).apply (cleared w) = (.ok outcome, w') →
        Run isFile level w₀ (stages ++ [⟨w, w'⟩]) w'

/-- The books of one step, after the deals of the steps before it. -/
structure Stage.Settled (stage : Stage) (past deals : List Deal) : Prop where
  /-- The deals of the step are those that were made in its course. -/
  trail : (cleared stage.before).Trail deals stage.after
  /-- The observer is told of what is given back, and of nothing else. -/
  noted : stage.after.releases = deals.flatMap Deal.note
  /-- No hold was given back twice. -/
  once : ∀ k, (past ++ deals).countP (Deal.givesBack k) ≤ 1
  /-- A hold is given back in the step in which its capsule goes. -/
  givenBack_iff : ∀ k, (∃ deal ∈ deals, deal.givesBack k = true) ↔
    (stage.before.Held k ∨ ∃ deal ∈ deals, deal.takes k = true) ∧ ¬stage.after.Held k
  /-- A capsule is there only as long as something refers to it. -/
  referenced : ∀ k r, stage.after.Holds k r → r ∈ stage.after.references
  /-- Entities that are alive were created through the bridge. -/
  alive : ∀ e record, stage.after.provider.entities.get? e = some record →
    ∃ deal ∈ past ++ deals, deal.takes ⟨stage.after.bridge.generation, e⟩ = true
  /-- An entity has one holder as long as there is a capsule for it. -/
  refs_held : ∀ e record, stage.after.provider.entities.get? e = some record →
    stage.after.Held ⟨stage.after.bridge.generation, e⟩ → record.refs = 1
  /-- After that it has none. -/
  refs_free : ∀ e record, stage.after.provider.entities.get? e = some record →
    ¬stage.after.Held ⟨stage.after.bridge.generation, e⟩ → record.refs = 0

/-! ## One step -/

/-- What orderly steps do to a world: it stays orderly, and there is a trail. -/
def Follows (w w' : SessionWorld) : Prop :=
  WorldOrderly w → WorldOrderly w' ∧ ∃ deals, w.Trail deals w'

theorem bodyOrderly_of_capsule {body : SessionBody} {capsule : Capsule}
    (h : ObjectBody.capsule? body = some capsule) : BodyOrderly body := by
  cases body with
  | capsule hold => trivial
  | _ => cases h

theorem follows_steady : World.Steady Tame AnyName Follows where
  trans h h' horderly := by
    obtain ⟨hmiddle, deals, htrail⟩ := h horderly
    obtain ⟨hlast, more, hmore⟩ := h' hmiddle
    exact ⟨hlast, deals ++ more, htrail.append hmore⟩
  quiet {w w'} hq horderly := by
    refine ⟨fun r body hbody => ?_, [], .quiet .start (hq.toQuiet.mono fun _ htame => htame.2)⟩
    rcases hq.new r body hbody with hold | htame
    · exact horderly r body hold
    · exact htame.1
  discard {w r} hpermanent hfree horderly := by
    refine ⟨fun r' body hbody => horderly r' body (World.bodyAt_of_discard hbody), ?_⟩
    cases hcapsule : w.capsuleAt r with
    | none => exact ⟨[], .lost .start hpermanent hfree hcapsule⟩
    | some capsule => exact ⟨[.gone capsule], .gone .start hpermanent hfree hcapsule⟩

theorem follows_lawful : World.Lawful Follows where
  register _ _ horderly :=
    ⟨horderly, [], .quiet .start (.beside rfl rfl rfl rfl rfl rfl)⟩
  noted _ _ _ horderly := ⟨horderly, [], .quiet .start (.beside rfl rfl rfl rfl rfl rfl)⟩
  turn {w w'} ht horderly := by
    refine ⟨fun r body hbody => horderly r body ?_, [], .turn .start ht.toTurns⟩
    rwa [World.bodyAt, ht.heap] at hbody
  rebuild {w w'} hb horderly := by
    refine ⟨fun r body hbody => horderly r body ?_, [], .rebuild .start hb⟩
    rwa [World.bodyAt, hb.heap] at hbody

theorem follows_makes : World.Makes Follows := by
  intro w w' capsule node hadds hbody horderly
  refine ⟨fun r body hr => ?_, [.made capsule], .made .start hadds.toOwes hbody⟩
  have halloc : w'.Quiet (fun body => body = node.body)
      { w' with heap := (w'.heap.alloc node).2 } := .alloc w' rfl
  rcases halloc.new r body hr with hold | rfl
  · refine horderly r body ?_
    rwa [World.bodyAt, hadds.heap] at hold
  · exact bodyOrderly_of_capsule hbody

/-- An orderly step follows a trail. -/
theorem runStep_follows {level : Nat} {step : SessionStep} {outcome : Outcome}
    {w w' : SessionWorld} (hstep : Step.Orderly step)
    (hrun : (runStep isFile (hostAt isFile level) step).apply w = (.ok outcome, w')) :
    Follows w w' := by
  have hhost : (hostAt isFile level).Acts AnyName Follows :=
    hostAt_within follows_steady follows_lawful follows_makes
      (fun _ _ hwild horderly => absurd horderly hwild) level
  have hwithin : (runStep isFile (hostAt isFile level) step).WithinAt Follows w :=
    runStep_within follows_steady follows_lawful follows_makes hhost (hostAt_seals level) hstep w
  unfold Action.WithinAt at hwithin
  rw [hrun] at hwithin
  exact hwithin (by simp)

/-- After a step something refers to every object that is not permanent. -/
theorem mem_references_runStep {h : SessionHost} {step : SessionStep} {outcome : Outcome}
    {w w' : SessionWorld} {r : Ref} (hrun : (runStep isFile h step).apply w = (.ok outcome, w'))
    (hsome : (w'.heap.get? r).isSome) (hpermanent : w'.permanent ≤ r.id) : r ∈ w'.references := by
  rw [runStep, Action.apply_framed] at hrun
  obtain ⟨-, rfl⟩ := Prod.mk.inj hrun
  exact World.mem_references_collectAll hsome hpermanent

theorem balanced_cleared {w : SessionWorld} {deals : List Deal} (h : w.Balanced deals) :
    (cleared w).Balanced deals :=
  ⟨h.permanent_le, h.permanent_le_id, h.unique, h.known, h.once, h.held, h.free, h.alive,
    h.refs_held, h.refs_free⟩

/-- A hold is given back in the step in which its capsule goes. -/
theorem givenBack_iff {w w' : SessionWorld} {past deals : List Deal} (hpast : w.Balanced past)
    (hafter : w'.Balanced (past ++ deals)) (k : Hold) :
    (∃ deal ∈ deals, deal.givesBack k = true) ↔
      (w.Held k ∨ ∃ deal ∈ deals, deal.takes k = true) ∧ ¬w'.Held k := by
  rw [← List.countP_pos_iff, ← List.countP_pos_iff]
  have hbefore := hpast.held (k := k)
  have hbefore' := hpast.free (k := k)
  have hheld := hafter.held (k := k)
  have hfree := hafter.free (k := k)
  have honce := hafter.once k
  rw [List.countP_append, List.countP_append] at hheld hfree
  rw [List.countP_append] at honce
  by_cases hk : w.Held k <;> by_cases hk' : w'.Held k
  · -- a capsule that stays: taking it was the one deal
    have htaken := hbefore hk
    have hkept := hheld hk'
    simp only [hk, hk', true_or, not_true_eq_false, and_false, iff_false]
    omega
  · have htaken := hbefore hk
    have hgone := hfree hk'
    simp only [hk, hk', true_or, not_false_eq_true, and_true, iff_true]
    omega
  · have hnone := hbefore' hk
    have hkept := hheld hk'
    simp only [hk, hk', false_or, not_true_eq_false, and_false, iff_false]
    omega
  · -- made and gone in the step, or not made at all
    have hnone := hbefore' hk
    have hgone := hfree hk'
    simp only [hk, hk', false_or, not_false_eq_true, and_true]
    omega

/-- The books of a step, from balanced books before it. -/
theorem Stage.settled {stage : Stage} {past deals : List Deal}
    (hpast : stage.before.Balanced past) (htrail : (cleared stage.before).Trail deals stage.after)
    (hreferenced : ∀ r, (stage.after.heap.get? r).isSome → stage.after.permanent ≤ r.id →
      r ∈ stage.after.references) : stage.Settled past deals := by
  have hafter := htrail.balanced (balanced_cleared hpast)
  refine ⟨htrail, htrail.releases.trans (List.nil_append _), fun k => ?_, givenBack_iff hpast hafter,
    fun k r hk => hreferenced r ?_ (hafter.permanent_le_id hk), fun _ _ => hafter.alive,
    fun _ _ => hafter.refs_held, fun _ _ => hafter.refs_free⟩
  · have honce := hafter.once k
    by_cases hk : stage.after.Held k
    · have hheld := hafter.held hk
      omega
    · have hfree := hafter.free hk
      omega
  · obtain ⟨capsule, hcapsule, -⟩ := Option.bind_eq_some_iff.mp hk
    obtain ⟨body, hbody, -⟩ := Option.bind_eq_some_iff.mp hcapsule
    obtain ⟨node, hnode, -⟩ := Option.map_eq_some_iff.mp hbody
    exact hnode ▸ rfl

/-! ## Whole runs -/

theorem Fresh.balanced {w : SessionWorld} (h : Fresh w) : w.Balanced [] where
  permanent_le := h.permanent_le
  permanent_le_id hk := (h.unheld _ ⟨_, hk⟩).elim
  unique hk := (h.unheld _ ⟨_, hk⟩).elim
  known hdeal := absurd hdeal List.not_mem_nil
  once _ := Nat.zero_le 1
  held hk := (h.unheld _ hk).elim
  free _ := rfl
  alive {e _} hrecord := absurd ((h.lifeless e).symm.trans hrecord) (by simp)
  refs_held {e _} hrecord := absurd ((h.lifeless e).symm.trans hrecord) (by simp)
  refs_free {e _} hrecord := absurd ((h.lifeless e).symm.trans hrecord) (by simp)

/-- The deals of one step more. -/
theorem exists_extension (deals : Nat → List Deal) (m : Nat) (new : List Deal) :
    ∃ more : Nat → List Deal, (∀ n < m, more n = deals n) ∧ more m = new ∧
      ∀ n ≤ m, (List.range n).flatMap more = (List.range n).flatMap deals := by
  refine ⟨fun n => if n = m then new else deals n, fun n hn => if_neg (Nat.ne_of_lt hn), if_pos rfl,
    fun n => ?_⟩
  induction n with
  | zero => exact fun _ => rfl
  | succ n ih =>
      intro hn
      rw [List.range_succ, List.flatMap_append, List.flatMap_append, ih (by omega)]
      show _ ++ ((if n = m then new else deals n) ++ []) = _
      rw [if_neg (by omega)]
      rfl

/-- The books balance in every state of a run, after the deals of all its steps, and each step is
settled. -/
theorem Run.books {level : Nat} {w₀ w : SessionWorld} {stages : List Stage} (hfresh : Fresh w₀)
    (hrun : Run isFile level w₀ stages w) :
    WorldOrderly w ∧ ∃ deals : Nat → List Deal,
      w.Balanced ((List.range stages.length).flatMap deals) ∧
        ∀ n (stage : Stage), stages[n]? = some stage →
          stage.Settled ((List.range n).flatMap deals) (deals n) := by
  induction hrun with
  | start => exact ⟨hfresh.orderly, fun _ => [], hfresh.balanced, fun n stage h => by simp at h⟩
  | @step stages w w' step outcome _ hstep happly ih =>
      obtain ⟨horderly, deals, hbalanced, hsettled⟩ := ih
      obtain ⟨horderly', new, htrail⟩ := runStep_follows hstep happly horderly
      -- the deals of the new stage come after those that are known already
      obtain ⟨more, hbelow, hlast, hsame⟩ := exists_extension deals stages.length new
      refine ⟨horderly', more, ?_, fun n stage hstage => ?_⟩
      · rw [List.length_append, List.length_singleton, List.range_succ, List.flatMap_append,
          hsame _ (Nat.le_refl _), List.flatMap_singleton, hlast]
        exact htrail.balanced (balanced_cleared hbalanced)
      · rcases Nat.lt_trichotomy n stages.length with hlt | rfl | hgt
        · rw [hsame n (Nat.le_of_lt hlt), hbelow n hlt]
          exact hsettled n stage ((List.getElem?_append_left hlt).symm.trans hstage)
        · rw [List.getElem?_concat_length] at hstage
          cases hstage
          rw [hsame _ (Nat.le_refl _), hlast]
          exact Stage.settled hbalanced htrail fun r => mem_references_runStep happly
        · rw [List.getElem?_eq_none (by simp; omega)] at hstage
          exact absurd hstage (by simp)

/-- Every step of every run is settled: there are deals for each step so that the books of all steps
hold, each after the deals of the steps before it. -/
theorem holds_given_back_once {level : Nat} {w₀ w : SessionWorld} {stages : List Stage}
    (hfresh : Fresh w₀) (hrun : Run isFile level w₀ stages w) :
    ∃ deals : Nat → List Deal, ∀ n (stage : Stage), stages[n]? = some stage →
      stage.Settled ((List.range n).flatMap deals) (deals n) := by
  obtain ⟨-, deals, -, hsettled⟩ := hrun.books hfresh
  exact ⟨deals, hsettled⟩

/-- In every state of a session, from its start on, nothing is known of what is not there yet: no
capsule is a hold on an entity that is created later. -/
theorem Run.unforeseen {level : Nat} {fixture : Fixture} {w : SessionWorld} {stages : List Stage}
    (hends : ((Action.framed (prepare isFile (hostAt isFile level) fixture)).apply
      Memory.newWorld).1 ≠ .error .endless)
    (hrun : Run isFile level (startWorld isFile (hostAt isFile level) fixture) stages w)
    (hobject : (⟨w.heap.size⟩ : Ref) ∉ w.references) : w.Unforeseen := by
  obtain ⟨-, deals, hbalanced, -⟩ := hrun.books (fresh_startWorld hends)
  exact hbalanced.unforeseen hobject

/-! A proxy in a world with nothing else, which gets a participant, then another one, and goes. -/

/-- The built-in objects and the proxy. -/
def proxyObjects : List (Node SessionBody) :=
  Memory.Builtin.all.map (fun b => ⟨.empty, b.body⟩) ++
    [⟨.empty, .instance Memory.Builtin.object.ref none⟩]

/-- The world with these objects, in which a register keeps the proxy. -/
def proxyWorld : SessionWorld :=
  { (World.empty : SessionWorld) with
    heap := ⟨(proxyObjects.map some).toArray⟩
    permanent := Memory.Builtin.all.length
    registers := (Table.empty : Table String Ref).insert "proxy" ⟨16⟩
    provider := { Provider.State.new with initialized := true }
    bridge := { BridgeState.unbuilt with generation := 1, observed := true, initialized := true } }

theorem bare_proxyWorld : Bare proxyWorld := by
  refine ⟨fun r body hbody => ?_, fun _ => rfl, by decide⟩
  obtain ⟨node, hnode, rfl⟩ := Option.map_eq_some_iff.mp hbody
  rcases List.mem_append.mp (Heap.mem_of_get? hnode) with hbuiltin | hproxy
  · obtain ⟨b, -, rfl⟩ := List.mem_map.mp hbuiltin
    exact builtin_isPlain b
  · rw [List.mem_singleton.mp hproxy]
    trivial

/-- Creates a participant on the proxy. -/
def createStep : SessionStep := ⟨.bridge (.createParticipant (.register "proxy") 0), none⟩

/-- Lets the proxy go. -/
def dropStep : SessionStep := ⟨.host (.drop "proxy"), none⟩

/-- The world after a step. -/
def afterStep (w : SessionWorld) (step : SessionStep) : SessionWorld :=
  ((runStep (fun _ => false) (hostAt (fun _ => false) 1) step).apply (cleared w)).2

/-- The world in which the proxy has its first participant. -/
def boundWorld : SessionWorld := afterStep proxyWorld createStep

/-- The world in which it has another one. -/
def reboundWorld : SessionWorld := afterStep boundWorld createStep

/-- The steps of the proxy's life. -/
def proxyStages : List Stage :=
  [⟨proxyWorld, boundWorld⟩, ⟨boundWorld, reboundWorld⟩,
    ⟨reboundWorld, afterStep reboundWorld dropStep⟩]

theorem createStep_orderly : Step.Orderly createStep := by
  refine .mk rfl (fun operand hoperand => ?_) (fun spec hspec => absurd hspec List.not_mem_nil)
  rw [List.mem_singleton.mp hoperand]
  exact .register "proxy"

theorem dropStep_orderly : Step.Orderly dropStep :=
  .mk rfl (fun _ hoperand => absurd hoperand List.not_mem_nil)
    fun _ hspec => absurd hspec List.not_mem_nil

/-- One step more. -/
theorem Run.afterStep {stages : List Stage} {w : SessionWorld} {step : SessionStep}
    (hrun : Run (fun _ => false) 1 proxyWorld stages w) (hstep : Step.Orderly step)
    (hok : ((runStep (fun _ => false) (hostAt (fun _ => false) 1) step).apply
      (cleared w)).1.isOk = true) :
    Run (fun _ => false) 1 proxyWorld (stages ++ [⟨w, Session.afterStep w step⟩])
      (Session.afterStep w step) := by
  obtain ⟨outcome, w', happly⟩ := Action.exists_ok_of_isOk hok
  rw [Session.afterStep, happly]
  exact .step hrun hstep happly

/-- The first participant is given back when the proxy gets another one, the second when the proxy
goes. -/
theorem holds_given_back_once_proxy :
    ∃ deals : Nat → List Deal,
      (∀ n (stage : Stage), proxyStages[n]? = some stage →
        stage.Settled ((List.range n).flatMap deals) (deals n)) ∧
      (deals 1).flatMap Deal.note = [.toProvider .participant ⟨1⟩] ∧
      (deals 2).flatMap Deal.note = [.toProvider .participant ⟨2⟩] := by
  have hrun : Run (fun _ => false) 1 proxyWorld proxyStages (afterStep reboundWorld dropStep) :=
    ((Run.start.afterStep createStep_orderly (by decide +kernel)).afterStep createStep_orderly
      (by decide +kernel)).afterStep dropStep_orderly (by decide +kernel)
  obtain ⟨deals, hdeals⟩ := holds_given_back_once bare_proxyWorld.fresh hrun
  refine ⟨deals, hdeals, ?_, ?_⟩
  · exact (hdeals 1 _ rfl).noted.symm.trans (by decide +kernel)
  · exact (hdeals 2 _ rfl).noted.symm.trans (by decide +kernel)

end DdsBridge.Session
