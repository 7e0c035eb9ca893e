import DdsBridge.Bridge.Setup
import DdsBridge.Proofs.Bridge.Gate
import DdsBridge.Proofs.Host.Collect
import DdsBridge.Proofs.Provider.Cases
import DdsBridge.Proofs.Success

/-!
# Settings that arrive

The bridge appends its options to the user's own arguments, and the provider reads the list as one.
What it makes of an argument depends on what the arguments before it left behind: the settings so
far, and the flag of which this argument is the value. So the options arrive as they were given
unless the user's arguments end with a flag that has no value. That flag then takes the first
argument of the options, which is a flag itself, and its setting is lost.

* **`InitArgs.Reading`**, **`InitArgs.Reading.feed`** — the reader between two arguments.
* **`InitArgs.parseFrom_eq`** — the provider's reader feeds itself one argument after the other.
* **`InitArgs.openFlag`** — the flag without a value at the end of some arguments.
* **`InitArgs.parse_toArgs`** — options after arguments that leave no flag open.
* **`InitArgs.parse_toArgs_of_open`** — options after arguments that do.
* **`Bridge.init_settings`** — what a bridge's initialization leaves in the provider.
-/

namespace DdsBridge

namespace InitArgs

variable {isFile : String → Bool}

/-! ## The reader, one argument at a time -/

/-- The reader between two arguments: what it understood so far, and the flag that the next argument
is the value of. -/
structure Reading where
  parsed : InitArgs
  flag : Option String

namespace Reading

/-- Reads an argument. -/
def feed (isFile : String → Bool) (x : Reading) (arg : String) : Except ReturnCode Reading :=
  match x.flag with
  | none => .ok ⟨x.parsed, if skipsValue arg then some arg else none⟩
  | some flag =>
    if flag = debugLevelFlag then
      match parseLevel arg with
      | none => .error .badParameter
      | some level =>
        if maxDebugLevel < level then .error .badParameter
        else .ok ⟨{ x.parsed with debugLevel := some level }, none⟩
    else if flag = configFileFlag then
      if isFile arg then .ok ⟨{ x.parsed with configFile := some arg }, none⟩
      else .error .preconditionNotMet
    else .ok ⟨x.parsed, none⟩

/-- Comes to the end of the arguments: the two flags that are understood must not be left without a
value. -/
def finish (x : Reading) : Except ReturnCode InitArgs :=
  if x.flag = some debugLevelFlag ∨ x.flag = some configFileFlag then .error .badParameter
  else .ok x.parsed

end Reading

theorem skipsValue_debugLevelFlag : skipsValue debugLevelFlag = true := by decide +kernel

theorem skipsValue_configFileFlag : skipsValue configFileFlag = true := by decide +kernel

theorem parseLevel_debugLevelFlag : parseLevel debugLevelFlag = none := by decide +kernel

theorem parseLevel_configFileFlag : parseLevel configFileFlag = none := by decide +kernel

/-- A level that the writer lets through is read back. -/
theorem parseLevel_toString {level : Int} (hleast : 0 ≤ level) (hgreatest : level ≤ maxDebugLevel) :
    parseLevel (toString level) = some level.toNat ∧ skipsValue (toString level) = false := by
  have hlevels : ∀ n : Nat, n ≤ 10 →
      parseLevel (toString (n : Int)) = some n ∧ skipsValue (toString (n : Int)) = false := by
    decide +kernel
  obtain ⟨n, rfl⟩ := Int.eq_ofNat_of_zero_le hleast
  exact hlevels n (by change (n : Int) ≤ 10 at hgreatest; omega)

namespace Reading

theorem feed_flag {parsed : InitArgs} {arg : String} (h : skipsValue arg = true) :
    feed isFile ⟨parsed, none⟩ arg = .ok ⟨parsed, some arg⟩ := by
  simp only [feed, if_pos h]

theorem feed_other {parsed : InitArgs} {arg : String} (h : ¬skipsValue arg = true) :
    feed isFile ⟨parsed, none⟩ arg = .ok ⟨parsed, none⟩ := by
  simp only [feed, if_neg h]

theorem feed_skipped {parsed : InitArgs} {flag arg : String} (hlevel : ¬flag = debugLevelFlag)
    (hfile : ¬flag = configFileFlag) : feed isFile ⟨parsed, some flag⟩ arg = .ok ⟨parsed, none⟩ := by
  simp only [feed, if_neg hlevel, if_neg hfile]

theorem feed_path {parsed : InitArgs} {path : String} :
    feed isFile ⟨parsed, some configFileFlag⟩ path =
      if isFile path then .ok ⟨{ parsed with configFile := some path }, none⟩
      else .error .preconditionNotMet := by
  simp only [feed, if_neg (show ¬configFileFlag = debugLevelFlag by decide), if_true]

theorem feed_level {parsed : InitArgs} {text : String} {level : Nat}
    (htext : parseLevel text = some level) (hlevel : ¬maxDebugLevel < level) :
    feed isFile ⟨parsed, some debugLevelFlag⟩ text =
      .ok ⟨{ parsed with debugLevel := some level }, none⟩ := by
  simp only [feed, htext, if_true, if_neg hlevel]

end Reading

open Reading

/-- The provider's reader feeds itself one argument after the other. -/
theorem parseFrom_eq (parsed : InitArgs) (args : List String) :
    parseFrom isFile parsed args = args.foldlM (feed isFile) ⟨parsed, none⟩ >>= finish := by
  -- a flag and its value are two steps of the fold, and a case of the reader
  fun_induction parseFrom isFile parsed args with
  | case1 => rfl
  | case2 parsed =>
      simp only [List.foldlM_cons, List.foldlM_nil, feed_flag skipsValue_debugLevelFlag, ok_bind]
      rfl
  | case3 parsed value rest hvalue =>
      simp only [List.foldlM_cons, feed_flag skipsValue_debugLevelFlag, ok_bind]
      simp [feed, hvalue, error_bind]
  | case4 parsed value rest level hvalue hlevel =>
      simp only [List.foldlM_cons, feed_flag skipsValue_debugLevelFlag, ok_bind]
      simp [feed, hvalue, hlevel, error_bind]
  | case5 parsed value rest level hvalue hlevel ih =>
      simp only [List.foldlM_cons, feed_flag skipsValue_debugLevelFlag, feed_level hvalue hlevel,
        ok_bind, ih]
  | case6 parsed =>
      simp only [List.foldlM_cons, List.foldlM_nil, feed_flag skipsValue_configFileFlag, ok_bind]
      rfl
  | case7 parsed path rest hpath _ ih =>
      simp only [List.foldlM_cons, feed_flag skipsValue_configFileFlag, feed_path, if_pos hpath,
        ok_bind, ih]
  | case8 parsed path rest hpath =>
      simp only [List.foldlM_cons, feed_flag skipsValue_configFileFlag, feed_path, if_neg hpath,
        ok_bind, error_bind]
  | case9 parsed flag hlevel hfile hskips =>
      simp only [List.foldlM_cons, List.foldlM_nil, feed_flag hskips, ok_bind]
      simp [pure, Except.pure, ok_bind, finish, hlevel, hfile]
  | case10 parsed flag hlevel hfile hskips value rest ih =>
      simp only [List.foldlM_cons, feed_flag hskips, feed_skipped hlevel hfile, ok_bind, ih]
  | case11 parsed arg rest _ _ hskips ih =>
      simp only [List.foldlM_cons, feed_other hskips, ok_bind, ih]

/-! ## The flag that is left open -/

/-- The flag that waits for its value after one more argument. -/
def nextFlag (flag : Option String) (arg : String) : Option String :=
  match flag with
  | none => if skipsValue arg then some arg else none
  | some _ => none

/-- The flag at the end of some arguments that has no value. -/
def openFlag (args : List String) : Option String := args.foldl nextFlag none

theorem openFlag_concat (args : List String) (arg : String) :
    openFlag (args ++ [arg]) = nextFlag (openFlag args) arg := by
  rw [openFlag, List.foldl_append]
  rfl

/-- An open flag is the last argument, and takes no value from the arguments before it. -/
theorem eq_concat_of_openFlag {args : List String} {flag : String}
    (h : openFlag args = some flag) :
    args = args.dropLast ++ [flag] ∧ openFlag args.dropLast = none ∧ skipsValue flag = true := by
  rcases List.eq_nil_or_concat args with rfl | ⟨front, arg, rfl⟩
  · cases h
  · rw [List.concat_eq_append, openFlag_concat] at h
    rw [List.concat_eq_append, List.dropLast_concat]
    cases hfront : openFlag front with
    | some _ => rw [hfront] at h; cases h
    | none =>
        rw [hfront, nextFlag] at h
        split at h
        · rename_i hskips
          cases h
          exact ⟨rfl, rfl, hskips⟩
        · cases h

theorem Reading.flag_feed {x y : Reading} {arg : String} (h : x.feed isFile arg = .ok y) :
    y.flag = nextFlag x.flag arg := by
  obtain ⟨parsed, _ | flag⟩ := x
  · cases h
    rfl
  · simp only [feed] at h
    split at h
    · split at h
      · cases h
      · split at h
        · cases h
        · cases h
          rfl
    · split at h
      · split at h
        · cases h
          rfl
        · cases h
      · cases h
        rfl

theorem flag_foldlM {args : List String} {x y : Reading}
    (h : args.foldlM (Reading.feed isFile) x = .ok y) : y.flag = args.foldl nextFlag x.flag := by
  induction args generalizing x with
  | nil =>
      cases h
      rfl
  | cons arg rest ih =>
      rw [List.foldlM_cons] at h
      obtain ⟨next, hnext, hrest⟩ := bind_eq_ok_iff.mp h
      rw [ih hrest, Reading.flag_feed hnext, List.foldl_cons]

/-- Arguments that leave no flag open are read without regard to what follows them. -/
theorem parse_append {args : List String} (h : openFlag args = none) (more : List String) :
    parse isFile (args ++ more) = parse isFile args >>= fun own => parseFrom isFile own more := by
  rw [parse, parseFrom_eq, List.foldlM_append, parse, parseFrom_eq]
  -- the first part hands its settings over, and no flag
  cases hread : args.foldlM (Reading.feed isFile) ⟨{}, none⟩ with
  | error code => rfl
  | ok x =>
      obtain ⟨own, flag⟩ := x
      have hflag : flag = none := (flag_foldlM hread).trans h
      subst hflag
      exact (parseFrom_eq own more).symm

/-! ## What the options append -/

theorem parseFrom_level {parsed : InitArgs} {text : String} {level : Nat} (rest : List String)
    (htext : parseLevel text = some level) (hlevel : ¬maxDebugLevel < level) :
    parseFrom isFile parsed (debugLevelFlag :: text :: rest) =
      parseFrom isFile { parsed with debugLevel := some level } rest := by
  simp only [parseFrom_eq, List.foldlM_cons, feed_flag skipsValue_debugLevelFlag,
    feed_level htext hlevel, ok_bind]

theorem parseFrom_path (parsed : InitArgs) (path : String) (rest : List String) :
    parseFrom isFile parsed (configFileFlag :: path :: rest) =
      if isFile path then parseFrom isFile { parsed with configFile := some path } rest
      else .error .preconditionNotMet := by
  simp only [parseFrom_eq, List.foldlM_cons, feed_flag skipsValue_configFileFlag, feed_path, ok_bind]
  split
  · rfl
  · rfl

end InitArgs

/-- What was understood of the user's own arguments together with what the options ask for. -/
def InitOptions.settle (isFile : String → Bool) (options : InitOptions) (own : InitArgs) :
    Except ReturnCode InitArgs :=
  let level := options.debugLevel.map Int.toNat <|> own.debugLevel
  match options.configPath with
  | none => .ok { own with debugLevel := level }
  | some path => if isFile path then .ok ⟨level, some path⟩ else .error .preconditionNotMet

namespace InitArgs

open Reading

variable {options : InitOptions} {args : List String}

/-- What the bridge writes. -/
theorem toArgs_eq_ok (h : options.toArgs = .ok args) :
    (options.debugLevel = none ∧ args = options.args ++ InitOptions.configFileArgs options.configPath) ∨
      ∃ level, options.debugLevel = some level ∧ 0 ≤ level ∧ level ≤ maxDebugLevel ∧
        args = options.args ++
          (debugLevelFlag :: toString level :: InitOptions.configFileArgs options.configPath) := by
  obtain ⟨written, hwritten, hargs⟩ := bind_eq_ok_iff.mp h
  have hargs := pure_eq_ok_iff.mp hargs
  cases hlevel : options.debugLevel with
  | none =>
      rw [hlevel] at hwritten
      cases hwritten
      exact .inl ⟨rfl, by rw [← hargs, List.append_nil]⟩
  | some level =>
      rw [hlevel, InitOptions.debugLevelArgs] at hwritten
      split at hwritten
      · rename_i hrange
        cases hwritten
        exact .inr ⟨level, rfl, hrange.1, hrange.2, by rw [← hargs, List.append_assoc]; rfl⟩
      · cases hwritten

theorem nonneg_of_toArgs {level : Int} (h : options.toArgs = .ok args)
    (hlevel : options.debugLevel = some level) : 0 ≤ level := by
  rcases toArgs_eq_ok h with ⟨hnone, -⟩ | ⟨found, hsome, hleast, -, -⟩
  · rw [hlevel] at hnone
    cases hnone
  · rw [hlevel] at hsome
    cases hsome
    exact hleast

/-- A file of the options is read back. -/
theorem parseFrom_configFileArgs (own : InitArgs) (path : Option String) :
    parseFrom isFile own (InitOptions.configFileArgs path) =
      match path with
      | none => .ok own
      | some path =>
        if isFile path then .ok { own with configFile := some path }
        else .error .preconditionNotMet := by
  cases path with
  | none => rfl
  | some path => exact parseFrom_path own path []

/-- Options after arguments that leave no flag open are read as they were written. -/
theorem parse_toArgs (hopen : openFlag options.args = none) (hargs : options.toArgs = .ok args) :
    parse isFile args = parse isFile options.args >>= options.settle isFile := by
  rcases toArgs_eq_ok hargs with ⟨hnone, rfl⟩ | ⟨level, hsome, hleast, hgreatest, rfl⟩
  · rw [parse_append hopen]
    refine congrArg (_ >>= ·) (funext fun own => ?_)
    rw [parseFrom_configFileArgs, InitOptions.settle, hnone]
    rfl
  · rw [parse_append hopen]
    refine congrArg (_ >>= ·) (funext fun own => ?_)
    have hcast : ¬maxDebugLevel < (level.toNat : Int) := by omega
    rw [parseFrom_level _ (parseLevel_toString hleast hgreatest).1 hcast, parseFrom_configFileArgs,
      InitOptions.settle, hsome]
    rfl

theorem parseFrom_other {own : InitArgs} {arg : String} (h : skipsValue arg = false)
    (rest : List String) : parseFrom isFile own (arg :: rest) = parseFrom isFile own rest := by
  rw [parseFrom_eq, List.foldlM_cons, Reading.feed_other (by rw [h]; decide), ok_bind, ← parseFrom_eq]

/-- What the options ask for is what was understood. -/
theorem settle_eq_ok {own parsed : InitArgs} (h : options.settle isFile own = .ok parsed) :
    (∀ level, options.debugLevel = some level → parsed.debugLevel = some level.toNat) ∧
      ∀ path, options.configPath = some path → parsed.configFile = some path := by
  rw [InitOptions.settle] at h
  cases hpath : options.configPath with
  | none =>
      rw [hpath] at h
      cases h
      exact ⟨fun level hlevel => by rw [hlevel]; rfl, fun _ h => by cases h⟩
  | some path =>
      rw [hpath] at h
      dsimp only at h
      split at h
      · cases h
        exact ⟨fun level hlevel => by rw [hlevel]; rfl, fun _ h => h⟩
      · cases h

/-- A flag that was left open takes the flag of the first option for its value. -/
theorem parseFrom_open {own parsed : InitArgs} {flag arg : String} {rest : List String}
    (hskips : skipsValue flag = true) (harg : parseLevel arg = none)
    (h : parseFrom isFile own (flag :: arg :: rest) = .ok parsed) :
    parseFrom isFile
      { own with configFile := if flag = configFileFlag then some arg else own.configFile }
      rest = .ok parsed := by
  rw [parseFrom_eq, List.foldlM_cons, feed_flag hskips, ok_bind, List.foldlM_cons] at h
  by_cases hlevel : flag = debugLevelFlag
  · simp only [feed, if_pos hlevel, harg, error_bind] at h
    cases h
  · by_cases hfile : flag = configFileFlag
    · rw [hfile, feed_path] at h
      rw [if_pos hfile]
      split at h
      · rwa [ok_bind, ← parseFrom_eq] at h
      · cases h
    · rw [feed_skipped hlevel hfile, ok_bind, ← parseFrom_eq] at h
      rwa [if_neg hfile]

theorem eq_of_parseFrom_one {own parsed : InitArgs} {arg : String}
    (h : parseFrom isFile own [arg] = .ok parsed) : parsed = own := by
  rw [parseFrom_eq, List.foldlM_cons] at h
  by_cases hskips : skipsValue arg = true
  · rw [feed_flag hskips, ok_bind, List.foldlM_nil, pure_bind, finish] at h
    split at h
    · cases h
    · cases h
      rfl
  · rw [feed_other hskips] at h
    cases h
    rfl

/-- Options after arguments that leave a flag open: the first setting is lost. -/
theorem parse_toArgs_of_open {flag : String} {parsed : InitArgs}
    (hopen : openFlag options.args = some flag) (hargs : options.toArgs = .ok args)
    (h : parse isFile args = .ok parsed) :
    ∃ own, parse isFile options.args.dropLast = .ok own ∧ parsed.debugLevel = own.debugLevel ∧
      ∀ path, options.configPath = some path → parsed.configFile =
        if options.debugLevel.isSome then some path
        else if flag = configFileFlag then some configFileFlag else own.configFile := by
  obtain ⟨hlast, hfront, hskips⟩ := eq_concat_of_openFlag hopen
  have hread : ∀ more, parse isFile (options.args ++ more) = .ok parsed →
      ∃ own, parse isFile options.args.dropLast = .ok own ∧
        parseFrom isFile own (flag :: more) = .ok parsed := by
    intro more hmore
    rw [hlast, List.append_assoc, parse_append hfront] at hmore
    exact bind_eq_ok_iff.mp hmore
  rcases toArgs_eq_ok hargs with ⟨hnone, rfl⟩ | ⟨level, hsome, hleast, hgreatest, rfl⟩
  · obtain ⟨own, hown, hparsed⟩ := hread _ h
    refine ⟨own, hown, ?_⟩
    rw [hnone]
    cases hpath : options.configPath with
    | none =>
        rw [hpath] at hparsed
        cases eq_of_parseFrom_one hparsed
        exact ⟨rfl, fun _ h => by cases h⟩
    | some path =>
        rw [hpath] at hparsed
        cases eq_of_parseFrom_one (parseFrom_open hskips parseLevel_configFileFlag hparsed)
        exact ⟨rfl, fun _ _ => rfl⟩
  · obtain ⟨own, hown, hparsed⟩ := hread _ h
    refine ⟨own, hown, ?_⟩
    have hrest := parseFrom_open hskips parseLevel_debugLevelFlag hparsed
    -- the level itself is then an argument that means nothing
    rw [parseFrom_other (parseLevel_toString hleast hgreatest).2, parseFrom_configFileArgs] at hrest
    rw [hsome]
    cases hpath : options.configPath with
    | none =>
        rw [hpath] at hrest
        cases hrest
        exact ⟨rfl, fun _ h => by cases h⟩
    | some path =>
        rw [hpath] at hrest
        dsimp only at hrest
        split at hrest
        · cases hrest
          exact ⟨rfl, fun _ h => h⟩
        · cases hrest

end InitArgs

namespace Bridge

variable {B : Type} {isFile : String → Bool} {options : InitOptions} {w w' : World B}

theorem advance_settings (w : World B) (s : Provider.State) :
    (w.advance s).provider.debugLevel = s.debugLevel ∧
      (w.advance s).provider.configFile = s.configFile := by
  obtain ⟨pending, events, ended, waits, hadvance⟩ := w.advance_eq s
  obtain ⟨waitSets, hleave⟩ := ({ s with calls := [] } : Provider.State).leaveAll_eq ended
  rw [hadvance]
  dsimp only
  rw [hleave]
  exact ⟨rfl, rfl⟩

/-- A provider that takes its arguments has the settings it understood, and the old ones beside. -/
theorem fetch_init_eq_ok {args : List String}
    (h : (Gate.fetch .init (·.init isFile args) : BridgeAction B (Except ReturnCode Unit)).apply w =
      (.ok (.ok ()), w')) :
    ∃ parsed, InitArgs.parse isFile args = .ok parsed ∧
      w'.provider.debugLevel = parsed.debugLevel.getD w.provider.debugLevel ∧
      w'.provider.configFile = (parsed.configFile <|> w.provider.configFile) := by
  rw [Gate.fetch_apply] at h
  cases hfault : Gate.takeFault .init w.faults with
  | some found => rw [hfault] at h; cases h
  | none =>
      rw [hfault] at h
      dsimp only at h
      generalize hinit : w.provider.init isFile args = result at h
      obtain ⟨_ | u, s⟩ := result
      · cases h
      · obtain ⟨parsed, hparsed, hs⟩ := Provider.State.init_eq_ok hinit
        have hw : w.advance s = w' := congrArg Prod.snd h
        obtain ⟨hlevel, hfile⟩ := advance_settings w s
        rw [← hw, hlevel, hfile, hs]
        exact ⟨parsed, hparsed, rfl, rfl⟩

/-- The transport is installed beside the settings. -/
theorem installTransport_settings {wanted : Bool}
    (h : (installTransport wanted : BridgeAction B Unit).apply w = (.ok (), w')) :
    w'.provider.debugLevel = w.provider.debugLevel ∧
      w'.provider.configFile = w.provider.configFile := by
  cases wanted with
  | false =>
      cases h
      exact ⟨rfl, rfl⟩
  | true =>
      obtain ⟨code, w₁, hrun, h⟩ := Action.apply_bind_eq_ok_iff.mp h
      have hw : w' = w₁ := by
        cases hcode : code.isOk <;> rw [hcode] at h <;> cases h
        rfl
      subst hw
      rw [Gate.run_apply] at hrun
      cases hfault : Gate.takeFault .installDefaultRtps w.faults with
      | some found =>
          -- a fault was injected, and the provider is not asked
          rw [hfault] at hrun
          cases hrun
          exact ⟨rfl, rfl⟩
      | none =>
          rw [hfault] at hrun
          dsimp only at hrun
          generalize hinstall : w.provider.installRtps = result at hrun
          obtain ⟨_ | u, s⟩ := result
          · cases hrun
            obtain rfl : s = w.provider := by
              simpa [hinstall] using w.provider.installRtps_keeps code
            exact advance_settings w w.provider
          · cases hrun
            obtain ⟨-, rfl⟩ := Provider.State.installRtps_eq_ok hinstall
            exact advance_settings w _

/-- An initialization that succeeds hands its arguments to the provider, which understands them. -/
theorem init_eq_ok (hrun : (init isFile options : BridgeAction B Unit).apply w = (.ok (), w')) :
    ∃ args parsed, options.toArgs = .ok args ∧ InitArgs.parse isFile args = .ok parsed ∧
      w'.provider.debugLevel = parsed.debugLevel.getD w.provider.debugLevel ∧
      w'.provider.configFile = (parsed.configFile <|> w.provider.configFile) := by
  obtain ⟨args, w₀, hwritten, hrest⟩ := Action.apply_bind_eq_ok_iff.mp hrun
  obtain ⟨hwritten, rfl⟩ := Action.apply_ofExcept_eq_ok hwritten
  have hargs : options.toArgs = .ok args := by
    cases htoArgs : options.toArgs <;> rw [htoArgs] at hwritten <;> cases hwritten
    rfl
  obtain ⟨answer, w₁, hinit, hrest⟩ := Action.apply_bind_eq_ok_iff.mp hrest
  obtain ⟨_, w₂, hfactory, hsettled⟩ := Action.apply_bind_eq_ok_iff.mp hrest
  obtain ⟨_, w₃, htransport, hdone⟩ := Action.apply_bind_eq_ok_iff.mp hsettled
  cases answer with
  | error code => cases hfactory
  | ok =>
      have hw₂ : w₁ = w₂ := congrArg Prod.snd hfactory
      have hw' : w'.provider = w₃.provider := congrArg (·.2.provider) hdone.symm
      obtain ⟨parsed, hparsed, hlevel, hfile⟩ := fetch_init_eq_ok hinit
      obtain ⟨hlevel', hfile'⟩ := installTransport_settings htransport
      rw [hw', hlevel', hfile', ← hw₂]
      exact ⟨args, parsed, hargs, hparsed, hlevel, hfile⟩

/-- The options are appended to the user's arguments and read back from behind them, if these leave
no flag open; the settings they ask for are then those of the provider. Where a flag is left open the
first of the options is lost: the debug level stays the one of the arguments before that flag, and
the file counts only if a level stood before it. -/
theorem init_settings (h : (init isFile options : BridgeAction B Unit).apply w = (.ok (), w')) :
    (InitArgs.openFlag options.args = none →
      (∀ args, options.toArgs = .ok args → InitArgs.parse isFile args =
        InitArgs.parse isFile options.args >>= options.settle isFile) ∧
      (∀ level, options.debugLevel = some level → (w'.provider.debugLevel : Int) = level) ∧
      ∀ path, options.configPath = some path → w'.provider.configFile = some path) ∧
    ∀ flag, InitArgs.openFlag options.args = some flag →
      ∃ own, InitArgs.parse isFile options.args.dropLast = .ok own ∧
        w'.provider.debugLevel = own.debugLevel.getD w.provider.debugLevel ∧
        ∀ path, options.configPath = some path → w'.provider.configFile =
          if options.debugLevel.isSome then some path
          else if flag = configFileFlag then some configFileFlag
          else own.configFile <|> w.provider.configFile := by
  obtain ⟨args, parsed, hargs, hparsed, hlevel, hfile⟩ := init_eq_ok h
  refine ⟨fun hopen => ⟨fun _ => InitArgs.parse_toArgs hopen, ?_⟩, fun flag hopen => ?_⟩
  · rw [InitArgs.parse_toArgs hopen hargs] at hparsed
    obtain ⟨own, -, hsettle⟩ := bind_eq_ok_iff.mp hparsed
    obtain ⟨hsetLevel, hsetFile⟩ := InitArgs.settle_eq_ok hsettle
    refine ⟨fun level hsome => ?_, fun path hpath => ?_⟩
    · rw [hlevel, hsetLevel level hsome, Option.getD_some]
      exact Int.toNat_of_nonneg (InitArgs.nonneg_of_toArgs hargs hsome)
    · rw [hfile, hsetFile path hpath]
      rfl
  · obtain ⟨own, hown, hownLevel, hownFile⟩ := InitArgs.parse_toArgs_of_open hopen hargs hparsed
    refine ⟨own, hown, by rw [hlevel, hownLevel], fun path hpath => ?_⟩
    rw [hfile, hownFile path hpath]
    split
    · rfl
    · split
      · rfl
      · rfl

/-- A log file, a debug level and a configuration file. -/
def loggedOptions : InitOptions where
  args := ["-ORBLogFile", "dds.log"]
  debugLevel := some 4
  configFile := some (Text.Utf8.encode "rtps.ini")

/-- The log file's flag has its value, so the level and the file arrive. -/
theorem init_settings_logged : InitArgs.openFlag loggedOptions.args = none ∧ ∃ w',
    (init (· == "rtps.ini") loggedOptions : BridgeAction Unit Unit).apply .empty = (.ok (), w') ∧
      w'.provider.debugLevel = 4 ∧ w'.provider.configFile = some "rtps.ini" := by
  obtain ⟨⟨⟩, w', hrun⟩ := Action.exists_ok_of_isOk (show ((init (· == "rtps.ini") loggedOptions :
    BridgeAction Unit Unit).apply .empty).1.isOk = true by decide +kernel)
  have hopen : InitArgs.openFlag loggedOptions.args = none := by decide +kernel
  obtain ⟨-, hlevel, hfile⟩ := (init_settings hrun).1 hopen
  exact ⟨hopen, w', hrun, by exact_mod_cast hlevel 4 rfl, hfile "rtps.ini" (by decide +kernel)⟩

/-- A debug level behind a flag without a value. -/
def swallowedOptions : InitOptions where
  args := ["-ORBVerboseLogging"]
  debugLevel := some 4

/-- The initialization succeeds and the level is not set. -/
theorem init_drops_level : swallowedOptions.debugLevel = some 4 ∧ ∃ w',
    (init (fun _ => false) swallowedOptions : BridgeAction Unit Unit).apply .empty = (.ok (), w') ∧
      w'.provider.debugLevel = 0 := by
  obtain ⟨⟨⟩, w', hrun⟩ := Action.exists_ok_of_isOk (show ((init (fun _ => false) swallowedOptions :
    BridgeAction Unit Unit).apply .empty).1.isOk = true by decide +kernel)
  have hlevel : ((init (fun _ => false) swallowedOptions :
    BridgeAction Unit Unit).apply .empty).2.provider.debugLevel = 0 := by decide +kernel
  rw [hrun] at hlevel
  exact ⟨rfl, w', hrun, hlevel⟩

end Bridge

end DdsBridge
