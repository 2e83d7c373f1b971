import Paging.Proofs.Command.Pausing
import Paging.Proofs.Command.Variable

/-!
# Settings moved across the subcommand

An option that gives a setting may stand ahead of the subcommand or after it.  Either way it puts
the setting to what is given at its level, and once both levels are ended it makes no difference to
which (`settings_crossing`, `ends_crossing`).  So the same is asked (`asked?_crossing`), and with
what is known of the variable this says that settings count wherever they are given
(`settings_wherever_given`).
-/

namespace Paging.Command

/-! ### Across the subcommand -/

/-- A command line with a place for an option ahead of the subcommand and one after it. -/
structure Crossing where
  setting : Setting
  option : List String
  command : Subcommand
  /-- The words ahead of the subcommand, up to the place and from there. -/
  front : List String × List String
  /-- The words after the subcommand, up to the place and from there. -/
  back : List String × List String
  deriving DecidableEq, Repr

namespace Crossing

variable (x : Crossing)

def without : List String :=
  x.front.1 ++ (x.front.2 ++ x.command.name :: (x.back.1 ++ x.back.2))

def ahead : List String :=
  x.front.1 ++ (x.option ++ (x.front.2 ++ x.command.name :: (x.back.1 ++ x.back.2)))

def behind : List String :=
  x.front.1 ++ (x.front.2 ++ x.command.name :: (x.back.1 ++ (x.option ++ x.back.2)))

/-- The option gives the setting, both places are between options, and the setting is given nowhere
else. -/
structure Valid : Prop where
  written : x.setting.IsWritten x.option
  front : pauses none false x.front.1 = true ∧ pauses none false x.front.2 = true
  back : pauses (some x.command) false x.back.1 = true
  once : ∀ t ∈ settingsIn x.without, t.parameter ≠ x.setting.parameter

end Crossing

/-- A setting that is given at one level only counts as much at the other. -/
theorem settings_crossing {s : Setting} {g g' : Given} (hg : g.has s.parameter = false)
    (hg' : g'.has s.parameter = false) (env : Environment) :
    settings env (s.on g) g' = settings env g (s.on g') := by
  cases s with
  | strict => simp [settings, Setting.on, Given.withStrict]
  | filter text =>
    have hlog : g.log = none := by simpa [Setting.parameter, Given.has] using hg
    have hlog' : g'.log = none := by simpa [Setting.parameter, Given.has] using hg'
    simp [settings, Setting.on, Given.withLog, hlog, hlog']

theorem requestOf_on (s : Setting) (g : Given) (c : Subcommand) :
    requestOf (s.on g) c = requestOf g c := by
  cases s with
  | strict => cases c <;> rfl
  | filter text => exact requestOf_withLog (some text) g c

/-- Whether a level is ended: it has the flag, or the environment can be read. -/
def Given.ends (env : Environment) (g : Given) : Bool :=
  g.strict || env.asksStrict.toOption.isSome

theorem ended?_eq (env : Environment) (g : Given) :
    g.ended? env = if g.ends env then some g else none := by
  unfold Given.ended? Given.ends
  cases g.strict
  · cases env.asksStrict <;> rfl
  · rfl

/-- The environment is looked at once, wherever the setting is given. -/
theorem ends_crossing {s : Setting} {g g' : Given} (hg : g.has s.parameter = false)
    (hg' : g'.has s.parameter = false) (env : Environment) :
    ((s.on g).ends env && g'.ends env) = (g.ends env && (s.on g').ends env) := by
  cases s with
  | strict =>
    have hstrict : g.strict = false := hg
    have hstrict' : g'.strict = false := hg'
    simp [Given.ends, Setting.on, Given.withStrict, hstrict, hstrict']
  | filter text => rfl

/-- What is asked, told by what is given at both levels. -/
theorem asked?_of_levels {args ws : List String} {c : Subcommand} {g g' : Given} {cut : Cut}
    (h : level? none args = some (g, some (c, ws))) (h' : level? (some c) ws = some (g', cut))
    (env : Environment) : asked? args env =
      if g.ends env && g'.ends env then (requestOf g' c).toOption.map (settings env g g', ·)
      else none := by
  rw [asked?, h]
  dsimp only [Option.bind_some]
  rw [askedOf?, h']
  dsimp only [Option.bind_some]
  rw [ended?_eq, ended?_eq]
  cases g'.ends env with
  | false => cases g.ends env <;> rfl
  | true =>
    show ((requestOf g' c).toOption.map (g', ·)).bind _ = _
    cases requestOf g' c <;> cases g.ends env <;> rfl

theorem asked?_of_level?_eq_none {args : List String} (h : level? none args = none)
    (env : Environment) : asked? args env = none := by
  rw [asked?, h]
  rfl

theorem asked?_of_back_eq_none {args ws : List String} {c : Subcommand} {g : Given}
    (h : level? none args = some (g, some (c, ws))) (h' : level? (some c) ws = none)
    (env : Environment) : asked? args env = none := by
  rw [asked?, h]
  dsimp only [Option.bind_some]
  rw [askedOf?, h']
  rfl

theorem has_parameter_eq_false {s : Setting} {g : Given} {ts : List Setting}
    (hstrict : g.strict = true ↔ .strict ∈ ts) (hlog : g.log = lastFilter? ts)
    (honce : ∀ t ∈ ts, t.parameter ≠ s.parameter) : g.has s.parameter = false := by
  cases s with
  | strict =>
    apply Bool.eq_false_iff.mpr
    intro h
    exact honce .strict (hstrict.mp h) rfl
  | filter text =>
    have hnone : lastFilter? ts = none := by
      rw [lastFilter?, List.getLast?_eq_none_iff, List.filterMap_eq_nil_iff]
      intro t ht
      cases t with
      | strict => rfl
      | filter v => exact (honce _ ht rfl).elim
    show g.log.isSome = false
    rw [hlog, hnone]
    rfl

/-- **A setting may be given on either side of the subcommand.** -/
theorem asked?_crossing {x : Crossing} (hx : x.Valid) (env : Environment) :
    asked? x.ahead env = asked? x.behind env := by
  have hfront : pauses none false (x.front.1 ++ x.front.2) = true :=
    pauses_append hx.front.1 hx.front.2
  have hahead : level? none x.ahead = (level? none (x.front.1 ++ x.front.2)).map
      fun y => (x.setting.on y.1, some (x.command, x.back.1 ++ x.back.2)) := by
    rw [Crossing.ahead, level?_insert hx.front.1 hx.written hx.once, ← List.append_assoc,
      level?_call hfront, Option.map_map]
    rfl
  have hbehind : level? none x.behind = (level? none (x.front.1 ++ x.front.2)).map
      fun y => (y.1, some (x.command, x.back.1 ++ (x.option ++ x.back.2))) := by
    rw [Crossing.behind, ← List.append_assoc, level?_call hfront]
  cases hlevel : level? none (x.front.1 ++ x.front.2) with
  | none =>
    rw [hlevel] at hahead hbehind
    rw [asked?_of_level?_eq_none hahead, asked?_of_level?_eq_none hbehind]
  | some y =>
    obtain ⟨g, cut⟩ := y
    rw [hlevel] at hahead hbehind
    have hwithout : level? none x.without =
        some (g, some (x.command, x.back.1 ++ x.back.2)) := by
      rw [Crossing.without, ← List.append_assoc, level?_call hfront, hlevel]
      rfl
    obtain ⟨ts, hts, hstrict, hlog⟩ := settings_of_level? hwithout
    have honce := hx.once
    rw [hts] at honce
    have hback : level? (some x.command) (x.back.1 ++ (x.option ++ x.back.2)) =
        (level? (some x.command) (x.back.1 ++ x.back.2)).map fun y => (x.setting.on y.1, y.2) :=
      level?_insert hx.back hx.written fun t ht => honce t (List.mem_append_right _ ht)
    cases hlevel' : level? (some x.command) (x.back.1 ++ x.back.2) with
    | none =>
      rw [hlevel'] at hback
      rw [asked?_of_back_eq_none hahead hlevel', asked?_of_back_eq_none hbehind hback]
    | some y =>
      obtain ⟨g', cut'⟩ := y
      rw [hlevel'] at hback
      obtain rfl := cut_eq_none hlevel'
      obtain ⟨us, hus, hstrict', hlog'⟩ := settings_of_level? hlevel'
      have hbacks : Cut.settings (some (x.command, x.back.1 ++ x.back.2)) = us :=
        hus.trans (List.append_nil us)
      rw [hbacks] at honce
      have hg : g.has x.setting.parameter = false :=
        has_parameter_eq_false hstrict hlog fun t ht => honce t (List.mem_append_left _ ht)
      have hg' : g'.has x.setting.parameter = false :=
        has_parameter_eq_false hstrict' hlog' fun t ht => honce t (List.mem_append_right _ ht)
      rw [asked?_of_levels hahead hlevel', asked?_of_levels hbehind hback, ends_crossing hg hg',
        settings_crossing hg hg', requestOf_on]

/-! ### Runs -/

/-- The run ends at the arguments: it tells of a fault, or it shows a page of help. -/
def EndsAtArguments (page : String) (fs : FileSystem) (o : Outcome) : Prop :=
  RefusedWithError fs o ∨ ShowsHelp page fs o

theorem endsAtArguments_of_interpret {args : List String} {env : Environment} {r : Refusal}
    (h : interpret args env = .error r) (input : List UInt8) (fs : FileSystem) (help : HelpPage) :
    EndsAtArguments (help args env) fs (run args env input fs help) := by
  cases r with
  | error e => exact Or.inl (refusedWithError_of_interpret input fs help h)
  | help => exact Or.inr (showsHelp_of_interpret input fs help h)

/-- Arguments are accepted on either side or on neither, and if they are, the run is the same. -/
theorem run_crossing {x : Crossing} (hx : x.Valid) (env : Environment) (input : List UInt8)
    (fs : FileSystem) (help : HelpPage) :
    (Accepted x.ahead env ↔ Accepted x.behind env) ∧
    (Accepted x.ahead env → run x.ahead env input fs help = run x.behind env input fs help) ∧
    (¬ Accepted x.ahead env →
      EndsAtArguments (help x.ahead env) fs (run x.ahead env input fs help) ∧
      EndsAtArguments (help x.behind env) fs (run x.behind env input fs help)) := by
  have hsame : (interpret x.ahead env).toOption = (interpret x.behind env).toOption := by
    rw [toOption_interpret, toOption_interpret, asked?_crossing hx]
  rw [← exists_interpret_iff, ← exists_interpret_iff]
  cases hahead : interpret x.ahead env with
  | ok y =>
    rw [hahead] at hsame
    have hbehind : interpret x.behind env = .ok y := toOption_eq_some_iff.mp hsame.symm
    refine ⟨?_, ?_, ?_⟩
    · rw [hbehind]
    · intro _
      rw [run, run, hahead, hbehind]
    · intro h
      exact absurd ⟨y, rfl⟩ h
  | error r =>
    have hnone : (interpret x.behind env).toOption = none := by
      rw [← hsame, hahead]
      rfl
    cases hbehind : interpret x.behind env with
    | ok y =>
      rw [hbehind] at hnone
      cases hnone
    | error r' =>
      refine ⟨?_, ?_, ?_⟩
      · simp
      · rintro ⟨y, hy⟩
        cases hy
      · intro _
        exact ⟨endsAtArguments_of_interpret hahead input fs help,
          endsAtArguments_of_interpret hbehind input fs help⟩

/-- **Settings count wherever they are given.**  The check is strict if the flag stands anywhere
among the options or the variable says yes, and the filter is the one among the options, the one of
the environment or the standard one, whichever is the first that is given.  A filter among the
options keeps the one of the environment from being looked at.  A value of the variable that is no
truth value is an error, unless every level of the command line has the flag or help is asked for.
But a page of help may show both variables.  And an option may be moved across the subcommand: the
same arguments are accepted, and their run is the same. -/
theorem settings_wherever_given (input : List UInt8) (fs : FileSystem) (help : HelpPage) :
    (∀ args env s q, interpret args env = .ok (s, q) →
      (s.strictness = .strict ↔
        .strict ∈ settingsIn args ∨ ∃ v, env.strict = some v ∧ IsYes v) ∧
      (s.strictness = .oneSided ↔
        ¬ (.strict ∈ settingsIn args ∨ ∃ v, env.strict = some v ∧ IsYes v)) ∧
      s.log = ((lastFilter? (settingsIn args)).or env.log).getD "warn") ∧
    (∀ args f env e, lastFilter? (settingsIn args) = some f →
      SameButPage input fs help args { env with log := e } args env) ∧
    (∀ args env, env.Illegible →
      (StrictThroughout args → SameButPage input fs help args env args env.unset) ∧
      (¬ StrictThroughout args → RefusedWithError fs (run args env input fs help) ∨
        interpret args env = .error .help ∧
          SameButPage input fs help args env args env.unset)) ∧
    ∀ (x : Crossing) (env : Environment), x.Valid →
      (Accepted x.ahead env ↔ Accepted x.behind env) ∧
      (Accepted x.ahead env → run x.ahead env input fs help = run x.behind env input fs help) ∧
      (¬ Accepted x.ahead env →
        EndsAtArguments (help x.ahead env) fs (run x.ahead env input fs help) ∧
        EndsAtArguments (help x.behind env) fs (run x.behind env input fs help)) := by
  refine ⟨?_, ?_, ?_, ?_⟩
  · intro args env s q h
    obtain ⟨hstrict, hlog⟩ := inEffect_of_accepted h
    rw [asksStrict_eq_true_iff] at hstrict
    have hmode : s.strictness = if s.strict then .strict else .oneSided := rfl
    rw [hmode, ← hstrict]
    refine ⟨?_, ?_, hlog⟩
    · cases s.strict <;> decide
    · cases s.strict <;> decide
  · intro args f env e hf
    exact sameButPage_of_interpret (interpret_of_filter hf env e) input fs help
  · intro args env henv
    exact run_of_illegible henv args input fs help
  · intro x env hx
    exact run_crossing hx env input fs help

/-- The filter of the environment would be none, and the variable says yes in capitals.  Beside a
value that is no truth value a flag at one level is refused, and flags at both are not.  The flag
that is moved passes the letter of another. -/
theorem settings_wherever_given_at_four_lines :
    interpret ["--log=off", "vaddr", "0x1000"] ⟨some "[", some "YES"⟩ =
      .ok (⟨"off", true⟩, .address ⟨0x1000⟩) ∧
    (∃ v, some "YES" = some v ∧ IsYes v) ∧
    run ["--log=off", "vaddr", "0x1000"] ⟨none, some "YES"⟩ [] (.empty []) =
      run ["--log=off", "vaddr", "0x1000"] ⟨some "[", some "YES"⟩ [] (.empty []) ∧
    RefusedWithError (.empty []) (run ["--strict", "vaddr", "0"] ⟨none, some "maybe"⟩ []
      (.empty [])) ∧
    run ["--strict", "vaddr", "0", "--strict"] ⟨none, some "maybe"⟩ [] (.empty []) =
      run ["--strict", "vaddr", "0", "--strict"] ⟨none, none⟩ [] (.empty []) ∧
    run ["--log", "off", "--strict", "pte", "-v", "8"] ⟨none, none⟩ [] (.empty []) =
      run ["--log", "off", "pte", "-v", "--strict", "8"] ⟨none, none⟩ [] (.empty []) := by
  obtain ⟨haccepted, hfilter, hillegible, hcrossing⟩ :=
    settings_wherever_given [] (.empty []) .blank
  have hyes : interpret ["--log=off", "vaddr", "0x1000"] ⟨some "[", some "YES"⟩ =
      .ok (⟨"off", true⟩, .address ⟨0x1000⟩) := by decide +kernel
  have hnone : lastFilter? (settingsIn ["--log=off", "vaddr", "0x1000"]) = some "off" := by
    decide +kernel
  have hmaybe : Environment.Illegible ⟨none, some "maybe"⟩ :=
    ⟨"maybe", rfl, truthOf?_eq_none_iff.mp (by decide +kernel)⟩
  have hfront : level? none ["--strict", "vaddr", "0"] =
      some (⟨none, true, false, none, none, none⟩, some (.address, ["0"])) := by decide +kernel
  have hboth : level? none ["--strict", "vaddr", "0", "--strict"] =
      some (⟨none, true, false, none, none, none⟩, some (.address, ["0", "--strict"])) := by
    decide +kernel
  have honce : ¬ StrictThroughout ["--strict", "vaddr", "0"] := by
    rintro ⟨g, cut, hlevel, -, hback⟩
    rw [hfront] at hlevel
    cases hlevel
    exact absurd (hback .address ["0"] rfl) (by decide +kernel)
  have htwice : StrictThroughout ["--strict", "vaddr", "0", "--strict"] := by
    refine ⟨_, _, hboth, rfl, ?_⟩
    rintro c words ⟨⟩
    decide +kernel
  have hvalid : Crossing.Valid ⟨.strict, ["--strict"], .entry, (["--log", "off"], []),
      (["-v"], ["8"])⟩ :=
    ⟨.strict, ⟨by decide +kernel, by decide +kernel⟩, by decide +kernel, by decide +kernel⟩
  have hmoved : interpret ["--log", "off", "--strict", "pte", "-v", "8"] ⟨none, none⟩ =
      .ok (⟨"off", true⟩, .entry ⟨8⟩ true) := by decide +kernel
  refine ⟨hyes, ?_, ?_, ?_, ?_, ?_⟩
  · refine ((haccepted _ _ _ _ hyes).1.mp rfl).resolve_left ?_
    decide +kernel
  · exact (hfilter _ _ ⟨some "[", some "YES"⟩ none hnone).same (by decide +kernel)
  · rcases (hillegible _ _ hmaybe).2 honce with hrefused | ⟨hhelp, -⟩
    · exact hrefused
    · exact absurd hhelp (by decide +kernel)
  · exact ((hillegible _ _ hmaybe).1 htwice).same (by decide +kernel)
  · exact (hcrossing _ ⟨none, none⟩ hvalid).2.1 ((exists_interpret_iff _ _).mp ⟨_, hmoved⟩)

/-- With the flag and no subcommand the variable is not looked at, whatever its value.  The flag
brings forward the fault ahead of it, so to move it may have another fault told, or a fault in place
of help.  In the place of a value it is a fault itself. -/
theorem run_flag_beside_illegible : Environment.Illegible ⟨none, some "maybe"⟩ ∧
    (run ["--strict"] ⟨none, some "maybe"⟩ [] (.empty [])).code = 0 ∧
    (run ["--strict", "vaddr", "zz", "--bogus"] ⟨none, none⟩ [] (.empty [])).error =
      some "error: unexpected argument '--bogus' found" ∧
    (run ["vaddr", "zz", "--strict", "--bogus"] ⟨none, none⟩ [] (.empty [])).error =
      some "error: invalid value 'zz' for '<ADDRESS>': invalid hexadecimal digit 'z'" ∧
    (run ["--log", "a", "--log", "b", "--strict", "vaddr", "--help"] ⟨none, none⟩ []
      (.empty [])).code = 2 ∧
    (run ["--log", "a", "--log", "b", "vaddr", "--strict", "--help"] ⟨none, none⟩ []
      (.empty [])).code = 0 ∧
    Accepted ["--strict", "pack", "--dir", "."] ⟨none, none⟩ ∧
    (run ["pack", "--dir", "--strict", "."] ⟨none, none⟩ [] (.empty [])).code = 2 := by
  have hmaybe : truthOf? "maybe" = none := by decide +kernel
  have hinterpret : interpret ["--strict"] ⟨none, some "maybe"⟩ =
      .ok (⟨"warn", true⟩, .dialogue) := by decide +kernel
  have hfilter : Log.Filter.parse "warn" = .ok [⟨none, none, none, 2⟩] := by rfl
  have hpack : interpret ["--strict", "pack", "--dir", "."] ⟨none, none⟩ =
      .ok (⟨"warn", true⟩, .pack "." "os/link_app.S") := by decide +kernel
  refine ⟨⟨"maybe", rfl, truthOf?_eq_none_iff.mp hmaybe⟩, ?_, by decide +kernel, by decide +kernel,
    by decide +kernel, by decide +kernel, (exists_interpret_iff _ _).mp ⟨_, hpack⟩,
    by decide +kernel⟩
  rw [run_of_accepted [] (.empty []) .blank hinterpret hfilter]
  rfl

end Paging.Command
