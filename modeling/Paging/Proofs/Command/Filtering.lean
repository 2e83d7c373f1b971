import Paging.Proofs.Command.Placement
import Paging.Proofs.Command.Stages

/-!
# Filters change the log alone

Two runs that ask for the same keep to the same course, whichever filters they were given.  What
they leave behind is the same but for the log, in which each filter lets pass its part of the same
records.  Arguments that are refused are refused with either filter, and a call for help is one with
either (`runs_differ_in_log`).  But which fault of several is told may depend on where a filter
stands, and a page of help may show the filter (`refusal_tells_filter`).
-/

namespace Paging.Command

/-! ### Outcomes but for the log -/

/-- Both leave the same behind, and each log is what the filter lets pass of the same records. -/
structure DifferInLog (f f' : Log.Filter) (o o' : Outcome) : Prop where
  stdout : o.stdout = o'.stdout
  code : o.code = o'.code
  error : o.error = o'.error
  files : o.files = o'.files
  log : ∃ records, o.log = Log.Filter.lines f records ∧ o'.log = Log.Filter.lines f' records

theorem differInLog_carryOut (f f' : Log.Filter) (s : Strictness) (q : Request)
    (input : List UInt8) (fs : FileSystem) :
    DifferInLog f f' (carryOut f s q input fs) (carryOut f' s q input fs) := by
  rw [carryOut, carryOut]
  cases (q.perform s input fs).failure with
  | none => exact ⟨rfl, rfl, rfl, rfl, _, rfl, rfl⟩
  | some message => exact ⟨rfl, rfl, rfl, rfl, _, rfl, rfl⟩

/-! ### Runs -/

def Admits (args : List String) (env : Environment) (f : Log.Filter) : Prop :=
  ∃ s q, interpret args env = .ok (s, q) ∧ Log.Filter.parse s.log = .ok f

/-- Accepted words that are the same but for the filters ask for the same. -/
theorem interpret_of_unfiltered {args args' : List String} {env env' : Environment}
    (hargs : unfiltered args = unfiltered args') (hstrict : env.strict = env'.strict)
    {s s' : Settings} {q q' : Request} (h : interpret args env = .ok (s, q))
    (h' : interpret args' env' = .ok (s', q')) : s.strictness = s'.strictness ∧ q = q' := by
  have henv : env.unfiltered = env'.unfiltered := congrArg (Environment.mk none) hstrict
  have hsame : (Except.ok (s.unfiltered, q) : Except Refusal _) = .ok (s'.unfiltered, q') := by
    rw [← interpret_unfiltered h, ← interpret_unfiltered h', hargs, henv]
  have hpair := Except.ok.inj hsame
  have hflag : s.strict = s'.strict := congrArg (fun x => x.1.strict) hpair
  refine ⟨?_, congrArg Prod.snd hpair⟩
  rw [Settings.strictness, Settings.strictness, hflag]

theorem differInLog_of_admits {args args' : List String} {env env' : Environment}
    {f f' : Log.Filter} (hargs : unfiltered args = unfiltered args')
    (hstrict : env.strict = env'.strict) (h : Admits args env f) (h' : Admits args' env' f')
    (input : List UInt8) (fs : FileSystem) (help : HelpPage) :
    DifferInLog f f' (run args env input fs help) (run args' env' input fs help) := by
  obtain ⟨s, q, h, hf⟩ := h
  obtain ⟨s', q', h', hf'⟩ := h'
  obtain ⟨hmode, rfl⟩ := interpret_of_unfiltered hargs hstrict h h'
  rw [run_of_accepted input fs help h hf, run_of_accepted input fs help h' hf', hmode]
  exact differInLog_carryOut f f' s'.strictness q input fs

/-- What comes of a line with one filter, told by what comes of it without any. -/
theorem run_words {l : Line} (hl : l.Free) (env : Environment) {f : Log.Filter} {g : Filters}
    (hf : Log.Filter.parse (l.filter g) = .ok f) (input : List UInt8) (fs : FileSystem)
    (help : HelpPage) :
    let given := { env with log := g.environment }
    let o := run (l.words g) given input fs help
    match interpret (l.words .none) env.unfiltered with
    | .ok (s, q) => Admits (l.words g) given f ∧ o = carryOut f s.strictness q input fs
    | .error .help => ShowsHelp (help (l.words g) given) fs o
    | .error (.error e) =>
      RefusedWithError fs o ∧ (¬ l.Late → o.error = some (argumentLine e)) := by
  intro given o
  have hwords := interpret_words env hl g
  cases hbase : interpret (l.words .none) env.unfiltered with
  | ok x =>
    rw [hbase] at hwords
    have h : interpret (l.words g) given = .ok _ := hwords.eq_ok
    exact ⟨⟨_, _, h, hf⟩, run_of_accepted input fs help h hf⟩
  | error r =>
    rw [hbase] at hwords
    cases r with
    | help => exact showsHelp_of_interpret input fs help hwords.eq_help
    | error e =>
      obtain ⟨e', h, hsame⟩ := hwords.exists_fault
      refine ⟨refusedWithError_of_interpret input fs help h, fun hlate => ?_⟩
      show (run _ _ input fs help).error = _
      rw [run_of_refusal input fs help h, hsame hlate]
      rfl

/-- **Filters that are accepted change the log alone** where the arguments are accepted.  They may
stand wherever they are taken for filters.  Where the arguments are refused, both runs show a page
of help or both tell of a fault, with nothing else left behind, and that is the same fault unless
there are words between the subcommand and a filter. -/
theorem runs_differ_in_log (input : List UInt8) (fs : FileSystem) (help : HelpPage)
    (f f' : Log.Filter) :
    (∀ args args' env env', unfiltered args = unfiltered args' → env.strict = env'.strict →
      Admits args env f → Admits args' env' f' →
        DifferInLog f f' (run args env input fs help) (run args' env' input fs help)) ∧
    ∀ (l : Line) (env : Environment) (g g' : Filters), l.Free →
      Log.Filter.parse (l.filter g) = .ok f → Log.Filter.parse (l.filter g') = .ok f' →
        let given := { env with log := g.environment }
        let given' := { env with log := g'.environment }
        let o := run (l.words g) given input fs help
        let o' := run (l.words g') given' input fs help
        (Admits (l.words g) given f ∧ Admits (l.words g') given' f' ∧ DifferInLog f f' o o' ∨
          ShowsHelp (help (l.words g) given) fs o ∧ ShowsHelp (help (l.words g') given') fs o' ∨
          RefusedWithError fs o ∧ RefusedWithError fs o') ∧
        (¬ l.Late → o.error = o'.error) := by
  constructor
  · intro args args' env env' hargs hstrict h h'
    exact differInLog_of_admits hargs hstrict h h' input fs help
  · intro l env g g' hl hf hf' given given' o o'
    have hrun := run_words hl env hf input fs help
    have hrun' := run_words hl env hf' input fs help
    cases hbase : interpret (l.words .none) env.unfiltered with
    | ok x =>
      rw [hbase] at hrun hrun'
      obtain ⟨hadmits, ho⟩ := hrun
      obtain ⟨hadmits', ho'⟩ := hrun'
      have hdiffer : DifferInLog f f' o o' := by
        show DifferInLog f f' (run _ _ input fs help) (run _ _ input fs help)
        rw [ho, ho']
        exact differInLog_carryOut f f' x.1.strictness x.2 input fs
      exact ⟨Or.inl ⟨hadmits, hadmits', hdiffer⟩, fun _ => hdiffer.error⟩
    | error r =>
      rw [hbase] at hrun hrun'
      cases r with
      | help => exact ⟨Or.inr (Or.inl ⟨hrun, hrun'⟩), fun _ => hrun.error.trans hrun'.error.symm⟩
      | error e =>
        obtain ⟨hrefused, herror⟩ := hrun
        obtain ⟨hrefused', herror'⟩ := hrun'
        exact ⟨Or.inr (Or.inr ⟨hrefused, hrefused'⟩),
          fun hlate => (herror hlate).trans (herror' hlate).symm⟩

/-- A filter that lets everything pass, told after the subcommand, and one that lets nothing pass,
told by the environment: the address is rejected either way.  So is a word that is no number, also
with a word between it and a filter. -/
theorem runs_differ_in_log_on_rejection :
    unfiltered ["vaddr", "--log", "trace", "0x4000000000"] = unfiltered ["vaddr", "0x4000000000"] ∧
    Admits ["vaddr", "--log", "trace", "0x4000000000"] ⟨none, none⟩ [⟨none, none, none, 5⟩] ∧
    Admits ["vaddr", "0x4000000000"] ⟨some "off", none⟩ [⟨none, none, none, 0⟩] ∧
    DifferInLog [⟨none, none, none, 5⟩] [⟨none, none, none, 0⟩]
      (run ["vaddr", "--log", "trace", "0x4000000000"] ⟨none, none⟩ [] (.empty []))
      (run ["vaddr", "0x4000000000"] ⟨some "off", none⟩ [] (.empty [])) ∧
    Line.Free ⟨(["--strict"], []), some (.entry, ["none"], ["-v"])⟩ ∧
    RefusedWithError (.empty [])
      (run ["--strict", "pte", "none", "--log=trace", "-v"] ⟨none, none⟩ [] (.empty [])) ∧
    RefusedWithError (.empty [])
      (run ["--strict", "--log", "off", "pte", "none", "-v"] ⟨none, none⟩ [] (.empty [])) := by
  have hargs : unfiltered ["vaddr", "--log", "trace", "0x4000000000"] =
      unfiltered ["vaddr", "0x4000000000"] := by decide
  have hadmits : Admits ["vaddr", "--log", "trace", "0x4000000000"] ⟨none, none⟩
      [⟨none, none, none, 5⟩] :=
    ⟨⟨"trace", false⟩, .address ⟨0x4000000000⟩, by decide +kernel, by rfl⟩
  have hadmits' : Admits ["vaddr", "0x4000000000"] ⟨some "off", none⟩ [⟨none, none, none, 0⟩] :=
    ⟨⟨"off", false⟩, .address ⟨0x4000000000⟩, by decide +kernel, by rfl⟩
  have hfree : Line.Free ⟨(["--strict"], []), some (.entry, ["none"], ["-v"])⟩ := by
    refine ⟨⟨by decide, by decide⟩, by decide +kernel, ?_⟩
    rintro c back ⟨⟩
    exact ⟨by decide, ⟨by decide, by decide⟩, by decide +kernel⟩
  obtain ⟨hany, hplaced⟩ := runs_differ_in_log [] (.empty []) .blank [⟨none, none, none, 5⟩]
    [⟨none, none, none, 0⟩]
  have hword : Token.of "off" = .word "off" := by decide
  have hoff : Log.Filter.parse "off" = .ok [⟨none, none, none, 0⟩] := by rfl
  have hnone : interpret ["--strict", "pte", "none", "--log=trace", "-v"] ⟨none, none⟩ =
      .error (.error (.invalidValue "none" .entry "invalid hexadecimal digit 'n'")) := by
    decide +kernel
  obtain ⟨hrefused, -⟩ := hplaced _ ⟨none, none⟩ ⟨.none, .joined "trace", none⟩
    ⟨.apart "off" hword, .none, none⟩ hfree (by rfl) hoff
  refine ⟨hargs, hadmits, hadmits', hany _ _ _ _ hargs rfl hadmits hadmits', hfree, ?_⟩
  rcases hrefused with ⟨hadmitted, -⟩ | ⟨hshows, -⟩ | hrefused
  · obtain ⟨s, q, h, -⟩ := hadmitted
    cases hnone.symm.trans h
  · have hcode := refusedWithError_of_interpret [] (.empty []) .blank hnone
    cases hcode.code.symm.trans hshows.code
  · exact hrefused

def pageWithFilter : HelpPage := fun _ env => "[env: SV39_LOG=" ++ env.log.getD "" ++ "]"

/-- Of two faults the filter brings forward the one ahead of it, though either filter is accepted.
In the place of a value it is a fault itself.  And a page of help may show it. -/
theorem refusal_tells_filter :
    Log.Filter.parse "trace" = .ok [⟨none, none, none, 5⟩] ∧
    unfiltered ["vaddr", "zz", "--log=trace", "--bogus"] = ["vaddr", "zz", "--bogus"] ∧
    (run ["vaddr", "zz", "--bogus"] ⟨some "trace", none⟩ [] (.empty [])).error =
      some "error: unexpected argument '--bogus' found" ∧
    (run ["vaddr", "zz", "--log=trace", "--bogus"] ⟨some "trace", none⟩ [] (.empty [])).error =
      some "error: invalid value 'zz' for '<ADDRESS>': invalid hexadecimal digit 'z'" ∧
    unfiltered ["pack", "--dir", "--log=trace", "."] = ["pack", "--dir", "."] ∧
    Accepted ["pack", "--dir", "."] ⟨some "trace", none⟩ ∧
    (run ["pack", "--dir", "--log=trace", "."] ⟨none, none⟩ [] (.empty [])).code = 2 ∧
    (run ["--help"] ⟨some "trace", none⟩ [] (.empty []) pageWithFilter).stdout ≠
      (run ["--help"] ⟨some "off", none⟩ [] (.empty []) pageWithFilter).stdout := by
  have hpack : interpret ["pack", "--dir", "."] ⟨some "trace", none⟩ =
      .ok (⟨"trace", false⟩, .pack "." "os/link_app.S") := by decide +kernel
  exact ⟨by rfl, by decide, by decide +kernel, by decide +kernel, by decide,
    (exists_interpret_iff _ _).mp ⟨_, hpack⟩, by decide +kernel, by decide +kernel⟩

end Paging.Command
