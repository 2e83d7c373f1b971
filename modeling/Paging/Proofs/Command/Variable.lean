import Paging.Proofs.Command.Settings
import Paging.Proofs.Command.Stages

/-!
# The variable for the strict check

A value of the variable is read in any case, and may be none of the words that are known
(`truthOf?_eq_none_iff`).  Such a value adds faults and changes nothing else
(`sameOrFault_interpret`).  A level that asks for the strict check itself does not look at the
variable, and every other level that is read to its end takes the fault.  So the value does not
matter just where the check is asked for throughout (`strictThroughout_of_accepted`,
`interpret_of_strictThroughout`).
-/

namespace Paging.Command

open Text

/-! ### Truth values -/

def yesWords : List String := ["y", "yes", "t", "true", "on", "1"]

def noWords : List String := ["n", "no", "f", "false", "off", "0"]

def IsYes (word : String) : Prop := ∃ t ∈ yesWords, InAnyCase word t

def IsNo (word : String) : Prop := ∃ t ∈ noWords, InAnyCase word t

theorem exists_inAnyCase_iff {ts : List String} (hts : ∀ t ∈ ts, ∀ d ∈ t.toList, d.toLower = d)
    (word : String) :
    (∃ t ∈ ts, InAnyCase word t) ↔ String.ofList (word.toList.map Char.toLower) ∈ ts := by
  constructor
  · rintro ⟨t, ht, hcase⟩
    rwa [(map_toLower_eq_iff (hts t ht)).mpr hcase]
  · intro h
    exact ⟨_, h, (map_toLower_eq_iff (hts _ h)).mp rfl⟩

theorem isYes_iff (word : String) :
    IsYes word ↔ String.ofList (word.toList.map Char.toLower) ∈ yesWords :=
  exists_inAnyCase_iff (by simp [yesWords]) word

theorem isNo_iff (word : String) :
    IsNo word ↔ String.ofList (word.toList.map Char.toLower) ∈ noWords :=
  exists_inAnyCase_iff (by simp [noWords]) word

theorem truthOf?_eq (word : String) : truthOf? word =
    (let w := String.ofList (word.toList.map Char.toLower)
    if w ∈ yesWords then some true else if w ∈ noWords then some false else none) := rfl

theorem truthOf?_eq_some_true_iff {word : String} : truthOf? word = some true ↔ IsYes word := by
  rw [isYes_iff, truthOf?_eq]
  dsimp only
  split
  · simp_all
  · split <;> simp_all

theorem truthOf?_eq_none_iff {word : String} :
    truthOf? word = none ↔ ¬ IsYes word ∧ ¬ IsNo word := by
  rw [isYes_iff, isNo_iff, truthOf?_eq]
  dsimp only
  split
  · simp_all
  · split <;> simp_all

theorem asksStrict_eq_true_iff {env : Environment} :
    env.asksStrict = .ok true ↔ ∃ v, env.strict = some v ∧ IsYes v := by
  simp only [← truthOf?_eq_some_true_iff]
  unfold Environment.asksStrict
  cases env.strict with
  | none => simp
  | some v => cases htruth : truthOf? v <;> simp [htruth]

def Environment.Illegible (env : Environment) : Prop :=
  ∃ v, env.strict = some v ∧ ¬ IsYes v ∧ ¬ IsNo v

theorem Environment.Illegible.asksStrict {env : Environment} (h : env.Illegible) :
    ∃ e, env.asksStrict = .error (.error e) := by
  obtain ⟨v, hv, hword⟩ := h
  unfold Environment.asksStrict
  rw [hv]
  dsimp only
  rw [truthOf?_eq_none_iff.mpr hword]
  exact ⟨_, rfl⟩

def Environment.unset (env : Environment) : Environment := { env with strict := none }

/-! ### Faults that are added -/

inductive SameOrFault {α : Type} : Except Refusal α → Except Refusal α → Prop
  | same (x : Except Refusal α) : SameOrFault x x
  | fault (e : ArgumentError) (x : Except Refusal α) : SameOrFault (.error (.error e)) x

namespace SameOrFault

variable {α β : Type}

theorem bind {x y : Except Refusal α} (h : SameOrFault x y) {k k' : α → Except Refusal β}
    (hk : ∀ a, SameOrFault (k a) (k' a)) : SameOrFault (x.bind k) (y.bind k') := by
  cases h with
  | same x =>
    cases x with
    | error r => exact .same _
    | ok a => exact hk a
  | fault e x => exact .fault e _

theorem map {x y : Except Refusal α} (h : SameOrFault x y) (f : α → β) :
    SameOrFault (x.map f) (y.map f) := by
  cases h with
  | same x => exact .same _
  | fault e x => exact .fault e _

theorem eq_help {x : Except Refusal α} (h : SameOrFault (.error .help) x) : x = .error .help := by
  cases h
  rfl

end SameOrFault

section

variable {env : Environment} (henv : env.Illegible)

include henv

theorem settings_unset (before after : Given) :
    settings env.unset before after = settings env before after := by
  obtain ⟨e, he⟩ := henv.asksStrict
  have hunset : env.unset.asksStrict = .ok false := rfl
  rw [settings, settings, he, hunset]
  rfl

theorem sameOrFault_finish (r : Reading) : SameOrFault (finish env r) (finish env.unset r) := by
  obtain ⟨e, he⟩ := henv.asksStrict
  apply SameOrFault.bind (.same r.settle)
  intro r
  by_cases hstrict : r.given.strict = true
  · rw [if_pos hstrict, if_pos hstrict]
    exact .same _
  · rw [if_neg hstrict, if_neg hstrict, he]
    exact .fault e _

theorem sameOrFault_subcommandRequest (c : Subcommand) (ws : List String) :
    SameOrFault (subcommandRequest env c ws) (subcommandRequest env.unset c ws) := by
  apply SameOrFault.bind (.same _)
  intro r
  apply (sameOrFault_finish henv r).bind
  intro g
  exact .same _

/-- **A value that is no truth value adds faults** and changes nothing else. -/
theorem sameOrFault_interpret (args : List String) :
    SameOrFault (interpret args env) (interpret args env.unset) := by
  apply SameOrFault.bind (.same _)
  rintro ⟨r, sub⟩
  rcases sub with - | ⟨c, ws⟩
  · simp only [settings_unset henv]
    exact (sameOrFault_finish henv r).map _
  · simp only [settings_unset henv]
    apply (sameOrFault_subcommandRequest henv c ws).bind
    rintro ⟨g, q⟩
    exact (sameOrFault_finish henv r).map _

end

/-! ### Where the variable is not looked at -/

/-- The words ahead of the subcommand are taken and ask for the strict check, and so do the words
after it where there is one. -/
def StrictThroughout (args : List String) : Prop :=
  ∃ g cut, level? none args = some (g, cut) ∧ g.strict = true ∧
    ∀ c words, cut = some (c, words) → .strict ∈ settingsIn words

theorem strict_of_legible {env : Environment} (henv : env.Illegible) {level : Option Subcommand}
    {words : List String} {ns : List Note} {cut : Cut} (h : AcceptedAs env level words ns cut) :
    ∃ n ∈ ns, n.1 = .strict := by
  obtain ⟨e, he⟩ := henv.asksStrict
  rcases h.legible with hstrict | ⟨b, hb⟩
  · exact hstrict
  · rw [he] at hb
    cases hb

/-- Arguments are accepted beside a value that is no truth value only if every level has the
flag. -/
theorem strictThroughout_of_accepted {env : Environment} (henv : env.Illegible)
    {args : List String} (h : Accepted args env) : StrictThroughout args := by
  obtain ⟨ns, cut, hns, hcall⟩ := h
  obtain ⟨g, hnoted, -⟩ := (acceptedAs_iff hns.spelled).mp hns
  refine ⟨g, cut, level?_eq_some_iff.mpr ⟨ns, hns.spelled, hnoted⟩, ?_, ?_⟩
  · exact (strict_iff hnoted).mpr (strict_of_legible henv hns)
  · intro c words hcut
    obtain ⟨ms, hms, -⟩ := hcall c words hcut
    rw [settingsIn_of_spelled hms.spelled]
    exact List.mem_append_left _ (mem_noted_strict_iff.mpr (strict_of_legible henv hms))

theorem finish_of_strict {r : Reading} (h : ∀ g, r.settled? = some g → g.strict = true)
    (env env' : Environment) : finish env r = finish env' r := by
  rw [finish, finish]
  cases hsettle : r.settle with
  | error e => rfl
  | ok r' =>
    have hstrict : r'.given.strict = true := by
      apply h
      rw [Reading.settled?, hsettle]
      rfl
    show (if r'.given.strict then _ else _) = if r'.given.strict then _ else _
    rw [if_pos hstrict, if_pos hstrict]

theorem subcommandRequest_of_strict {ws : List String} (h : .strict ∈ settingsIn ws)
    (c : Subcommand) (env env' : Environment) :
    subcommandRequest env c ws = subcommandRequest env' c ws := by
  rw [subcommandRequest, subcommandRequest]
  cases hall : Reading.all (some c) ws (.start (some c)) with
  | error r => rfl
  | ok r =>
    have hgives : (r.settled?.map fun g => (g, (none : Cut))) = level? (some c) ws := by
      have hbind := Reading.bind_all ws c (.start (some c))
      rw [hall] at hbind
      exact hbind
    have hstrict : ∀ g, r.settled? = some g → g.strict = true := by
      intro g hg
      rw [hg] at hgives
      obtain ⟨ts, hts, hiff, -⟩ := settings_of_level? hgives.symm
      rw [hts, Cut.settings, List.append_nil] at h
      exact hiff.mpr h
    show (finish env r).bind _ = (finish env' r).bind _
    rw [finish_of_strict hstrict env env']

/-- **Where every level has the flag** the variable is not looked at. -/
theorem interpret_of_strictThroughout {args : List String} (h : StrictThroughout args)
    {env : Environment} (henv : env.Illegible) : interpret args env = interpret args env.unset := by
  obtain ⟨g, cut, hlevel, hfront, hback⟩ := h
  rw [interpret, interpret]
  cases hup : Reading.upToSubcommand args (.start none) with
  | error r => rfl
  | ok x =>
    obtain ⟨r, sub⟩ := x
    have hgives : (r.settled?.map (·, sub)) = level? none args := by
      have hbind : (Reading.upToSubcommand args (.start none)).toOption.bind _ = level? none args :=
        Reading.bind_upToSubcommand (.start none)
      rw [hup] at hbind
      exact hbind
    rw [hlevel] at hgives
    obtain ⟨g', hsettled, hpair⟩ := Option.map_eq_some_iff.mp hgives
    cases hpair
    have hfinish : finish env r = finish env.unset r := by
      apply finish_of_strict
      intro g' hg'
      rw [hsettled] at hg'
      cases hg'
      exact hfront
    rcases cut with - | ⟨c, ws⟩
    · simp only [settings_unset henv]
      show (finish env r).map _ = (finish env.unset r).map _
      rw [hfinish]
    · simp only [settings_unset henv]
      show (subcommandRequest env c ws).bind _ = (subcommandRequest env.unset c ws).bind _
      rw [subcommandRequest_of_strict (hback c ws rfl) c env env.unset, hfinish]

/-! ### Runs beside such a value -/

/-- Two runs are the same, unless help is asked for.  Then each shows its page. -/
structure SameButPage (input : List UInt8) (fs : FileSystem) (help : HelpPage) (args : List String)
    (env : Environment) (args' : List String) (env' : Environment) : Prop where
  same : interpret args env ≠ .error .help →
    run args env input fs help = run args' env' input fs help
  page : interpret args env = .error .help →
    ShowsHelp (help args env) fs (run args env input fs help) ∧
      ShowsHelp (help args' env') fs (run args' env' input fs help)

theorem sameButPage_of_interpret {args args' : List String} {env env' : Environment}
    (h : interpret args env = interpret args' env') (input : List UInt8) (fs : FileSystem)
    (help : HelpPage) : SameButPage input fs help args env args' env' where
  same := by
    intro hne
    cases hargs : interpret args env with
    | ok x => rw [run, run, ← h, hargs]
    | error r =>
      cases r with
      | help => exact absurd hargs hne
      | error e =>
        rw [run_of_refusal input fs help hargs, run_of_refusal input fs help (h.symm.trans hargs)]
        rfl
  page := by
    intro hargs
    exact ⟨showsHelp_of_interpret input fs help hargs,
      showsHelp_of_interpret input fs help (h.symm.trans hargs)⟩

/-- **A value that is no truth value is an error** unless every level has the flag or help is asked
for, and then the run is as without it but for the page. -/
theorem run_of_illegible {env : Environment} (henv : env.Illegible) (args : List String)
    (input : List UInt8) (fs : FileSystem) (help : HelpPage) :
    (StrictThroughout args → SameButPage input fs help args env args env.unset) ∧
    (¬ StrictThroughout args → RefusedWithError fs (run args env input fs help) ∨
      interpret args env = .error .help ∧ SameButPage input fs help args env args env.unset) := by
  constructor
  · intro h
    exact sameButPage_of_interpret (interpret_of_strictThroughout h henv) input fs help
  · intro hnot
    cases h : interpret args env with
    | ok x =>
      have haccepted := (exists_interpret_iff args env).mp ⟨x, h⟩
      exact absurd (strictThroughout_of_accepted henv haccepted) hnot
    | error r =>
      cases r with
      | error e => exact Or.inl (refusedWithError_of_interpret input fs help h)
      | help =>
        have hsame := sameOrFault_interpret henv args
        rw [h] at hsame
        exact Or.inr ⟨rfl, sameButPage_of_interpret (h.trans hsame.eq_help.symm) input fs help⟩

end Paging.Command
