import Paging.Proofs.Command.Acceptance
import Paging.Proofs.Command.Unfiltered
import Paging.Proofs.Text.Case

/-!
# Settings

The strict check and the log filter may be set ahead of the subcommand, after it and in the
environment.  Which settings the words of a command line give can be told without the grammar of
their levels (`settingsIn`).  If the words are accepted, these are what their notes give
(`settingsIn_of_spelled`), so the settings in effect depend on them and the environment alone
(`inEffect_of_accepted`).
-/

namespace Paging.Command

open Text

/-! ### Settings among words -/

inductive Setting
  | strict
  | filter (text : String)
  deriving DecidableEq, Repr

/-- The settings among words, the first of which may be a filter alone. -/
@[simp] def settingsFrom : Bool → List String → List Setting
  | _, [] => []
  | true, w :: ws => .filter w :: settingsFrom false ws
  | false, w :: ws =>
    match Token.of w with
    | .separator => []
    | .long name value =>
      if name = "strict" then .strict :: settingsFrom false ws
      else if name = "log" then
        match value with
        | some v => .filter v :: settingsFrom false ws
        | none => settingsFrom true ws
      else settingsFrom false ws
    | _ => settingsFrom false ws

/-- The settings that the options of a command line give, ahead of the subcommand and after it. -/
def settingsIn (ws : List String) : List Setting := settingsFrom false ws

def Setting.filter? : Setting → Option String
  | strict => none
  | filter text => some text

def lastFilter? (ts : List Setting) : Option String := (ts.filterMap Setting.filter?).getLast?

theorem lastFilter?_append (xs ys : List Setting) :
    lastFilter? (xs ++ ys) = (lastFilter? ys).or (lastFilter? xs) := by
  rw [lastFilter?, List.filterMap_append, List.getLast?_append]
  rfl

section

variable {w : String} (ws : List String)

theorem settingsFrom_separator (h : Token.of w = .separator) :
    settingsFrom false (w :: ws) = [] := by
  rw [settingsFrom, h]

theorem settingsFrom_strict {value : Option String} (h : Token.of w = .long "strict" value) :
    settingsFrom false (w :: ws) = .strict :: settingsFrom false ws := by
  rw [settingsFrom, h]
  rfl

theorem settingsFrom_filter {v : String} (h : Token.of w = .long "log" (some v)) :
    settingsFrom false (w :: ws) = .filter v :: settingsFrom false ws := by
  rw [settingsFrom, h]
  rfl

theorem settingsFrom_log (h : Token.of w = .long "log" none) :
    settingsFrom false (w :: ws) = settingsFrom true ws := by
  rw [settingsFrom, h]
  rfl

theorem settingsFrom_other {name : String} {value : Option String}
    (h : Token.of w = .long name value) (hstrict : name ≠ "strict") (hlog : name ≠ "log") :
    settingsFrom false (w :: ws) = settingsFrom false ws := by
  rw [settingsFrom, h]
  dsimp only
  rw [if_neg hstrict, if_neg hlog]

theorem settingsFrom_short {cs : List Char} (h : Token.of w = .short cs) :
    settingsFrom false (w :: ws) = settingsFrom false ws := by
  rw [settingsFrom, h]

theorem settingsFrom_word {t : String} (h : Token.of w = .word t) :
    settingsFrom false (w :: ws) = settingsFrom false ws := by
  rw [settingsFrom, h]

end

/-- A word that is no option stands for itself. -/
theorem eq_of_token_word {w t : String} (h : Token.of w = .word t) : t = w := by
  rw [Token.of] at h
  split at h
  · cases h
  · dsimp only at h
    split at h <;> cases h
  · cases h
  · cases h
    rfl

/-! ### Settings among notes -/

def settingOf? : Note → Option Setting
  | (.strict, _) => some .strict
  | (.log, v) => some (.filter v)
  | _ => none

def noted (ns : List Note) : List Setting := ns.filterMap settingOf?

theorem noted_append (ms ns : List Note) : noted (ms ++ ns) = noted ms ++ noted ns :=
  List.filterMap_append

theorem noted_eq_nil {ns : List Note} (h : ∀ n ∈ ns, n.1 ≠ .strict ∧ n.1 ≠ .log) :
    noted ns = [] := by
  apply List.filterMap_eq_nil_iff.mpr
  rintro ⟨p, v⟩ hn
  obtain ⟨hstrict, hlog⟩ := h _ hn
  cases p <;> simp_all [settingOf?]

theorem noted_cons_of_ne {p : Parameter} (hstrict : p ≠ .strict) (hlog : p ≠ .log) (v : String)
    (ns : List Note) : noted ((p, v) :: ns) = noted ns := by
  have hone : settingOf? (p, v) = none := by cases p <;> simp_all [settingOf?]
  rw [noted, List.filterMap_cons_none hone, noted]

theorem mem_noted_strict_iff {ns : List Note} : .strict ∈ noted ns ↔ ∃ n ∈ ns, n.1 = .strict := by
  have hnote (n : Note) : settingOf? n = some .strict ↔ n.1 = .strict := by
    obtain ⟨p, v⟩ := n
    cases p <;> simp [settingOf?]
  simp only [noted, List.mem_filterMap, hnote]

section

variable {level : Option Subcommand}

theorem noted_of_letters? {cs : List Char} {ns : List Note} (h : letters? level cs = some ns) :
    noted ns = [] := by
  apply noted_eq_nil
  intro n hn
  rcases eq_of_letters? h n hn with hp | hp <;> simp [hp]

def Cut.settings : Cut → List Setting
  | none => []
  | some (_, ws) => settingsIn ws

/-- A value that is awaited is the word that follows. -/
theorem awaited_of_spelled {p : Parameter} {operand : Option Parameter} {w : String}
    {ws : List String} {ns : List Note} {cut : Cut}
    (h : spelled? level false (some p) operand (w :: ws) = some (ns, cut)) :
    Token.of w = .word w ∧ ∃ ms, ns = (p, w) :: ms ∧
      spelled? level false none operand ws = some (ms, cut) := by
  rw [spelled?] at h
  split at h
  · next v htoken =>
    obtain ⟨ms, hrest, rfl⟩ := map_after_eq_some h
    obtain rfl := eq_of_token_word htoken
    exact ⟨htoken, ms, rfl, hrest⟩
  · cases h

/-- What an option with a name gives, with the settings after it. -/
theorem settingsFrom_of_long {operand : Option Parameter} {w : String} {ws : List String}
    {ns : List Note} {cut : Cut} (hcut : cut? level w = none) {name : String}
    {value : Option String} (htoken : Token.of w = .long name value)
    (hspelled : spelled? level false none operand (w :: ws) = some (ns, cut))
    (hfree : ∀ ms, spelled? level false none operand ws = some (ms, cut) →
      settingsFrom false ws = noted ms ++ cut.settings)
    (hawaiting : ∀ p, p ≠ .strict → spelled? level false (some p) operand ws = some (ns, cut) →
      settingsFrom (some p = some .log) ws = noted ns ++ cut.settings) :
    settingsFrom false (w :: ws) = noted ns ++ cut.settings := by
  rw [spelled?, hcut, htoken] at hspelled
  obtain ⟨p, hp, h⟩ := Option.bind_eq_some_iff.mp hspelled
  have hname := long?_of_named? hp
  cases p with
  | strict =>
    cases hname
    cases value with
    | some v => cases h
    | none =>
      obtain ⟨ms, hrest, rfl⟩ := map_after_eq_some h
      rw [settingsFrom_strict ws htoken, hfree ms hrest]
      rfl
  | log =>
    cases hname
    cases value with
    | some v =>
      obtain ⟨ms, hrest, rfl⟩ := map_after_eq_some h
      rw [settingsFrom_filter ws htoken, hfree ms hrest]
      rfl
    | none =>
      rw [settingsFrom_log ws htoken]
      exact hawaiting .log (by decide) h
  | help | verbose =>
    cases hname
    cases value with
    | some v => cases h
    | none =>
      obtain ⟨ms, hrest, rfl⟩ := map_after_eq_some h
      rw [settingsFrom_other ws htoken (by decide) (by decide), hfree ms hrest]
      rfl
  | dir | out =>
    cases hname
    rw [settingsFrom_other ws htoken (by decide) (by decide)]
    cases value with
    | some v =>
      obtain ⟨ms, hrest, rfl⟩ := map_after_eq_some h
      rw [hfree ms hrest]
      rfl
    | none => exact hawaiting _ (by decide) h
  | address | entry => cases hname

/-- **The notes of words give the settings among them**, and so do those after the end of the
level.  Where the value of an option is awaited, it is the first word. -/
theorem settingsFrom_of_spelled {awaited operand : Option Parameter} {ws : List String}
    {ns : List Note} {cut : Cut} (hawaited : ∀ p, awaited = some p → p ≠ .strict)
    (hoperand : ∀ p, operand = some p → p.isOperand = true)
    (h : spelled? level false awaited operand ws = some (ns, cut)) :
    settingsFrom (awaited = some .log) ws = noted ns ++ cut.settings := by
  induction ws generalizing awaited operand ns with
  | nil =>
    cases awaited with
    | none =>
      cases h
      rfl
    | some p => cases h
  | cons w ws ih =>
    have hnone : ∀ p, (none : Option Parameter) = some p → p ≠ .strict := by
      intro p hp
      cases hp
    have hfree {operand : Option Parameter} {ms : List Note}
        (hoperand : ∀ p, operand = some p → p.isOperand = true)
        (hms : spelled? level false none operand ws = some (ms, cut)) :
        settingsFrom false ws = noted ms ++ cut.settings := by
      exact ih hnone hoperand hms
    cases awaited with
    | some p =>
      obtain ⟨htoken, ms, rfl, hrest⟩ := awaited_of_spelled h
      have hws := hfree hoperand hrest
      by_cases hlog : p = .log
      · subst hlog
        show .filter w :: settingsFrom false ws = _
        rw [hws]
        rfl
      · have hawait : decide (some p = some Parameter.log) = false :=
          decide_eq_false fun h => hlog (Option.some.inj h)
        rw [hawait, settingsFrom_word ws htoken, hws, noted_cons_of_ne (hawaited p rfl) hlog]
    | none =>
      show settingsFrom false (w :: ws) = _
      have hsetting {p : Parameter} (hp : operand = some p) : p ≠ .strict ∧ p ≠ .log := by
        have hp := hoperand p hp
        cases p <;> simp_all [Parameter.isOperand]
      cases hcut : cut? level w with
      | some c =>
        rw [settingsFrom_word ws (token_of_cut hcut)]
        rw [spelled?, hcut] at h
        cases c with
        | none => cases h
        | some c =>
          cases h
          rfl
      | none =>
        cases htoken : Token.of w with
        | separator =>
          rw [spelled?, hcut, htoken] at h
          obtain ⟨rfl, hns⟩ := spelled?_separated h
          rw [settingsFrom_separator ws htoken, noted_eq_nil fun n hn => hsetting (hns n hn)]
          rfl
        | long name value =>
          apply settingsFrom_of_long hcut htoken h
          · intro ms hms
            exact hfree hoperand hms
          · intro p hp hns
            refine ih ?_ hoperand hns
            rintro q ⟨⟩
            exact hp
        | short cs =>
          rw [spelled?, hcut, htoken] at h
          obtain ⟨ls, hls, h⟩ := Option.bind_eq_some_iff.mp h
          obtain ⟨ms, hrest, rfl⟩ := map_after_eq_some h
          rw [settingsFrom_short ws htoken, hfree hoperand hrest, noted_append,
            noted_of_letters? hls, List.nil_append]
        | word t =>
          rw [spelled?, hcut, htoken] at h
          obtain ⟨p, hp, h⟩ := Option.bind_eq_some_iff.mp h
          obtain ⟨ms, hrest, rfl⟩ := map_after_eq_some h
          have hgone : ∀ q, (none : Option Parameter) = some q → q.isOperand = true := by
            intro q hq
            cases hq
          obtain ⟨hstrict, hlog⟩ := hsetting hp
          rw [settingsFrom_word ws htoken, hfree hgone hrest, List.singleton_append,
            noted_cons_of_ne hstrict hlog]

end

/-! ### What is given at a level -/

theorem settingOf?_filter {p : Parameter} {v : String} (hp : p ≠ .log) :
    (settingOf? (p, v)).bind Setting.filter? = none := by
  cases p with
  | log => exact absurd rfl hp
  | _ => rfl

theorem log_of_note? {g g' : Given} {n : Note} (h : g.note? n = some g') :
    g'.log = ((settingOf? n).bind Setting.filter?).or g.log := by
  obtain ⟨p, v⟩ := n
  have hset : g.set p v = .ok g' := Given.note?_eq_some_iff.mp h
  by_cases hp : p = .log
  · subst hp
    rw [Given.set] at hset
    split at hset
    · cases hset
    · cases hset
      rfl
  · -- Any other parameter leaves the filter as it was.
    have hkept : g.set p v = (g.set p v).map (Given.withLog g.log) := Given.set_withLog g.log g hp v
    rw [hset] at hkept
    have hsame : g' = g'.withLog g.log := Except.ok.inj hkept
    rw [settingOf?_filter hp, Option.none_or, hsame]
    rfl

theorem log_of_noteAll? {g g' : Given} {ns : List Note} (h : g.noteAll? ns = some g') :
    g'.log = (lastFilter? (noted ns)).or g.log := by
  induction ns generalizing g with
  | nil =>
    cases h
    rfl
  | cons n ns ih =>
    rw [Given.noteAll?_cons, Option.bind_eq_some_iff] at h
    obtain ⟨g₁, hnote, hrest⟩ := h
    have hfirst : lastFilter? (noted [n]) = (settingOf? n).bind Setting.filter? := by
      unfold lastFilter? noted
      cases hsetting : settingOf? n with
      | none => simp [hsetting]
      | some t => cases hfilter : t.filter? <;> simp [hsetting, hfilter]
    have hnotes : noted (n :: ns) = noted [n] ++ noted ns := noted_append [n] ns
    rw [ih hrest, log_of_note? hnote, hnotes, lastFilter?_append, hfirst, Option.or_assoc]

theorem isOperand_operand {level : Option Subcommand} {p : Parameter}
    (h : Subcommand.operand level = some p) : p.isOperand = true := by
  rcases level with - | c
  · cases h
  · cases c <;> cases h <;> rfl

theorem settingsIn_of_spelled {level : Option Subcommand} {ws : List String} {ns : List Note}
    {cut : Cut} (h : spelled? level false none (Subcommand.operand level) ws = some (ns, cut)) :
    settingsIn ws = noted ns ++ cut.settings := by
  apply settingsFrom_of_spelled ?_ (fun p hp => isOperand_operand hp) h
  intro p hp
  cases hp

-- A word after the name of the filter is the filter, and after two dashes alone there is no option.
example : settingsIn ["--log", "on", "--strict", "pte", "--", "--strict"] =
    [.filter "on", .strict] := by decide +kernel

/-- **What is given at a level** are the settings among its words. -/
theorem settings_of_level? {level : Option Subcommand} {ws : List String} {g : Given} {cut : Cut}
    (h : level? level ws = some (g, cut)) : ∃ ts, settingsIn ws = ts ++ cut.settings ∧
      (g.strict = true ↔ .strict ∈ ts) ∧ g.log = lastFilter? ts := by
  obtain ⟨ns, hspelled, hnoted⟩ := level?_eq_some_iff.mp h
  refine ⟨noted ns, settingsIn_of_spelled hspelled, ?_, ?_⟩
  · rw [strict_iff hnoted, mem_noted_strict_iff]
  · rw [log_of_noteAll? hnoted]
    exact Option.or_none

/-! ### Settings in effect -/

theorem asksStrict_getD_eq_true_iff (env : Environment) :
    env.asksStrict.toOption.getD false = true ↔ env.asksStrict = .ok true := by
  cases env.asksStrict <;> simp [Except.toOption]

/-- The settings in effect, told by the settings on the command line and the environment. -/
structure InEffect (ts : List Setting) (env : Environment) (s : Settings) : Prop where
  strict : s.strict = true ↔ .strict ∈ ts ∨ env.asksStrict = .ok true
  log : s.log = ((lastFilter? ts).or env.log).getD Settings.standard.log

theorem inEffect_settings {env : Environment} {before after : Given} {ts us : List Setting}
    (hstrict : before.strict = true ↔ .strict ∈ ts) (hlog : before.log = lastFilter? ts)
    (hstrict' : after.strict = true ↔ .strict ∈ us) (hlog' : after.log = lastFilter? us) :
    InEffect (ts ++ us) env (settings env before after) where
  strict := by
    rw [← asksStrict_getD_eq_true_iff, List.mem_append, ← hstrict, ← hstrict']
    simp [settings]
  log := by
    rw [lastFilter?_append, ← hlog, ← hlog']
    rfl

theorem level?_of_askedOf? {env : Environment} {c : Subcommand} {words : List String} {g : Given}
    {q : Request} (h : askedOf? env c words = some (g, q)) :
    level? (some c) words = some (g, none) := by
  obtain ⟨⟨g', cut⟩, hlevel, hgiven⟩ := Option.bind_eq_some_iff.mp h
  obtain ⟨g'', hended, hrequest⟩ := Option.bind_eq_some_iff.mp hgiven
  obtain ⟨q', -, hpair⟩ := Option.map_eq_some_iff.mp hrequest
  cases hpair
  obtain ⟨-, rfl⟩ := ended?_eq_some_iff.mp hended
  obtain rfl := cut_eq_none hlevel
  exact hlevel

/-- **The settings do not depend on where they are given.** -/
theorem inEffect_of_accepted {args : List String} {env : Environment} {s : Settings} {q : Request}
    (h : interpret args env = .ok (s, q)) : InEffect (settingsIn args) env s := by
  rw [← toOption_eq_some_iff, toOption_interpret, asked?, Option.bind_eq_some_iff] at h
  obtain ⟨⟨g, cut⟩, hlevel, h⟩ := h
  obtain ⟨ts, hts, hstrict, hlog⟩ := settings_of_level? hlevel
  rw [hts]
  rcases cut with - | ⟨c, words⟩
  · obtain ⟨g', hended, hsettings⟩ := Option.map_eq_some_iff.mp h
    obtain ⟨-, rfl⟩ := ended?_eq_some_iff.mp hended
    cases hsettings
    exact inEffect_settings hstrict hlog (by simp [Given.nothing, Cut.settings]) rfl
  · obtain ⟨⟨g', q'⟩, hasked, h⟩ := Option.bind_eq_some_iff.mp h
    obtain ⟨g'', hended, hsettings⟩ := Option.map_eq_some_iff.mp h
    obtain ⟨-, rfl⟩ := ended?_eq_some_iff.mp hended
    cases hsettings
    have hlevel' := level?_of_askedOf? hasked
    obtain ⟨us, hus, hstrict', hlog'⟩ := settings_of_level? hlevel'
    have hback : Cut.settings (some (c, words)) = us := hus.trans (List.append_nil us)
    rw [hback]
    exact inEffect_settings hstrict hlog hstrict' hlog'

/-! ### The filter of the environment -/

/-- The filter of the environment is none of what is asked but the filter. -/
theorem interpret_withLog (args : List String) (env : Environment) (e : Option String) :
    (interpret args { env with log := e }).map (fun x => (x.1.unfiltered, x.2)) =
      (interpret args env).map fun x => (x.1.unfiltered, x.2) := by
  have hfinish (r : Reading) : finish { env with log := e } r = finish env r := rfl
  have hrequest (c : Subcommand) (ws : List String) :
      subcommandRequest { env with log := e } c ws = subcommandRequest env c ws := rfl
  rw [interpret, interpret]
  cases Reading.upToSubcommand args (.start none) with
  | error r => rfl
  | ok x =>
    obtain ⟨r, sub⟩ := x
    rcases sub with - | ⟨c, ws⟩
    · show ((finish { env with log := e } r).map _).map _ = ((finish env r).map _).map _
      rw [hfinish]
      cases finish env r <;> rfl
    · show ((subcommandRequest { env with log := e } c ws).bind _).map _ =
        ((subcommandRequest env c ws).bind _).map _
      rw [hrequest]
      cases subcommandRequest env c ws with
      | error r => rfl
      | ok y =>
        show ((finish { env with log := e } r).map _).map _ = ((finish env r).map _).map _
        rw [hfinish]
        cases finish env r <;> rfl

/-- **A filter on the command line outweighs the one of the environment**, which is not even looked
at. -/
theorem interpret_of_filter {args : List String} {f : String}
    (hf : lastFilter? (settingsIn args) = some f) (env : Environment) (e : Option String) :
    interpret args { env with log := e } = interpret args env := by
  have hsame := interpret_withLog args env e
  cases h : interpret args { env with log := e } with
  | error r =>
    rw [h] at hsame
    cases h' : interpret args env with
    | error r' =>
      rw [h'] at hsame
      cases hsame
      rfl
    | ok x =>
      rw [h'] at hsame
      cases hsame
  | ok x =>
    rw [h] at hsame
    cases h' : interpret args env with
    | error r' =>
      rw [h'] at hsame
      cases hsame
    | ok y =>
      rw [h'] at hsame
      obtain ⟨⟨log, strict⟩, q⟩ := x
      obtain ⟨⟨log', strict'⟩, q'⟩ := y
      have hlog := (inEffect_of_accepted h).log
      have hlog' := (inEffect_of_accepted h').log
      rw [hf] at hlog hlog'
      cases hlog
      cases hlog'
      cases hsame
      rfl

end Paging.Command
