import Paging.Proofs.Command.Pausing
import Paging.Proofs.Command.Settling

/-!
# Filters placed between options

Words are refused in the order in which they come up, so a filter somewhere among them may change
which fault is told: it has the value noted that is held in its place.  If that value is good,
nothing else changes, and if it is not, there is a fault with the filter and without it
(`subcommandRequest_place`).  Ahead of the subcommand nothing is held, and a filter changes nothing
else at all.  So whole command lines come to the same with any filters or to a fault each
(`interpret_words`).
-/

namespace Paging.Command

/-! ### Results but for the fault -/

/-- Both are the same, unless `p`: then each may be a fault. -/
inductive EqUnless (p : Prop) {α : Type} : Except Refusal α → Except Refusal α → Prop
  | eq (x : Except Refusal α) : EqUnless p x x
  | faults (hp : p) (e e' : ArgumentError) : EqUnless p (.error (.error e)) (.error (.error e'))

namespace EqUnless

variable {p q : Prop} {α β : Type} {x y : Except Refusal α}

theorem of_eq (h : x = y) : EqUnless p x y := h ▸ .eq x

theorem eq_of_not (h : EqUnless p x y) (hp : ¬ p) : x = y := by
  cases h with
  | eq => rfl
  | faults hp' => exact absurd hp' hp

theorem eq_ok {a : α} (h : EqUnless p x (.ok a)) : x = .ok a := by
  cases h
  rfl

theorem eq_help (h : EqUnless p x (.error .help)) : x = .error .help := by
  cases h
  rfl

theorem exists_fault {e : ArgumentError} (h : EqUnless p x (.error (.error e))) :
    ∃ e', x = .error (.error e') ∧ (¬ p → e' = e) := by
  cases h with
  | eq => exact ⟨e, rfl, fun _ => rfl⟩
  | faults hp e' _ => exact ⟨e', rfl, fun h => absurd hp h⟩

theorem mono (h : EqUnless p x y) (hpq : p → q) : EqUnless q x y := by
  cases h with
  | eq => exact .eq _
  | faults hp e e' => exact .faults (hpq hp) e e'

theorem bind (h : EqUnless p x y) (k : α → Except Refusal β) :
    EqUnless p (x.bind k) (y.bind k) := by
  cases h with
  | eq => exact .eq _
  | faults hp e e' => exact .faults hp e e'

end EqUnless

/-! ### Places between options -/

namespace Reading

variable {level : Option Subcommand} {r r' : Reading}

theorem all_append (xs ys : List String) :
    all level (xs ++ ys) r = (all level xs r).bind (all level ys) := by
  induction xs generalizing r with
  | nil => rfl
  | cons w xs ih =>
    rw [List.cons_append, all, all]
    cases r.step level w with
    | error e => rfl
    | ok r' => exact ih

theorem held_of_note {p : Parameter} {v : String} (h : r.note p v = .ok r') :
    r'.held = none ∧ r'.separated = r.separated := by
  rw [note] at h
  cases hr : r.settle with
  | error e =>
    rw [hr] at h
    cases h
  | ok r₀ =>
    rw [hr] at h
    obtain ⟨g, -, rfl⟩ : ∃ g, r₀.given.set p v = .ok g ∧ { r₀ with given := g } = r' := by
      cases hset : r₀.given.set p v with
      | error e =>
        simp only [Except.bind, hset] at h
        cases h
      | ok g =>
        simp only [Except.bind, hset] at h
        exact ⟨g, rfl, Except.ok.inj h⟩
    rw [eq_of_settle hr]
    exact ⟨rfl, rfl⟩

theorem held_of_hold {p : Parameter} {v : Option String} (h : r.hold p v = .ok r') :
    r'.held = some (p, v) ∧ r'.separated = r.separated := by
  rw [hold] at h
  cases hr : r.settle with
  | error e =>
    rw [hr] at h
    cases h
  | ok r₀ =>
    rw [hr] at h
    cases h
    rw [eq_of_settle hr]
    exact ⟨rfl, rfl⟩

theorem held_of_short {cs : List Char} (hheld : cs ≠ [] ∨ r.held = none)
    (h : short level cs r = .ok r') : r'.held = none ∧ r'.separated = r.separated := by
  induction cs generalizing r with
  | nil =>
    cases h
    exact ⟨hheld.resolve_left fun h => h rfl, rfl⟩
  | cons c cs ih =>
    rw [short, ← lettered?] at h
    cases hletter : lettered? level c with
    | none =>
      rw [hletter] at h
      cases h
    | some p =>
      rw [hletter] at h
      dsimp only at h
      cases hnote : r.note p "" with
      | error e =>
        rw [hnote] at h
        cases h
      | ok r₁ =>
        rw [hnote] at h
        obtain ⟨hheld, hseparated⟩ := held_of_note hnote
        obtain ⟨hheld', hseparated'⟩ := ih (Or.inr hheld) h
        exact ⟨hheld', hseparated'.trans hseparated⟩

def misses (r : Reading) : Bool := r.held.any (·.2.isNone)

theorem awaitsValue_eq (h : r.separated = false) : r.awaitsValue = r.misses := by
  rw [awaitsValue, misses, h]
  rcases r.held with - | ⟨p, - | v⟩ <;> rfl

theorem misses_of_short {cs : List Char} (hcs : cs ≠ []) (h : short level cs r = .ok r') :
    r'.misses = false ∧ r'.separated = r.separated := by
  obtain ⟨hheld, hsame⟩ := held_of_short (Or.inl hcs) h
  exact ⟨by rw [misses, hheld]; rfl, hsame⟩

theorem misses_of_long {name : String} {value : Option String}
    (h : r.long level name value = .ok r') :
    r'.misses = (value.isNone && (named? level name).any (·.takesValue)) ∧
      r'.separated = r.separated := by
  rw [long, ← named?] at h
  rw [misses]
  cases hnamed : named? level name with
  | none =>
    rw [hnamed] at h
    cases h
  | some p =>
    rw [hnamed] at h
    dsimp only at h
    rw [Option.any_some]
    cases htakes : p.takesValue <;> rw [htakes] at h <;> cases value
    · obtain ⟨hheld, hsame⟩ := held_of_note h
      exact ⟨by rw [hheld]; rfl, hsame⟩
    · cases h
    · obtain ⟨hheld, hsame⟩ := held_of_hold h
      exact ⟨by rw [hheld]; rfl, hsame⟩
    · obtain ⟨hheld, hsame⟩ := held_of_note h
      exact ⟨by rw [hheld]; rfl, hsame⟩

theorem misses_of_word {t : String}
    (h : r.word level t = .ok r') : r'.misses = false ∧ r'.separated = r.separated := by
  cases hawaits : r.awaitsValue with
  | true =>
    obtain ⟨-, p, hp⟩ := awaitsValue_eq_true_iff.mp hawaits
    rw [word, hawaits, hp] at h
    cases h
    exact ⟨rfl, rfl⟩
  | false =>
    rw [word_of_not_awaiting level t hawaits] at h
    cases hoperand : r.operand with
    | none =>
      rw [hoperand] at h
      cases h
    | some p =>
      rw [hoperand] at h
      dsimp only at h
      cases hhold : r.hold p (some t) with
      | error e =>
        rw [hhold] at h
        cases h
      | ok r₁ =>
        rw [hhold] at h
        cases h
        obtain ⟨hheld, hsame⟩ := held_of_hold hhold
        exact ⟨by rw [misses, hheld]; rfl, hsame⟩

theorem settle_of_missing {p : Parameter} (h : r.held = some (p, none)) :
    r.settle = .error (.error (.missingValue p)) := by
  rw [settle, h]

/-- What has a missing value noted comes to a fault. -/
theorem NotesHeld.ne_ok {k : Reading → Except Refusal Reading} (h : NotesHeld k r) {p : Parameter}
    (hp : r.held = some (p, none)) : k r ≠ .ok r' := by
  intro hok
  cases h with
  | first hfirst =>
    rw [settle_of_missing hp] at hfirst
    cases hfirst.symm.trans hok
  | fault e he _ => cases he.symm.trans hok

/-- Every word stands for itself at most where the value of an option is missing. -/
def Intact (r : Reading) : Prop := r.separated = true → ∃ p, r.held = some (p, none)

/-- What is missing after a word tells whether the next one is the value. -/
theorem intact_of_misses {b : Bool} (hseparated : r.separated = false)
    (hread : r'.misses = b ∧ r'.separated = r.separated) : r'.Intact ∧ r'.awaitsValue = b := by
  have hfalse : r'.separated = false := hread.2.trans hseparated
  rw [awaitsValue_eq hfalse]
  exact ⟨fun htrue => absurd (hfalse.symm.trans htrue) Bool.false_ne_true, hread.1⟩

/-- Where a value is missing a word is the value, or two dashes alone, or it is refused. -/
theorem intact_step_missing {p : Parameter} (hp : r.held = some (p, none))
    (hseparated : r.separated = false) {w : String} (h : r.step level w = .ok r') :
    r'.Intact ∧ r'.awaitsValue = false := by
  rw [step_eq_token hseparated] at h
  cases htoken : Token.of w with
  | separator =>
    rw [htoken] at h
    cases h
    exact ⟨fun _ => ⟨p, hp⟩, rfl⟩
  | long name value =>
    rw [htoken] at h
    exact absurd h (NotesHeld.ne_ok (notesHeld_long name value) hp)
  | short cs =>
    rw [htoken] at h
    exact absurd h (NotesHeld.ne_ok (notesHeld_short (ne_nil_of_short htoken)) hp)
  | word t =>
    rw [htoken] at h
    exact intact_of_misses hseparated (misses_of_word h)

/-- Elsewhere words between options are read as such, and the value of one may come next. -/
theorem intact_step_pausing (hseparated : r.separated = false) {w : String} {ws : List String}
    (hpause : pauses level false (w :: ws) = true) (h : r.step level w = .ok r') :
    r'.Intact ∧ pauses level r'.awaitsValue ws = true := by
  rw [step_eq_token hseparated] at h
  cases hcut : cut? level w with
  | some c =>
    rw [pauses, hcut] at hpause
    cases hpause
  | none =>
    cases htoken : Token.of w with
    | separator =>
      rw [pauses, hcut, htoken] at hpause
      cases hpause
    | long name value =>
      rw [htoken] at h
      rw [pauses, hcut, htoken] at hpause
      obtain ⟨hintact, hawaits⟩ := intact_of_misses hseparated (misses_of_long h)
      refine ⟨hintact, ?_⟩
      rw [hawaits]
      cases value <;> exact hpause
    | short cs =>
      rw [htoken] at h
      rw [pauses, hcut, htoken] at hpause
      obtain ⟨hintact, hawaits⟩ :=
        intact_of_misses hseparated (misses_of_short (ne_nil_of_short htoken) h)
      exact ⟨hintact, hawaits ▸ hpause⟩
    | word t =>
      rw [htoken] at h
      rw [pauses, hcut, htoken] at hpause
      obtain ⟨hintact, hawaits⟩ := intact_of_misses hseparated (misses_of_word h)
      exact ⟨hintact, hawaits ▸ hpause⟩

/-- One more word keeps the reading in step with the words between options. -/
theorem Intact.step (hr : r.Intact) {w : String} {ws : List String}
    (hpause : pauses level r.awaitsValue (w :: ws) = true) (h : r.step level w = .ok r') :
    r'.Intact ∧ pauses level r'.awaitsValue ws = true := by
  cases hawaits : r.awaitsValue with
  | true =>
    obtain ⟨hseparated, p, hp⟩ := awaitsValue_eq_true_iff.mp hawaits
    obtain ⟨hintact, hnext⟩ := intact_step_missing hp hseparated h
    rw [hawaits] at hpause
    exact ⟨hintact, hnext ▸ hpause⟩
  | false =>
    cases hseparated : r.separated with
    | true =>
      -- The missing value is looked for ahead of the word, so there is no next reading.
      obtain ⟨p, hp⟩ := hr hseparated
      exact absurd h (NotesHeld.ne_ok (notesHeld_step hawaits (Or.inl hseparated)) hp)
    | false =>
      rw [hawaits] at hpause
      exact intact_step_pausing hseparated hpause h

/-- **Where words pause no value is awaited**, and what follows is read as options. -/
theorem Intact.all (hr : r.Intact) {ws : List String}
    (hpause : pauses level r.awaitsValue ws = true) (h : Reading.all level ws r = .ok r') :
    r'.Intact ∧ r'.awaitsValue = false := by
  induction ws generalizing r with
  | nil =>
    cases h
    exact ⟨hr, by simpa using hpause⟩
  | cons w ws ih =>
    rw [Reading.all] at h
    cases hstep : r.step level w with
    | error e =>
      rw [hstep] at h
      cases h
    | ok r₁ =>
      rw [hstep] at h
      obtain ⟨hr₁, hws⟩ := hr.step hpause hstep
      exact ih hr₁ hws h

/-- Once what is held is noted, words are read as options again. -/
theorem Intact.separated_of_settle (hr : r.Intact) (h : r.settle = .ok r') :
    r'.separated = false := by
  rw [eq_of_settle h]
  apply Bool.eq_false_iff.mpr
  intro htrue
  obtain ⟨p, hp⟩ := hr htrue
  rw [settle_of_missing hp] at h
  cases h

end Reading

/-! ### A filter in such a place -/

inductive FilterOption
  | none
  | joined (text : String)
  | apart (text : String) (h : Token.of text = .word text)

namespace FilterOption

def words : FilterOption → List String
  | none => []
  | joined text => ["--log=" ++ text]
  | apart text _ => ["--log", text]

def text? : FilterOption → Option String
  | none => Option.none
  | joined text => some text
  | apart text _ => some text

end FilterOption

namespace Reading

variable {level : Option Subcommand}

/-- Nothing is held, options are read as such, and no filter is given. -/
structure Ready (r : Reading) : Prop where
  held : r.held = none
  separated : r.separated = false
  log : r.given.log = none

namespace Ready

variable {r : Reading} (h : r.Ready)

include h

theorem settle : r.settle = .ok r := by
  rw [Reading.settle, h.held]

theorem awaitsValue : r.awaitsValue = false := awaitsValue_of_settle h.settle

theorem withLog_none : r.withLog none = r := by
  obtain ⟨⟨log, strict, verbose, dir, out, operand⟩, held, operand', separated⟩ := r
  cases h.log
  rfl

theorem step_joined (text : String) :
    r.step level ("--log=" ++ text) = .ok (r.withLog (some text)) := by
  have hset : r.given.set .log text = .ok { r.given with log := some text } := by
    rw [Given.set, Given.has, h.log]
    rfl
  rw [step_eq_token h.separated, token_filterWord]
  show r.long level "log" (some text) = _
  rw [long, ← named?, named?_log]
  show r.note .log text = _
  rw [note, h.settle]
  show (r.given.set .log text).map _ = _
  rw [hset]
  rfl

theorem step_apart : r.step level "--log" = .ok { r with held := some (.log, none) } := by
  have htoken : Token.of "--log" = .long "log" none := by decide
  rw [step_eq_token h.separated, htoken]
  show r.long level "log" none = _
  rw [long, ← named?, named?_log]
  show r.hold .log none = _
  rw [hold, h.settle]
  rfl

theorem awaitsValue_held :
    Reading.awaitsValue { r with held := some (.log, none) } = true :=
  awaitsValue_eq_true_iff.mpr ⟨h.separated, .log, rfl⟩

theorem step_value {text : String} (htext : Token.of text = .word text) :
    step level { r with held := some (.log, none) } text =
      .ok { r with held := some (.log, some text) } := by
  have hseparated : Reading.separated { r with held := some (.log, none) } = false := h.separated
  rw [step_eq_token hseparated, htext]
  show word level _ text = _
  rw [word, h.awaitsValue_held]

theorem settle_value (text : String) :
    Reading.settle { r with held := some (.log, some text) } = .ok (r.withLog (some text)) := by
  have hset : r.given.set .log text = .ok { r.given with log := some text } := by
    rw [Given.set, Given.has, h.log]
    rfl
  show (r.given.set .log text).map _ = _
  rw [hset]
  show Except.ok { r with given := _, held := none } = _
  rw [← h.held]
  rfl

/-- A filter that is given comes to another filter in the reading. -/
theorem all_filter {α : Type} {k : Reading → Except Refusal α}
    (hk : ∀ r r₀, r.settle = .ok r₀ → k r = k r₀) (o : FilterOption) (ws : List String) :
    (all level (o.words ++ ws) r).bind k = (all level ws (r.withLog o.text?)).bind k := by
  cases o with
  | none =>
    show _ = (all level ws (r.withLog none)).bind k
    rw [h.withLog_none]
    rfl
  | joined text =>
    show ((r.step level ("--log=" ++ text)).bind (all level ws)).bind k = _
    rw [h.step_joined]
    rfl
  | apart text htext =>
    show ((r.step level "--log").bind (all level (text :: ws))).bind k = _
    rw [h.step_apart]
    show ((step level _ text).bind (all level ws)).bind k = _
    rw [h.step_value htext]
    exact all_of_settle hk ws (h.settle_value text) (Bool.and_false _)

theorem upToSubcommand_filter {α : Type}
    {k : Reading × Option (Subcommand × List String) → Except Refusal α}
    (hk : ∀ r r₀ sub, r.settle = .ok r₀ → k (r, sub) = k (r₀, sub)) (o : FilterOption)
    (ws : List String) :
    (upToSubcommand (o.words ++ ws) r).bind k =
      (upToSubcommand ws (r.withLog o.text?)).bind k := by
  cases o with
  | none =>
    show _ = (upToSubcommand ws (r.withLog none)).bind k
    rw [h.withLog_none]
    rfl
  | joined text =>
    show (upToSubcommand (("--log=" ++ text) :: ws) r).bind k = _
    rw [upToSubcommand_cons (cut?_of_long (token_filterWord text)), h.step_joined]
    rfl
  | apart text htext =>
    have hlog : cut? none "--log" = none := by decide
    have hstep : upToSubcommand (text :: ws) { r with held := some (.log, none) } =
        (step none { r with held := some (.log, none) } text).bind (upToSubcommand ws) := by
      cases hcut : cut? none text with
      | none => exact upToSubcommand_cons hcut
      | some c => rw [upToSubcommand_cut hcut, h.awaitsValue_held, Bool.or_true, if_pos rfl]
    show (upToSubcommand ("--log" :: text :: ws) r).bind k = _
    rw [upToSubcommand_cons hlog, h.step_apart]
    show (upToSubcommand (text :: ws) _).bind k = _
    rw [hstep, h.step_value htext]
    exact upToSubcommand_of_settle hk ws (h.settle_value text) (Bool.and_false _)

end Ready

end Reading

/-! ### Levels with a filter -/

theorem fault_of_set {g : Given} {p : Parameter} {v : String} {r : Refusal} (hp : p ≠ .help)
    (h : g.set p v = .error r) : ∃ e, r = .error e := by
  rw [Given.set.eq_def] at h
  have hpath {p : Parameter} {k : String → Given} (h : (Given.path p v).map k = .error r) :
      ∃ e, r = .error e := by
    rw [Given.path] at h
    split at h
    · cases h
      exact ⟨_, rfl⟩
    · cases h
  have hnumber {p : Parameter} {k : UInt64 → Given} (h : (Given.number p v).map k = .error r) :
      ∃ e, r = .error e := by
    rw [Given.number] at h
    split at h
    · cases h
    · cases h
      exact ⟨_, rfl⟩
  split at h
  · cases h
    exact ⟨_, rfl⟩
  · cases p with
    | help => exact absurd rfl hp
    | log | strict | verbose => cases h
    | dir | out => exact hpath h
    | address | entry => exact hnumber h

theorem finish_of_settle (env : Environment) {r r₀ : Reading} (h : r.settle = .ok r₀) :
    finish env r = finish env r₀ := by
  rw [finish, finish, h, Reading.settle_of_settle h]

theorem finish_of_fault (env : Environment) {r : Reading} {e : ArgumentError}
    (h : r.settle = .error (.error e)) : ∃ e', finish env r = .error (.error e') := by
  rw [finish, h]
  exact ⟨e, rfl⟩

namespace Reading

/-- What is held is the value of a parameter that is no filter. -/
abbrev Unfiltered (r : Reading) : Prop :=
  r.Keeps (fun p => p ≠ .log ∧ p.takesValue = true) false

theorem unfiltered_start (c : Subcommand) : (Reading.start (some c)).Unfiltered where
  held := by
    intro p v h
    cases h
  operand := by
    intro p h
    cases c <;> cases h <;> exact ⟨by decide, rfl⟩
  separated := id

namespace Unfiltered

variable {r r₀ : Reading} (h : r.Unfiltered)

include h

theorem follows_all (f : Option String) (c : Subcommand) {ws : List String}
    (hws : unfiltered ws = ws) :
    Follows f (fun p => p ≠ .log ∧ p.takesValue = true) false (all (some c) ws r)
      (all (some c) ws (r.withLog f)) :=
  Reading.follows_all (fun _ hp => hp.1) (some c)
    (fun _ hname _ hp htakes => ⟨named?_ne_log hp hname, htakes⟩) ws h (Or.inr hws)

theorem fault_of_settle {x : Refusal} (hx : r.settle = .error x) : ∃ e, x = .error e := by
  obtain ⟨g, held, operand, separated⟩ := r
  rcases held with - | ⟨p, - | v⟩
  · cases hx
  · cases hx
    exact ⟨_, rfl⟩
  · rw [Reading.settle_value] at hx
    cases hset : g.set p v with
    | error y =>
      rw [hset] at hx
      cases hx
      refine fault_of_set ?_ hset
      rintro rfl
      cases (h.held .help _ rfl).2
    | ok g' =>
      rw [hset] at hx
      cases hx

/-- Where a filter may stand and what is held is good, the reading is ready for it. -/
theorem ready_of_settle (hlog : r.withLog none = r) (hintact : r.Intact)
    (hsettle : r.settle = .ok r₀) : r₀.Ready ∧ r₀.Unfiltered := by
  have hfollows := follows_settle (f := none) (fun _ hp => hp.1) h
  have hsame : (Except.ok r₀ : Except Refusal Reading) = .ok (r₀.withLog none) := by
    have heq := hfollows.eq_map
    rw [hlog, hsettle] at heq
    exact heq
  refine ⟨⟨?_, hintact.separated_of_settle hsettle, ?_⟩, hfollows.keeps r₀ hsettle⟩
  · rw [eq_of_settle hsettle]
  · rw [Except.ok.inj hsame]
    rfl

/-- **A filter has noted what is held**, and if that is good it changes nothing else. -/
theorem all_filter (o : FilterOption) (e : Option String) (env : Environment) (c : Subcommand)
    (hlog : r.withLog none = r) (hintact : r.Intact) (hawaits : r.awaitsValue = false)
    {ws : List String} (hws : unfiltered ws = ws) :
    EqUnless (r.held ≠ none)
      ((all (some c) (o.words ++ ws) r).bind (finish { env with log := e }))
      (((all (some c) ws r).bind (finish env.unfiltered)).map (Given.withLog o.text?)) := by
  cases hsettle : r.settle with
  | error x =>
    obtain ⟨e₀, rfl⟩ := h.fault_of_settle hsettle
    have hfault (env : Environment) (ws : List String) :
        ∃ e', (all (some c) ws r).bind (finish env) = .error (.error e') :=
      all_of_fault (fun _ _ => finish_of_fault env) ws hsettle hawaits
    obtain ⟨e₁, he₁⟩ := hfault { env with log := e } (o.words ++ ws)
    obtain ⟨e₂, he₂⟩ := hfault env.unfiltered ws
    rw [he₁, he₂]
    refine .faults ?_ e₁ e₂
    intro hheld
    rw [settle, hheld] at hsettle
    cases hsettle
  | ok r₀ =>
    obtain ⟨hready, hr₀⟩ := h.ready_of_settle hlog hintact hsettle
    have hfollows := hr₀.follows_all o.text? c hws
    rw [all_of_settle (fun _ _ => finish_of_settle { env with log := e }) _ hsettle hawaits,
      all_of_settle (fun _ _ => finish_of_settle env.unfiltered) _ hsettle hawaits,
      hready.all_filter (fun _ _ => finish_of_settle { env with log := e }), hfollows.eq_map]
    apply EqUnless.of_eq
    cases hall : all (some c) ws r₀ with
    | error x => rfl
    | ok r' => exact finish_withLog o.text? e (fun _ hp => hp.1) env (hfollows.keeps r' hall)

end Unfiltered

end Reading

theorem subcommandRequest_eq (env : Environment) (c : Subcommand) (ws : List String) :
    subcommandRequest env c ws =
      ((Reading.all (some c) ws (.start (some c))).bind (finish env)).bind fun g =>
        (requestOf g c).map fun q => (g, q) := by
  rw [subcommandRequest]
  cases Reading.all (some c) ws (.start (some c)) <;> rfl

/-- **What a subcommand is asked with a filter among its words** is what it is asked without it.
Only where there are words ahead of the filter may another fault be told. -/
theorem subcommandRequest_place (o : FilterOption) (e : Option String) (env : Environment)
    (c : Subcommand) {xs ys : List String} (hxs : unfiltered xs = xs) (hys : unfiltered ys = ys)
    (hpause : pauses (some c) false xs = true) :
    EqUnless (xs ≠ []) (subcommandRequest { env with log := e } c (xs ++ (o.words ++ ys)))
      ((subcommandRequest env.unfiltered c (xs ++ ys)).map fun x =>
        (x.1.withLog o.text?, x.2)) := by
  have hfollows := (Reading.unfiltered_start c).follows_all none c hxs
  have hrequest (x : Except Refusal Given) :
      (x.bind fun g => (requestOf g c).map fun q => (g, q)).map
          (fun x => (x.1.withLog o.text?, x.2)) =
        (x.map (Given.withLog o.text?)).bind fun g => (requestOf g c).map fun q => (g, q) := by
    cases x with
    | error _ => rfl
    | ok g =>
      show ((requestOf g c).map _).map _ = (requestOf (g.withLog o.text?) c).map _
      rw [requestOf_withLog]
      cases requestOf g c <;> rfl
  rw [subcommandRequest_eq, subcommandRequest_eq, Reading.all_append, Reading.all_append, hrequest]
  apply EqUnless.bind
  cases hr : Reading.all (some c) xs (.start (some c)) with
  | error x => exact .eq _
  | ok r =>
    have hlog : r.withLog none = r := by
      have heq : Reading.all (some c) xs (.start (some c)) = _ := hfollows.eq_map
      rw [hr] at heq
      exact (Except.ok.inj heq).symm
    have hstart : (Reading.start (some c)).Intact := fun h => absurd h Bool.false_ne_true
    obtain ⟨hintact, hawaits⟩ := hstart.all hpause hr
    have hunfiltered : r.Unfiltered := hfollows.keeps r hr
    refine (Reading.Unfiltered.all_filter hunfiltered o e env c hlog hintact hawaits hys).mono ?_
    rintro hheld rfl
    cases hr
    exact hheld rfl

/-! ### Ahead of a subcommand -/

namespace Reading

theorem upToSubcommand_of_front {xs : List String} (hxs : ∀ w ∈ xs, cut? none w = none)
    (ys : List String) (r : Reading) :
    upToSubcommand (xs ++ ys) r = (all none xs r).bind (upToSubcommand ys) := by
  induction xs generalizing r with
  | nil => rfl
  | cons w xs ih =>
    rw [List.cons_append, upToSubcommand_cons (hxs w List.mem_cons_self), all]
    cases r.step none w with
    | error e => rfl
    | ok r' => exact ih (fun w hw => hxs w (List.mem_cons_of_mem _ hw)) r'

/-- Ahead of a subcommand the words between options are no subcommands, as only a filter has a
value there. -/
theorem cut?_of_pauses {xs : List String} (hpause : pauses none false xs = true)
    (hxs : unfiltered xs = xs) : ∀ w ∈ xs, cut? none w = none := by
  induction xs with
  | nil => exact fun w hw => absurd hw List.not_mem_nil
  | cons w xs ih =>
    obtain ⟨hlog, hrest⟩ := unfiltered_cons hxs
    cases hcut : cut? none w with
    | some c =>
      rw [pauses, hcut] at hpause
      cases hpause
    | none =>
      have hnext (hpause : pauses none false xs = true) (hw : Token.of w ≠ .separator) :
          ∀ v ∈ w :: xs, cut? none v = none :=
        List.forall_mem_cons.mpr ⟨hcut, ih hpause (hrest.resolve_left hw)⟩
      cases htoken : Token.of w with
      | separator =>
        rw [pauses, hcut, htoken] at hpause
        cases hpause
      | long name value =>
        rw [pauses, hcut, htoken] at hpause
        refine hnext ?_ (by simp [htoken])
        cases value with
        | some v => exact hpause
        | none =>
          have htakes : (named? none name).any (·.takesValue) = false := by
            apply Bool.eq_false_iff.mpr
            rw [Ne, Option.any_eq_true]
            rintro ⟨p, hp, htakes⟩
            have hname : name ≠ "log" := by
              rintro rfl
              exact hlog none htoken
            exact takesValue_of_named? hname hp htakes
          have hpause : pauses none ((named? none name).any (·.takesValue)) xs = true := hpause
          rwa [htakes] at hpause
      | short cs =>
        rw [pauses, hcut, htoken] at hpause
        exact hnext hpause (by simp [htoken])
      | word t =>
        rw [pauses, hcut, htoken] at hpause
        exact hnext hpause (by simp [htoken])

theorem Bare.follows_all {r : Reading} (h : r.Bare) (f : Option String) {ws : List String}
    (hws : unfiltered ws = ws) :
    Follows f (fun _ => False) false (all none ws r) (all none ws (r.withLog f)) :=
  Reading.follows_all (fun _ hp => hp.elim) none
    (fun _ hname _ hp htakes => takesValue_of_named? hname hp htakes) ws h (Or.inr hws)

/-- Between two options ahead of a subcommand a reading is ready for a filter. -/
theorem ready_of_pauses {xs : List String} (hpause : pauses none false xs = true)
    (hxs : unfiltered xs = xs) {r : Reading} (hr : all none xs (.start none) = .ok r) :
    r.Ready ∧ r.Bare := by
  have hfollows := bare_start.follows_all none hxs
  have hbare := hfollows.keeps r hr
  have hlog : r = r.withLog none := by
    have heq : all none xs (.start none) = _ := hfollows.eq_map
    rw [hr] at heq
    exact Except.ok.inj heq
  have hstart : (Reading.start none).Intact := fun h => absurd h Bool.false_ne_true
  have hintact := (hstart.all hpause hr).1
  have hheld : r.held = none := by
    cases h : r.held with
    | none => rfl
    | some x => exact (hbare.held x.1 x.2 h).elim
  refine ⟨⟨hheld, ?_, ?_⟩, hbare⟩
  · apply Bool.eq_false_iff.mpr
    intro htrue
    obtain ⟨p, hp⟩ := hintact htrue
    exact hbare.held p none hp
  · rw [hlog]
    rfl

end Reading

/-! ### Whole command lines -/

/-- What is asked after the words up to a subcommand. -/
def askedAfter (env : Environment) :
    Reading × Option (Subcommand × List String) → Except Refusal (Settings × Request)
  | (r, none) => (finish env r).map fun g => (settings env g .nothing, .dialogue)
  | (r, some (c, words)) =>
    (subcommandRequest env c words).bind fun x =>
      (finish env r).map fun g => (settings env g x.1, x.2)

theorem interpret_eq (args : List String) (env : Environment) :
    interpret args env = (Reading.upToSubcommand args (.start none)).bind (askedAfter env) := by
  rw [interpret]
  cases Reading.upToSubcommand args (.start none) with
  | error x => rfl
  | ok x =>
    obtain ⟨r, sub⟩ := x
    cases sub <;> rfl

theorem askedAfter_of_settle (env : Environment) {r r₀ : Reading}
    (sub : Option (Subcommand × List String)) (h : r.settle = .ok r₀) :
    askedAfter env (r, sub) = askedAfter env (r₀, sub) := by
  cases sub <;> simp only [askedAfter, finish_of_settle env h]

def Settings.withLog (f : String) (s : Settings) : Settings := { s with log := f }

/-- What is asked of a subcommand, with filters ahead of it and among its words. -/
theorem askedAfter_call (before : Option String) (o : FilterOption) (e : Option String)
    (env : Environment) {r : Reading} (hr : r.Bare) (c : Subcommand) {xs ys : List String}
    (hxs : unfiltered xs = xs) (hys : unfiltered ys = ys)
    (hpause : pauses (some c) false xs = true) :
    EqUnless (xs ≠ [])
      (askedAfter { env with log := e } (r.withLog before, some (c, xs ++ (o.words ++ ys))))
      ((askedAfter env.unfiltered (r, some (c, xs ++ ys))).map fun x =>
        (x.1.withLog (((o.text?.or before).or e).getD Settings.standard.log), x.2)) := by
  have hplace := subcommandRequest_place o e env c hxs hys hpause
  have hfinish := finish_withLog before e (fun _ hp => hp.elim) env hr
  have hasked (y : Except Refusal (Given × Request)) :
      (y.bind fun x => (finish env.unfiltered r).map fun g =>
          (settings env.unfiltered g x.1, x.2)).map (fun x =>
            (x.1.withLog (((o.text?.or before).or e).getD Settings.standard.log), x.2)) =
        (y.map fun x => (x.1.withLog o.text?, x.2)).bind fun x =>
          (finish { env with log := e } (r.withLog before)).map fun g =>
            (settings { env with log := e } g x.1, x.2) := by
    rw [hfinish]
    cases y with
    | error _ => rfl
    | ok x => cases finish env.unfiltered r <;> rfl
  simp only [askedAfter, hasked]
  exact hplace.bind _

theorem askedAfter_withLog (before e : Option String) (env : Environment) {r : Reading}
    (hr : r.Bare) {sub : Option (Subcommand × List String)}
    (hsub : ∀ c ws, sub = some (c, ws) → unfiltered ws = ws) :
    askedAfter { env with log := e } (r.withLog before, sub) =
      (askedAfter env.unfiltered (r, sub)).map fun x =>
        (x.1.withLog ((before.or e).getD Settings.standard.log), x.2) := by
  rcases sub with - | ⟨c, ws⟩
  · simp only [askedAfter, finish_withLog before e (fun _ hp => hp.elim) env hr]
    cases finish env.unfiltered r <;> rfl
  · have hcall := askedAfter_call before .none e env hr c (rfl : unfiltered [] = []) (hsub c ws rfl)
      rfl
    exact hcall.eq_of_not fun h => h rfl

theorem upToSubcommand_rest (before e : Option String) (env : Environment) {r : Reading}
    (hr : r.Bare) {rest : List String} (hrest : unfiltered rest = rest) :
    (Reading.upToSubcommand rest (r.withLog before)).bind (askedAfter { env with log := e }) =
      ((Reading.upToSubcommand rest r).bind (askedAfter env.unfiltered)).map fun x =>
        (x.1.withLog ((before.or e).getD Settings.standard.log), x.2) := by
  rw [Reading.upToSubcommand_withLog rest hr (Or.inr hrest)]
  cases hx : Reading.upToSubcommand rest r with
  | error x => rfl
  | ok x =>
    obtain ⟨hbare, hsub⟩ := Reading.bare_of_upToSubcommand hr (Or.inr hrest) hx
    exact askedAfter_withLog before e env hbare hsub

theorem upToSubcommand_call (before : Option String) (o : FilterOption) (e : Option String)
    (env : Environment) {r : Reading} (hr : r.Bare) {rest : List String}
    (hrest : unfiltered rest = rest) (hcut : ∀ w ∈ rest, cut? none w = none) (c : Subcommand)
    {xs ys : List String} (hxs : unfiltered xs = xs) (hys : unfiltered ys = ys)
    (hpause : pauses (some c) false xs = true) :
    EqUnless (xs ≠ [])
      ((Reading.upToSubcommand (rest ++ c.name :: (xs ++ (o.words ++ ys)))
        (r.withLog before)).bind (askedAfter { env with log := e }))
      (((Reading.upToSubcommand (rest ++ c.name :: (xs ++ ys)) r).bind
        (askedAfter env.unfiltered)).map fun x =>
          (x.1.withLog (((o.text?.or before).or e).getD Settings.standard.log), x.2)) := by
  have hfollows := hr.follows_all before hrest
  rw [Reading.upToSubcommand_of_front hcut, Reading.upToSubcommand_of_front hcut, hfollows.eq_map]
  cases hx : Reading.all none rest r with
  | error x => exact .eq _
  | ok x =>
    have hbare : x.Bare := hfollows.keeps x hx
    have hname := Reading.upToSubcommand_name c (xs ++ ys) hbare
    have hname' : Reading.upToSubcommand (c.name :: (xs ++ (o.words ++ ys))) (x.withLog before) =
        if x.separated then .error (.error (x.useless none c.name))
        else .ok (x.withLog before, some (c, xs ++ (o.words ++ ys))) :=
      Reading.upToSubcommand_name c _ (Reading.Keeps.withLog hbare before)
    show EqUnless _ ((Reading.upToSubcommand (c.name :: _) (x.withLog before)).bind _)
      (((Reading.upToSubcommand (c.name :: _) x).bind _).map _)
    rw [hname, hname']
    cases x.separated with
    | true => exact .eq _
    | false => exact askedAfter_call before o e env hbare c hxs hys hpause

theorem upToSubcommand_front (o : FilterOption) (env : Environment) {front : List String}
    (hpause : pauses none false front = true) (hfront : unfiltered front = front)
    (ys : List String) :
    (Reading.upToSubcommand (front ++ (o.words ++ ys)) (.start none)).bind (askedAfter env) =
      (Reading.all none front (.start none)).bind fun r =>
        (Reading.upToSubcommand ys (r.withLog o.text?)).bind (askedAfter env) := by
  rw [Reading.upToSubcommand_of_front (Reading.cut?_of_pauses hpause hfront)]
  cases hr : Reading.all none front (.start none) with
  | error x => rfl
  | ok r =>
    obtain ⟨hready, -⟩ := Reading.ready_of_pauses hpause hfront hr
    exact hready.upToSubcommand_filter (fun _ _ sub => askedAfter_of_settle env sub) o ys

structure Filters where
  before : FilterOption
  after : FilterOption
  environment : Option String

def Filters.none : Filters := ⟨.none, .none, Option.none⟩

/-- A command line without a filter, with a place for one ahead of the subcommand and one after
it. -/
structure Line where
  /-- The words ahead of the subcommand, up to the place and from there. -/
  front : List String × List String
  /-- The subcommand, and the words after it in the same way. -/
  call : Option (Subcommand × List String × List String)

namespace Line

def words (g : Filters) (l : Line) : List String :=
  l.front.1 ++ (g.before.words ++ (l.front.2 ++
    match l.call with
    | none => []
    | some (c, back) => c.name :: (back.1 ++ (g.after.words ++ back.2))))

/-- The filter that counts: the one after the subcommand, the one ahead of it, the one of the
environment and the standard one, whichever is the first that is given. -/
def filter (g : Filters) (l : Line) : String :=
  (((l.call.bind fun _ => g.after.text?).or g.before.text?).or g.environment).getD
    Settings.standard.log

/-- No filter is given otherwise, and both places are between options. -/
structure Free (l : Line) : Prop where
  front : unfiltered l.front.1 = l.front.1 ∧ unfiltered l.front.2 = l.front.2
  pauses : pauses none false l.front.1 = true
  back : ∀ c back, l.call = some (c, back) → (∀ w ∈ l.front.2, cut? none w = none) ∧
    (unfiltered back.1 = back.1 ∧ unfiltered back.2 = back.2) ∧
    Command.pauses (some c) false back.1 = true

/-- There are words between the subcommand and the place after it. -/
def Late (l : Line) : Prop := ∃ c back, l.call = some (c, back) ∧ back.1 ≠ []

end Line

/-- **Filters between options change nothing but the filter**, also where the words are refused,
unless there are words between the subcommand and a filter.  Then another fault may be told. -/
theorem interpret_words (env : Environment) {l : Line} (hl : l.Free) (g : Filters) :
    EqUnless l.Late (interpret (l.words g) { env with log := g.environment })
      ((interpret (l.words .none) env.unfiltered).map fun x =>
        (x.1.withLog (l.filter g), x.2)) := by
  obtain ⟨⟨front, rest⟩, call⟩ := l
  obtain ⟨⟨hfront, hrest⟩, hpause, hcall⟩ := hl
  rw [interpret_eq, interpret_eq, Line.words, Line.words,
    upToSubcommand_front g.before _ hpause hfront,
    upToSubcommand_front Filters.none.before _ hpause hfront]
  cases hr : Reading.all none front (.start none) with
  | error x => exact .eq _
  | ok r =>
    obtain ⟨hready, hbare⟩ := Reading.ready_of_pauses hpause hfront hr
    have hnone : r.withLog Filters.none.before.text? = r := hready.withLog_none
    show EqUnless _ ((Reading.upToSubcommand _ (r.withLog g.before.text?)).bind _)
      (((Reading.upToSubcommand _ (r.withLog Filters.none.before.text?)).bind _).map _)
    rw [hnone]
    rcases call with - | ⟨c, back⟩
    · dsimp only
      rw [List.append_nil]
      exact .of_eq (upToSubcommand_rest g.before.text? g.environment env hbare hrest)
    · obtain ⟨hcuts, hback, hpauses⟩ := hcall c back rfl
      have hcalled := upToSubcommand_call g.before.text? g.after g.environment env hbare hrest
        hcuts c hback.1 hback.2 hpauses
      exact hcalled.mono fun hne => ⟨c, back, rfl, hne⟩

end Paging.Command
