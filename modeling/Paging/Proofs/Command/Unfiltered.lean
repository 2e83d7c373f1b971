import Paging.Proofs.Command.Reading

/-!
# Words without a filter

A log filter may be given anywhere among the words of a level.  To leave out the words that give it
leaves out its note and no other (`spared`), and no other note minds whether there is a filter.  So
what is asked stays the same (`interpret_unfiltered`).
-/

namespace Paging.Command

/-! ### Words without those that give a filter -/

/-- The words but for those that give a log filter, the first of which may be the filter alone. -/
@[simp] def unfilteredFrom : Bool → List String → List String
  | _, [] => []
  | true, _ :: ws => unfilteredFrom false ws
  | false, w :: ws =>
    match Token.of w with
    | .separator => w :: ws
    | .long name value =>
      if name = "log" then unfilteredFrom value.isNone ws else w :: unfilteredFrom false ws
    | _ => w :: unfilteredFrom false ws

def unfiltered (ws : List String) : List String := unfilteredFrom false ws

theorem unfilteredFrom_separator {w : String} (ws : List String) (h : Token.of w = .separator) :
    unfilteredFrom false (w :: ws) = w :: ws := by
  rw [unfilteredFrom, h]

theorem unfilteredFrom_log {w : String} (ws : List String) {value : Option String}
    (h : Token.of w = .long "log" value) :
    unfilteredFrom false (w :: ws) = unfilteredFrom value.isNone ws := by
  rw [unfilteredFrom, h]
  exact if_pos rfl

theorem unfilteredFrom_cons {w : String} (ws : List String) (hseparator : Token.of w ≠ .separator)
    (hlog : ∀ value, Token.of w ≠ .long "log" value) :
    unfilteredFrom false (w :: ws) = w :: unfilteredFrom false ws := by
  rw [unfilteredFrom]
  split
  · next h => exact absurd h hseparator
  · next name value h =>
    have hname : name ≠ "log" := by
      rintro rfl
      exact hlog value h
    exact if_neg hname
  · rfl

theorem unfilteredFrom_word {w : String} (ws : List String) {t : String}
    (h : Token.of w = .word t) :
    unfilteredFrom false (w :: ws) = w :: unfilteredFrom false ws :=
  unfilteredFrom_cons ws (by simp [h]) (by simp [h])

/-! ### Notes without the filter -/

def Given.withLog (f : Option String) (g : Given) : Given := { g with log := f }

def Cut.unfiltered (cut : Cut) : Cut := cut.map fun x => (x.1, Command.unfiltered x.2)

def notesUnfiltered (ns : List Note) : List Note := ns.filter (·.1 ≠ .log)

theorem notesUnfiltered_of_forall {ns : List Note} (h : ∀ n ∈ ns, n.1 ≠ .log) :
    notesUnfiltered ns = ns :=
  List.filter_eq_self.mpr fun n hn => decide_eq_true (h n hn)

theorem named?_log (level : Option Subcommand) : named? level "log" = some .log := by
  rcases level with - | c
  · rfl
  · cases c <;> rfl

theorem long?_of_named? {level : Option Subcommand} {name : String} {p : Parameter}
    (h : named? level name = some p) : p.long? = some name := by
  rw [named?] at h
  have hlong := List.find?_some h
  exact beq_iff_eq.mp hlong

theorem named?_ne_log {level : Option Subcommand} {name : String} {p : Parameter}
    (h : named? level name = some p) (hname : name ≠ "log") : p ≠ .log := by
  rintro rfl
  exact hname (Option.some.inj (long?_of_named? h)).symm

/-- No letter gives a value or a setting. -/
theorem eq_of_lettered? {level : Option Subcommand} {c : Char} {p : Parameter}
    (h : lettered? level c = some p) : p = .help ∨ p = .verbose := by
  rw [lettered?] at h
  have hletter := List.find?_some h
  cases p with
  | help => exact Or.inl rfl
  | verbose => exact Or.inr rfl
  | _ => cases hletter

theorem eq_of_letters? {level : Option Subcommand} {cs : List Char} {ns : List Note}
    (h : letters? level cs = some ns) : ∀ n ∈ ns, n.1 = .help ∨ n.1 = .verbose := by
  induction cs generalizing ns with
  | nil =>
    cases h
    exact fun n hn => absurd hn List.not_mem_nil
  | cons c cs ih =>
    rw [letters?, Option.bind_eq_some_iff] at h
    obtain ⟨p, hp, h⟩ := h
    obtain ⟨ns, hns, rfl⟩ := Option.map_eq_some_iff.mp h
    intro n hn
    rcases List.mem_cons.mp hn with rfl | hn
    · exact eq_of_lettered? hp
    · exact ih hns n hn

theorem lettered?_ne_log {level : Option Subcommand} {c : Char} {p : Parameter}
    (h : lettered? level c = some p) : p ≠ .log := by
  rcases eq_of_lettered? h with rfl | rfl <;> decide

theorem letters?_ne_log {level : Option Subcommand} {cs : List Char} {ns : List Note}
    (h : letters? level cs = some ns) : ∀ n ∈ ns, n.1 ≠ .log := by
  intro n hn
  rcases eq_of_letters? h n hn with hp | hp <;> simp [hp]

/-- Words that stand for themselves give at most the operand. -/
theorem spelled?_separated {level : Option Subcommand} {operand : Option Parameter}
    {ws : List String} {ns : List Note} {cut : Cut}
    (h : spelled? level true none operand ws = some (ns, cut)) :
    cut = none ∧ ∀ n ∈ ns, operand = some n.1 := by
  induction ws generalizing operand ns with
  | nil =>
    cases h
    exact ⟨rfl, fun n hn => absurd hn List.not_mem_nil⟩
  | cons w ws ih =>
    rw [spelled?, Option.bind_eq_some_iff] at h
    obtain ⟨p, rfl, h⟩ := h
    obtain ⟨ns, hrest, rfl⟩ := map_after_eq_some h
    obtain ⟨hcut, hns⟩ := ih hrest
    refine ⟨hcut, ?_⟩
    intro n hn
    rcases List.mem_cons.mp hn with rfl | hn
    · rfl
    · exact absurd (hns n hn) (by simp)

/-- Where the level ends there is no option. -/
theorem token_of_cut {level : Option Subcommand} {w : String} {c : Option Subcommand}
    (h : cut? level w = some c) : Token.of w = .word w := by
  rcases level with - | _
  · rw [cut?] at h
    split at h
    · next hhelp =>
      rw [hhelp]
      decide
    · obtain ⟨c', hc', -⟩ := Option.map_eq_some_iff.mp h
      rw [Subcommand.ofName?] at hc'
      have hname := List.find?_some hc'
      rw [← beq_iff_eq.mp hname]
      cases c' <;> decide
  · cases h

/-- Whether `y` is spelled as `x` is, if anything is, but for the filter. -/
def Unfilters (x y : Option Spelling) : Prop :=
  ∀ ns cut, x = some (ns, cut) → y = some (notesUnfiltered ns, Cut.unfiltered cut)

namespace Unfilters

theorem none (y : Option Spelling) : Unfilters none y := by
  intro ns cut h
  cases h

theorem bind {α : Type} {x : Option α} {f f' : α → Option Spelling}
    (h : ∀ a, x = some a → Unfilters (f a) (f' a)) : Unfilters (x.bind f) (x.bind f') := by
  cases x with
  | none => exact .none _
  | some a => exact h a rfl

theorem after {x y : Option Spelling} (h : Unfilters x y) {ns : List Note}
    (hns : ∀ n ∈ ns, n.1 ≠ .log) :
    Unfilters (x.map (Spelling.after ns)) (y.map (Spelling.after ns)) := by
  intro ms cut hx
  obtain ⟨ms, hrest, rfl⟩ := map_after_eq_some hx
  have hnotes : notesUnfiltered (ns ++ ms) = ns ++ notesUnfiltered ms := by
    rw [notesUnfiltered, List.filter_append]
    exact congrArg (· ++ _) (notesUnfiltered_of_forall hns)
  rw [h ms cut hrest, hnotes]
  rfl

theorem after_one {x y : Option Spelling} (h : Unfilters x y) {p : Parameter} (hp : p ≠ .log)
    (v : String) :
    Unfilters (x.map (Spelling.after [(p, v)])) (y.map (Spelling.after [(p, v)])) :=
  h.after fun n hn => by rwa [List.mem_singleton.mp hn]

theorem after_log {x y : Option Spelling} (h : Unfilters x y) (v : String) :
    Unfilters (x.map (Spelling.after [(.log, v)])) y := by
  intro ms cut hx
  obtain ⟨ms, hrest, rfl⟩ := map_after_eq_some hx
  exact h ms cut hrest

end Unfilters

/-- To leave out the filter leaves out its note and no other, whatever is awaited ahead of the
words. -/
structure Spared (level : Option Subcommand) (ws : List String) : Prop where
  free : ∀ operand, operand ≠ some .log →
    Unfilters (spelled? level false none operand ws)
      (spelled? level false none operand (unfilteredFrom false ws))
  log : ∀ operand, operand ≠ some .log →
    Unfilters (spelled? level false (some .log) operand ws)
      (spelled? level false none operand (unfilteredFrom true ws))
  other : ∀ p operand, p ≠ .log → operand ≠ some .log →
    Unfilters (spelled? level false (some p) operand ws)
      (spelled? level false (some p) operand (unfilteredFrom false ws))

namespace Spared

theorem nil (level : Option Subcommand) : Spared level [] where
  free := by
    intro operand _ ns cut h
    cases h
    rfl
  log := fun _ _ => .none _
  other := fun _ _ _ _ => .none _

variable {level : Option Subcommand} {ws : List String} (h : Spared level ws)
  {operand : Option Parameter} (hoperand : operand ≠ some .log) (w : String)

include h hoperand

/-- The word after the name of the filter is the filter. -/
theorem cons_log : Unfilters (spelled? level false (some .log) operand (w :: ws))
    (spelled? level false none operand (unfilteredFrom true (w :: ws))) := by
  rw [spelled?]
  split
  · exact (h.free operand hoperand).after_log _
  · exact .none _

theorem cons_other {p : Parameter} (hp : p ≠ .log) :
    Unfilters (spelled? level false (some p) operand (w :: ws))
      (spelled? level false (some p) operand (unfilteredFrom false (w :: ws))) := by
  rw [spelled?]
  split
  · next v htoken =>
    rw [unfilteredFrom_word ws htoken, spelled?, htoken]
    exact (h.free operand hoperand).after_one hp v
  · exact .none _

theorem cons_long {w : String} (hcut : cut? level w = none) {name : String}
    {value : Option String} (htoken : Token.of w = .long name value) :
    Unfilters (spelled? level false none operand (w :: ws))
      (spelled? level false none operand (unfilteredFrom false (w :: ws))) := by
  rw [spelled?, hcut, htoken]
  dsimp only
  by_cases hname : name = "log"
  · cases hname
    rw [unfilteredFrom_log ws htoken, named?_log]
    cases value with
    | none => exact h.log operand hoperand
    | some v => exact (h.free operand hoperand).after_log v
  · have hkept : unfilteredFrom false (w :: ws) = w :: unfilteredFrom false ws :=
      unfilteredFrom_cons ws (by simp [htoken]) (by simp [htoken, hname])
    rw [hkept, spelled?, hcut, htoken]
    refine Unfilters.bind fun p hp => ?_
    have hlog := named?_ne_log hp hname
    cases p.takesValue <;> cases value
    · exact (h.free operand hoperand).after_one hlog ""
    · exact .none _
    · exact h.other p operand hlog hoperand
    · exact (h.free operand hoperand).after_one hlog _

theorem cons_free : Unfilters (spelled? level false none operand (w :: ws))
    (spelled? level false none operand (unfilteredFrom false (w :: ws))) := by
  cases hcut : cut? level w with
  | some c =>
    rw [spelled?, hcut, unfilteredFrom_word ws (token_of_cut hcut), spelled?, hcut]
    cases c with
    | none => exact .none _
    | some c =>
      intro ns cut h
      cases h
      rfl
  | none =>
    cases htoken : Token.of w with
    | separator =>
      rw [unfilteredFrom_separator ws htoken, spelled?, hcut, htoken]
      intro ns cut h
      obtain ⟨rfl, hns⟩ := spelled?_separated h
      have hlog : ∀ n ∈ ns, n.1 ≠ .log := fun n hn hp => hoperand (hp ▸ hns n hn)
      dsimp only at h ⊢
      rw [h, notesUnfiltered_of_forall hlog]
      rfl
    | long name value => exact h.cons_long hoperand hcut htoken
    | short cs =>
      have hkept : unfilteredFrom false (w :: ws) = w :: unfilteredFrom false ws :=
        unfilteredFrom_cons ws (by simp [htoken]) (by simp [htoken])
      rw [hkept, spelled?, spelled?, hcut, htoken]
      refine Unfilters.bind fun ns hns => ?_
      exact (h.free operand hoperand).after (letters?_ne_log hns)
    | word t =>
      rw [unfilteredFrom_word ws htoken, spelled?, spelled?, hcut, htoken]
      refine Unfilters.bind fun p hp => ?_
      have hlog : p ≠ .log := fun h => hoperand (h ▸ hp)
      exact (h.free none (by simp)).after_one hlog t

end Spared

/-- **To leave out the filter leaves out its note**, and nothing else. -/
theorem spared (level : Option Subcommand) (ws : List String) : Spared level ws := by
  induction ws with
  | nil => exact .nil level
  | cons w ws ih =>
    constructor
    · intro operand hoperand
      exact ih.cons_free hoperand w
    · intro operand hoperand
      exact ih.cons_log hoperand w
    · intro p operand hp hoperand
      exact ih.cons_other hoperand w hp

/-! ### What is asked without the filter -/

namespace Given

theorem withLog_of_note?_log {g g' : Given} {v : String} (h : g.note? (.log, v) = some g')
    (f : Option String) : g'.withLog f = g.withLog f := by
  rw [note?, set] at h
  split at h
  · cases h
  · cases h
    rfl

/-- No other parameter minds the filter. -/
theorem set_withLog (f : Option String) (g : Given) {p : Parameter} (hp : p ≠ .log) (v : String) :
    (g.withLog f).set p v = (g.set p v).map (withLog f) := by
  obtain ⟨log, strict, verbose, dir, out, operand⟩ := g
  have hmap {α : Type} (x : Except Refusal α) (k : α → Given) :
      x.map (fun a => (k a).withLog f) = (x.map k).map (withLog f) := by cases x <;> rfl
  cases p with
  | log => exact absurd rfl hp
  | strict => cases strict <;> rfl
  | help => rfl
  | verbose => cases verbose <;> rfl
  | dir =>
    cases dir with
    | some _ => rfl
    | none => exact hmap (path .dir v) fun d => ⟨log, strict, verbose, some d, out, operand⟩
  | out =>
    cases out with
    | some _ => rfl
    | none => exact hmap (path .out v) fun o => ⟨log, strict, verbose, dir, some o, operand⟩
  | address =>
    cases operand with
    | some _ => rfl
    | none => exact hmap (number .address v) fun n => ⟨log, strict, verbose, dir, out, some n⟩
  | entry =>
    cases operand with
    | some _ => rfl
    | none => exact hmap (number .entry v) fun n => ⟨log, strict, verbose, dir, out, some n⟩

theorem note?_withLog (f : Option String) (g : Given) {n : Note} (hn : n.1 ≠ .log) :
    (g.withLog f).note? n = (g.note? n).map (withLog f) := by
  rw [note?, set_withLog f g hn, toOption_map, ← note?]

theorem noteAll?_withLog (f : Option String) {g g' : Given} {ns : List Note}
    (h : g.noteAll? ns = some g') :
    (g.withLog f).noteAll? (notesUnfiltered ns) = some (g'.withLog f) := by
  induction ns generalizing g with
  | nil =>
    cases h
    rfl
  | cons n ns ih =>
    rw [noteAll?_cons, Option.bind_eq_some_iff] at h
    obtain ⟨g₁, hnote, hrest⟩ := h
    by_cases hn : n.1 = .log
    · obtain ⟨p, v⟩ := n
      cases hn
      rw [← withLog_of_note?_log hnote]
      exact ih hrest
    · rw [notesUnfiltered, List.filter_cons_of_pos (by simpa using hn), noteAll?_cons,
        note?_withLog f g hn, hnote]
      exact ih hrest

end Given

theorem operand_ne_log (level : Option Subcommand) : Subcommand.operand level ≠ some .log := by
  rcases level with - | c
  · decide
  · cases c <;> decide

theorem level?_unfiltered {level : Option Subcommand} {ws : List String} {g : Given} {cut : Cut}
    (h : level? level ws = some (g, cut)) :
    level? level (unfiltered ws) = some (g.withLog none, cut.unfiltered) := by
  obtain ⟨ns, hspelled, hnoted⟩ := level?_eq_some_iff.mp h
  have hunfiltered := (spared level ws).free _ (operand_ne_log level) ns cut hspelled
  exact level?_eq_some_iff.mpr ⟨_, hunfiltered, Given.noteAll?_withLog none hnoted⟩

def Environment.unfiltered (env : Environment) : Environment := { env with log := none }

def Settings.unfiltered (s : Settings) : Settings := { s with log := standard.log }

theorem ended?_withLog (f : Option String) (env : Environment) (g : Given) :
    (g.withLog f).ended? env.unfiltered = (g.ended? env).map (Given.withLog f) := by
  show (if g.strict then _ else env.asksStrict.toOption.map _) = _
  rw [Given.ended?]
  split
  · rfl
  · cases env.asksStrict <;> rfl

theorem requestOf_withLog (f : Option String) (g : Given) (c : Subcommand) :
    requestOf (g.withLog f) c = requestOf g c := by
  cases c <;> rfl

theorem askedOf?_unfiltered {env : Environment} {c : Subcommand} {ws : List String} {g : Given}
    {q : Request} (h : askedOf? env c ws = some (g, q)) :
    askedOf? env.unfiltered c (unfiltered ws) = some (g.withLog none, q) := by
  rw [askedOf?, Option.bind_eq_some_iff] at h
  obtain ⟨⟨g₀, cut⟩, hlevel, h⟩ := h
  obtain ⟨g, hended, h⟩ := Option.bind_eq_some_iff.mp h
  obtain ⟨q, hrequest, h⟩ := Option.map_eq_some_iff.mp h
  cases h
  rw [askedOf?, level?_unfiltered hlevel, Option.bind_some, ended?_withLog, hended]
  show ((requestOf (g.withLog none) c).toOption.map _) = _
  rw [requestOf_withLog, hrequest]
  rfl

theorem asked?_unfiltered {args : List String} {env : Environment} {s : Settings} {q : Request}
    (h : asked? args env = some (s, q)) :
    asked? (unfiltered args) env.unfiltered = some (s.unfiltered, q) := by
  rw [asked?, Option.bind_eq_some_iff] at h
  obtain ⟨⟨g, cut⟩, hlevel, h⟩ := h
  rw [asked?, level?_unfiltered hlevel, Option.bind_some]
  rcases cut with - | ⟨c, ws⟩
  · obtain ⟨g', hended, h⟩ := Option.map_eq_some_iff.mp h
    cases h
    show Option.map _ (Given.ended? _ _) = _
    rw [ended?_withLog, hended]
    rfl
  · obtain ⟨⟨g', q⟩, hasked, h⟩ := Option.bind_eq_some_iff.mp h
    obtain ⟨g'', hended, h⟩ := Option.map_eq_some_iff.mp h
    cases h
    show Option.bind (askedOf? _ _ _) _ = _
    rw [askedOf?_unfiltered hasked, Option.bind_some, ended?_withLog, hended]
    rfl

/-- **What is asked stays the same without the filter**, wherever the words give it. -/
theorem interpret_unfiltered {args : List String} {env : Environment} {s : Settings} {q : Request}
    (h : interpret args env = .ok (s, q)) :
    interpret (unfiltered args) env.unfiltered = .ok (s.unfiltered, q) := by
  rw [← toOption_eq_some_iff, toOption_interpret] at h ⊢
  exact asked?_unfiltered h

end Paging.Command
