import Mathlib.Data.List.Basic
import Paging.Command.Request

/-!
# What the words of a level note

Read without regard to errors, words are grouped at once: an option with its value is one note, a
flag another, and so is the operand (`spelled?`).  To check each value when its turn comes, or to
hold it back until the next parameter, then makes no difference, and what is given is found by
noting one after the other (`noted?`).
-/

namespace Paging.Command

theorem toOption_bind {ε α β : Type} (x : Except ε α) (f : α → Except ε β) :
    (x.bind f).toOption = x.toOption.bind fun a => (f a).toOption := by cases x <;> rfl

theorem toOption_map {ε α β : Type} (x : Except ε α) (f : α → β) :
    (x.map f).toOption = x.toOption.map f := by cases x <;> rfl

theorem toOption_eq_some_iff {ε α : Type} {x : Except ε α} {a : α} :
    x.toOption = some a ↔ x = .ok a := by cases x <;> simp [Except.toOption]

/-! ### Notes -/

/-- A parameter with its value, which is empty for a flag. -/
abbrev Note := Parameter × String

namespace Given

def note? (g : Given) (n : Note) : Option Given := (g.set n.1 n.2).toOption

def noteAll? (g : Given) (ns : List Note) : Option Given := ns.foldlM note? g

theorem noteAll?_cons (g : Given) (n : Note) (ns : List Note) :
    g.noteAll? (n :: ns) = (g.note? n).bind (·.noteAll? ns) := by
  rw [noteAll?, List.foldlM_cons]
  rfl

theorem noteAll?_singleton (g : Given) (n : Note) : g.noteAll? [n] = g.note? n := by
  rw [noteAll?_cons]
  exact Option.bind_fun_some _

theorem noteAll?_append (g : Given) (xs ys : List Note) :
    g.noteAll? (xs ++ ys) = (g.noteAll? xs).bind (·.noteAll? ys) := by
  rw [noteAll?, List.foldlM_append]
  rfl

end Given

/-! ### Words grouped into notes -/

/-- Where a level ends ahead of its words: at a subcommand, with the words after it. -/
abbrev Cut := Option (Subcommand × List String)

/-- Whether a word is no word of the level.  The word that asks for help comes before nothing. -/
def cut? (level : Option Subcommand) (w : String) : Option (Option Subcommand) :=
  match level with
  | none => if w = Subcommand.helpName then some none else (Subcommand.ofName? w).map some
  | some _ => none

def named? (level : Option Subcommand) (name : String) : Option Parameter :=
  (Subcommand.options level).find? (·.long? == some name)

def lettered? (level : Option Subcommand) (c : Char) : Option Parameter :=
  (Subcommand.options level).find? (·.short? == some c)

def letters? (level : Option Subcommand) : List Char → Option (List Note)
  | [] => some []
  | c :: cs => (lettered? level c).bind fun p => (letters? level cs).map ((p, "") :: ·)

abbrev Spelling := List Note × Cut

def Spelling.after (ns : List Note) (x : Spelling) : Spelling := (ns ++ x.1, x.2)

/-- What is spelled after notes has these first. -/
theorem map_after_eq_some {x : Option Spelling} {ms ns : List Note} {cut : Cut}
    (h : x.map (Spelling.after ms) = some (ns, cut)) :
    ∃ rest, x = some (rest, cut) ∧ ns = ms ++ rest := by
  obtain ⟨⟨rest, cut⟩, hx, hspelling⟩ := Option.map_eq_some_iff.mp h
  cases hspelling
  exact ⟨rest, hx, rfl⟩

/-- The notes that words spell, with the parameter that awaits a value and the operand that may
still come. -/
@[simp] def spelled? (level : Option Subcommand) :
    Bool → Option Parameter → Option Parameter → List String → Option Spelling
  | _, none, _, [] => some ([], none)
  | _, some _, _, [] => none
  | true, some _, _, _ :: _ => none
  | true, none, operand, w :: ws =>
    operand.bind fun p => (spelled? level true none none ws).map (Spelling.after [(p, w)])
  | false, some p, operand, w :: ws =>
    match Token.of w with
    | .word v => (spelled? level false none operand ws).map (Spelling.after [(p, v)])
    | _ => none
  | false, none, operand, w :: ws =>
    match cut? level w with
    | some c => c.map fun c => ([], some (c, ws))
    | none =>
      match Token.of w with
      | .separator => spelled? level true none operand ws
      | .long name value =>
        (named? level name).bind fun p =>
          match p.takesValue, value with
          | true, some v => (spelled? level false none operand ws).map (Spelling.after [(p, v)])
          | true, none => spelled? level false (some p) operand ws
          | false, some _ => none
          | false, none => (spelled? level false none operand ws).map (Spelling.after [(p, "")])
      | .short cs =>
        (letters? level cs).bind fun ns =>
          (spelled? level false none operand ws).map (Spelling.after ns)
      | .word t =>
        operand.bind fun p => (spelled? level false none none ws).map (Spelling.after [(p, t)])

/-! ### Words noted after what has been given -/

/-- What is given with the notes that words spell, and where the level ends. -/
def noted? (level : Option Subcommand) (separated : Bool) (awaited operand : Option Parameter)
    (ws : List String) (g : Given) : Option (Given × Cut) :=
  (spelled? level separated awaited operand ws).bind fun x => (g.noteAll? x.1).map (·, x.2)

section

variable (level : Option Subcommand) (operand : Option Parameter) (w : String) (ws : List String)

/-- The notes of the first words are noted first. -/
theorem bind_after (ns : List Note) (separated : Bool) (awaited : Option Parameter) (g : Given) :
    (((spelled? level separated awaited operand ws).map (Spelling.after ns)).bind fun x =>
        (g.noteAll? x.1).map (·, x.2)) =
      (g.noteAll? ns).bind (noted? level separated awaited operand ws) := by
  cases hrest : spelled? level separated awaited operand ws with
  | none =>
    have hnoted (g' : Given) : noted? level separated awaited operand ws g' = none := by
      rw [noted?, hrest]
      rfl
    rw [funext hnoted, Option.bind_fun_none]
    rfl
  | some x =>
    show (g.noteAll? (ns ++ x.1)).map _ = _
    rw [Given.noteAll?_append]
    cases g.noteAll? ns with
    | none => rfl
    | some g' =>
      show _ = noted? level separated awaited operand ws g'
      rw [noted?, hrest]
      rfl

theorem bind_after_one (n : Note) (separated : Bool) (awaited : Option Parameter) (g : Given) :
    (((spelled? level separated awaited operand ws).map (Spelling.after [n])).bind fun x =>
        (g.noteAll? x.1).map (·, x.2)) =
      (g.note? n).bind (noted? level separated awaited operand ws) := by
  rw [bind_after, Given.noteAll?_singleton]

theorem noted?_separated : noted? level true none operand (w :: ws) = fun g =>
    operand.bind fun p => (g.note? (p, w)).bind (noted? level true none none ws) := by
  funext g
  rw [noted?, spelled?]
  cases operand with
  | none => rfl
  | some p => exact bind_after_one level none ws (p, w) true none g

theorem noted?_awaiting (p : Parameter) : noted? level false (some p) operand (w :: ws) = fun g =>
    match Token.of w with
    | .word v => (g.note? (p, v)).bind (noted? level false none operand ws)
    | _ => none := by
  funext g
  rw [noted?, spelled?]
  split
  · exact bind_after_one level operand ws _ false none g
  · rfl

theorem noted?_cut {c : Option Subcommand} (h : cut? level w = some c) :
    noted? level false none operand (w :: ws) = fun g => c.map fun c => (g, some (c, ws)) := by
  funext g
  rw [noted?, spelled?, h]
  cases c <;> rfl

variable {w} (hcut : cut? level w = none)

include hcut

theorem noted?_separator (h : Token.of w = .separator) :
    noted? level false none operand (w :: ws) = noted? level true none operand ws := by
  funext g
  rw [noted?, spelled?, hcut, h]
  rfl

theorem noted?_long {name : String} {value : Option String} (h : Token.of w = .long name value) :
    noted? level false none operand (w :: ws) = fun g =>
      (named? level name).bind fun p =>
        match p.takesValue, value with
        | true, some v => (g.note? (p, v)).bind (noted? level false none operand ws)
        | true, none => noted? level false (some p) operand ws g
        | false, some _ => none
        | false, none => (g.note? (p, "")).bind (noted? level false none operand ws) := by
  funext g
  rw [noted?, spelled?, hcut, h]
  dsimp only
  cases named? level name with
  | none => rfl
  | some p =>
    dsimp only [Option.bind_some]
    cases p.takesValue <;> cases value
    · exact bind_after_one level operand ws (p, "") false none g
    · rfl
    · rfl
    · exact bind_after_one level operand ws _ false none g

theorem noted?_short {cs : List Char} (h : Token.of w = .short cs) :
    noted? level false none operand (w :: ws) = fun g =>
      (letters? level cs).bind fun ns =>
        (g.noteAll? ns).bind (noted? level false none operand ws) := by
  funext g
  rw [noted?, spelled?, hcut, h]
  dsimp only
  cases letters? level cs with
  | none => rfl
  | some ns => exact bind_after level operand ws ns false none g

theorem noted?_word {t : String} (h : Token.of w = .word t) :
    noted? level false none operand (w :: ws) = fun g =>
      operand.bind fun p => (g.note? (p, t)).bind (noted? level false none none ws) := by
  funext g
  rw [noted?, spelled?, hcut, h]
  cases operand with
  | none => rfl
  | some p => exact bind_after_one level none ws (p, t) false none g

end

end Paging.Command
