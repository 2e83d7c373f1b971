import Paging.Proofs.Command.Notes

/-!
# Reading comes to noting

A reading holds back the last value until the next parameter comes up.  Once that value is noted
(`Reading.settled?`) the rest of the words does what their notes do, and to read one more word does
not change what is given in the end (`Reading.bind_step`).  So what arguments ask for, if they are
accepted, is told by their notes (`toOption_interpret`).
-/

namespace Paging.Command

namespace Reading

/-! ### What is held back -/

/-- What is given once the value that is held is noted. -/
def settled? (r : Reading) : Option Given := r.settle.toOption.map Reading.given

/-- What is given in the end, and where the level ends. -/
def gives? (level : Option Subcommand) (r : Reading) (ws : List String) : Option (Given × Cut) :=
  match r.held with
  | some (p, none) => noted? level r.separated (some p) r.operand ws r.given
  | _ => r.settled?.bind (noted? level r.separated none r.operand ws)

theorem settle_value (g : Given) (p : Parameter) (v : String) (operand : Option Parameter)
    (separated : Bool) : settle ⟨g, some (p, some v), operand, separated⟩ =
      (g.set p v).map fun g => ⟨g, none, operand, separated⟩ := rfl

theorem settled?_value (g : Given) (p : Parameter) (v : String) (operand : Option Parameter)
    (separated : Bool) :
    settled? ⟨g, some (p, some v), operand, separated⟩ = g.note? (p, v) := by
  rw [settled?, settle_value, toOption_map, Option.map_map, Given.note?]
  exact Option.map_id'

theorem toOption_settle (r : Reading) :
    r.settle.toOption = r.settled?.map fun g => { r with given := g, held := none } := by
  obtain ⟨g, held, operand, separated⟩ := r
  rcases held with - | ⟨p, - | v⟩
  · rfl
  · rfl
  · rw [settled?, settle_value, toOption_map, Option.map_map, Option.map_map]
    rfl

variable (level : Option Subcommand) (r : Reading) (ws : List String)

theorem settled?_eq_none {p : Parameter} (h : r.held = some (p, none)) : r.settled? = none := by
  rw [settled?, settle, h]
  rfl

theorem settled?_separated : settled? { r with separated := true } = r.settled? := by
  obtain ⟨g, held, operand, separated⟩ := r
  rcases held with - | ⟨p, - | v⟩
  · rfl
  · rfl
  · rw [settled?_value, settled?_value]

theorem gives?_of_awaiting {p : Parameter} (h : r.held = some (p, none)) :
    r.gives? level ws = noted? level r.separated (some p) r.operand ws r.given := by
  rw [gives?, h]

theorem gives?_of_not_awaiting (h : ∀ p, r.held ≠ some (p, none)) :
    r.gives? level ws = r.settled?.bind (noted? level r.separated none r.operand ws) := by
  rw [gives?]
  split
  · next p hp => exact absurd hp (h p)
  · rfl

theorem gives?_nil : r.gives? level [] = r.settled?.map (·, none) := by
  obtain ⟨g, held, operand, separated⟩ := r
  rcases held with - | ⟨p, - | v⟩
  · rfl
  · rfl
  · show (settled? _).bind _ = _
    cases settled? ⟨g, some (p, some v), operand, separated⟩ <;> rfl

/-! ### One more word -/

theorem toOption_note (p : Parameter) (v : String) :
    (r.note p v).toOption = r.settled?.bind fun g =>
      (g.note? (p, v)).map fun g => ⟨g, none, r.operand, r.separated⟩ := by
  rw [note, toOption_bind, toOption_settle]
  cases r.settled? with
  | none => rfl
  | some g => exact toOption_map _ _

theorem bind_note (p : Parameter) (v : String) :
    (r.note p v).toOption.bind (gives? level · ws) = r.settled?.bind fun g =>
      (g.note? (p, v)).bind (noted? level r.separated none r.operand ws) := by
  rw [toOption_note]
  cases r.settled? with
  | none => rfl
  | some g => exact Option.bind_map

theorem bind_hold_awaiting (p : Parameter) :
    (r.hold p none).toOption.bind (gives? level · ws) =
      r.settled?.bind (noted? level r.separated (some p) r.operand ws) := by
  rw [hold, toOption_map, toOption_settle]
  cases r.settled? <;> rfl

/-- The value of an operand is held, and no other operand comes after it. -/
theorem bind_hold_operand (p : Parameter) (v : String) :
    ((r.hold p (some v)).map fun r => { r with operand := none }).toOption.bind
        (gives? level · ws) =
      r.settled?.bind fun g => (g.note? (p, v)).bind (noted? level r.separated none none ws) := by
  rw [hold, toOption_map, toOption_map, toOption_settle]
  cases r.settled? with
  | none => rfl
  | some g =>
    show (settled? ⟨g, some (p, some v), none, r.separated⟩).bind _ = (g.note? (p, v)).bind _
    rw [settled?_value]

theorem bind_long (name : String) (value : Option String) :
    (r.long level name value).toOption.bind (gives? level · ws) =
      r.settled?.bind fun g => (named? level name).bind fun p =>
        match p.takesValue, value with
        | true, some v => (g.note? (p, v)).bind (noted? level r.separated none r.operand ws)
        | true, none => noted? level r.separated (some p) r.operand ws g
        | false, some _ => none
        | false, none => (g.note? (p, "")).bind (noted? level r.separated none r.operand ws) := by
  rw [long, ← named?]
  cases named? level name with
  | none => cases r.settled? <;> rfl
  | some p =>
    dsimp only [Option.bind_some]
    cases p.takesValue <;> cases value
    · exact bind_note level r ws p ""
    · cases r.settled? <;> rfl
    · exact bind_hold_awaiting level r ws p
    · exact bind_note level r ws p _

/-- Letters are noted one by one, and the first of them notes what is held. -/
theorem bind_short {cs : List Char} {r : Reading}
    (h : cs ≠ [] ∨ ∀ p, r.held ≠ some (p, none)) :
    (short level cs r).toOption.bind (gives? level · ws) =
      r.settled?.bind fun g => (letters? level cs).bind fun ns =>
        (g.noteAll? ns).bind (noted? level r.separated none r.operand ws) := by
  induction cs generalizing r with
  | nil => exact gives?_of_not_awaiting level r ws (h.resolve_left fun h => h rfl)
  | cons c cs ih =>
    rw [short, ← lettered?, letters?]
    cases lettered? level c with
    | none => cases r.settled? <;> rfl
    | some p =>
      dsimp only
      rw [toOption_bind, toOption_note]
      cases r.settled? with
      | none => rfl
      | some g =>
        have hnext (g' : Given) :=
          ih (r := ⟨g', none, r.operand, r.separated⟩) (Or.inr fun _ h => by cases h)
        simp only [Option.bind_some, Option.bind_map, Option.bind_assoc, Function.comp_def, hnext,
          Given.noteAll?_cons]
        -- The first letter is noted before the others are looked up, but either may fail first.
        exact Option.bind_comm _ _

theorem awaitsValue_eq_true_iff {r : Reading} :
    r.awaitsValue = true ↔ r.separated = false ∧ ∃ p, r.held = some (p, none) := by
  obtain ⟨g, held, operand, separated⟩ := r
  rcases held with - | ⟨p, - | v⟩ <;> cases separated <;> simp [awaitsValue]

theorem held_ne_of_not_awaiting {r : Reading} (hseparated : r.separated = false)
    (hawait : r.awaitsValue = false) : ∀ p, r.held ≠ some (p, none) := by
  intro p hp
  have htrue := awaitsValue_eq_true_iff.mpr ⟨hseparated, p, hp⟩
  exact Bool.false_ne_true (hawait.symm.trans htrue)

/-- Where no value is awaited a word is the operand. -/
theorem word_of_not_awaiting (t : String) {r : Reading} (h : r.awaitsValue = false) :
    r.word level t =
      match r.operand with
      | some p => (r.hold p (some t)).map fun r => { r with operand := none }
      | none => .error (.error (r.useless level t)) := by
  rw [word, h]
  cases r.operand <;> rfl

theorem bind_word (t : String) {r : Reading} (h : r.awaitsValue = false) :
    (r.word level t).toOption.bind (gives? level · ws) =
      r.settled?.bind fun g => r.operand.bind fun p =>
        (g.note? (p, t)).bind (noted? level r.separated none none ws) := by
  rw [word_of_not_awaiting level t h]
  cases r.operand with
  | none => cases r.settled? <;> rfl
  | some p => exact bind_hold_operand level r ws p t

theorem ne_nil_of_short {w : String} {cs : List Char} (h : Token.of w = .short cs) : cs ≠ [] := by
  rintro rfl
  rw [Token.of] at h
  split at h
  · cases h
  · dsimp only at h
    split at h <;> cases h
  · cases h
  · cases h

/-- Where a value is awaited, any word but one without an option in it leaves it missing. -/
theorem bind_step_awaiting (w : String) (g : Given) (p : Parameter) (operand : Option Parameter) :
    (step level ⟨g, some (p, none), operand, false⟩ w).toOption.bind (gives? level · ws) =
      noted? level false (some p) operand (w :: ws) g := by
  rw [noted?_awaiting]
  show (token level _ (Token.of w)).toOption.bind _ = _
  cases htoken : Token.of w with
  | separator => cases ws <;> rfl
  | long name value =>
    show (long level _ name value).toOption.bind _ = _
    rw [bind_long]
    rfl
  | short cs =>
    show (short level cs _).toOption.bind _ = _
    rw [bind_short level ws (Or.inl (ne_nil_of_short htoken))]
    rfl
  | word t =>
    show (settled? ⟨g, some (p, some t), operand, false⟩).bind _ = _
    rw [settled?_value]

/-- **To read one more word does not change what is given in the end.** -/
theorem bind_step (w : String) (r : Reading)
    (hcut : r.separated = false → r.awaitsValue = false → cut? level w = none) :
    (r.step level w).toOption.bind (gives? level · ws) = r.gives? level (w :: ws) := by
  cases hawait : r.awaitsValue with
  | true =>
    obtain ⟨hseparated, p, hp⟩ := awaitsValue_eq_true_iff.mp hawait
    obtain ⟨g, held, operand, separated⟩ := r
    cases hp
    cases hseparated
    exact bind_step_awaiting level ws w g p operand
  | false =>
    cases hseparated : r.separated with
    | true =>
      rw [step, hseparated, if_pos rfl]
      refine (bind_word level ws w hawait).trans ?_
      by_cases hheld : ∃ p, r.held = some (p, none)
      · obtain ⟨p, hp⟩ := hheld
        rw [settled?_eq_none r hp, gives?_of_awaiting level r _ hp, hseparated]
        rfl
      · rw [gives?_of_not_awaiting level r _ (not_exists.mp hheld), hseparated, noted?_separated]
    | false =>
      have hheld := held_ne_of_not_awaiting hseparated hawait
      have hcut := hcut hseparated hawait
      rw [gives?_of_not_awaiting level r _ hheld, step, hseparated, if_neg Bool.false_ne_true]
      cases htoken : Token.of w with
      | separator =>
        rw [noted?_separator level r.operand ws hcut htoken, ← settled?_separated]
        exact gives?_of_not_awaiting level { r with separated := true } ws hheld
      | long name value =>
        rw [noted?_long level r.operand ws hcut htoken, ← hseparated]
        exact bind_long level r ws name value
      | short cs =>
        rw [noted?_short level r.operand ws hcut htoken, ← hseparated]
        exact bind_short level ws (Or.inr hheld)
      | word t =>
        rw [noted?_word level r.operand ws hcut htoken, ← hseparated]
        exact bind_word level ws t hawait

/-! ### All words of a level -/

theorem bind_all (c : Subcommand) (r : Reading) :
    (all (some c) ws r).toOption.bind (fun r => r.settled?.map (·, none)) =
      r.gives? (some c) ws := by
  induction ws generalizing r with
  | nil => exact (gives?_nil (some c) r).symm
  | cons w ws ih =>
    rw [all, toOption_bind, Option.bind_assoc, funext ih]
    exact bind_step (some c) ws w r fun _ _ => rfl

variable {ws r}

theorem upToSubcommand_cons {w : String} (h : cut? none w = none) :
    upToSubcommand (w :: ws) r = (r.step none w).bind (upToSubcommand ws) := by
  rw [cut?] at h
  split at h
  · cases h
  · next hhelp =>
    rw [upToSubcommand, if_neg hhelp, Option.map_eq_none_iff.mp h]
    exact ite_self _

/-- A subcommand ends the level unless a word stands for itself there. -/
theorem upToSubcommand_cut {w : String} {c : Option Subcommand} (h : cut? none w = some c) :
    upToSubcommand (w :: ws) r =
      if r.separated || r.awaitsValue then (r.step none w).bind (upToSubcommand ws)
      else
        match c with
        | none => .error (helpOn ws)
        | some c => .ok (r, some (c, ws)) := by
  rw [upToSubcommand]
  rw [cut?] at h
  split at h
  · next hhelp =>
    cases h
    rw [if_pos hhelp]
  · next hhelp =>
    obtain ⟨c, hc, rfl⟩ := Option.map_eq_some_iff.mp h
    rw [if_neg hhelp, hc]

theorem bind_upToSubcommand (r : Reading) :
    (upToSubcommand ws r).toOption.bind (fun x => x.1.settled?.map (·, x.2)) =
      r.gives? none ws := by
  induction ws generalizing r with
  | nil => exact (gives?_nil none r).symm
  | cons w ws ih =>
    have hstep (hcut : r.separated = false → r.awaitsValue = false → cut? none w = none) :
        ((r.step none w).bind (upToSubcommand ws)).toOption.bind
            (fun x => x.1.settled?.map (·, x.2)) = r.gives? none (w :: ws) := by
      rw [toOption_bind, Option.bind_assoc, funext ih]
      exact bind_step none ws w r hcut
    cases hcut : cut? none w with
    | none =>
      rw [upToSubcommand_cons hcut]
      exact hstep fun _ _ => hcut
    | some c =>
      -- Where words stand for themselves or a value is awaited, the name of a subcommand is a word
      -- like any other.
      rw [upToSubcommand_cut hcut]
      split
      · next h =>
        refine hstep fun hseparated hawait => ?_
        rw [hseparated, hawait] at h
        cases h
      · next h =>
        obtain ⟨hseparated, hawait⟩ := Bool.or_eq_false_iff.mp (Bool.eq_false_iff.mpr h)
        have hheld := held_ne_of_not_awaiting hseparated hawait
        rw [gives?_of_not_awaiting none r _ hheld, hseparated, noted?_cut none r.operand w ws hcut]
        cases c with
        | none => exact (Option.bind_fun_none r.settled?).symm
        | some c => exact Option.map_eq_bind

end Reading

/-! ### What is asked -/

/-- What was given at a level, if the environment can be read where it is looked at. -/
def Given.ended? (env : Environment) (g : Given) : Option Given :=
  if g.strict then some g else env.asksStrict.toOption.map fun _ => g

def level? (level : Option Subcommand) (ws : List String) : Option (Given × Cut) :=
  noted? level false none (Subcommand.operand level) ws .nothing

theorem level?_eq_some_iff {level : Option Subcommand} {words : List String} {g : Given}
    {cut : Cut} : level? level words = some (g, cut) ↔
      ∃ ns, spelled? level false none (Subcommand.operand level) words = some (ns, cut) ∧
        Given.nothing.noteAll? ns = some g := by
  rw [level?, noted?, Option.bind_eq_some_iff]
  constructor
  · rintro ⟨⟨ns, cut⟩, hspelled, h⟩
    obtain ⟨g, hnoted, h⟩ := Option.map_eq_some_iff.mp h
    cases h
    exact ⟨ns, hspelled, hnoted⟩
  · rintro ⟨ns, hspelled, hnoted⟩
    exact ⟨(ns, cut), hspelled, Option.map_eq_some_iff.mpr ⟨g, hnoted, rfl⟩⟩

def askedOf? (env : Environment) (c : Subcommand) (ws : List String) : Option (Given × Request) :=
  (level? (some c) ws).bind fun x =>
    (x.1.ended? env).bind fun g => (requestOf g c).toOption.map (g, ·)

def asked? (args : List String) (env : Environment) : Option (Settings × Request) :=
  (level? none args).bind fun (g, cut) =>
    match cut with
    | none => (g.ended? env).map fun g => (settings env g .nothing, .dialogue)
    | some (c, words) =>
      (askedOf? env c words).bind fun (g', q) => (g.ended? env).map fun g => (settings env g g', q)

theorem toOption_finish (env : Environment) (r : Reading) :
    (finish env r).toOption = r.settled?.bind (·.ended? env) := by
  rw [finish, toOption_bind, Reading.toOption_settle]
  cases r.settled? with
  | none => rfl
  | some g =>
    dsimp only [Option.map_some, Option.bind_some]
    rw [Given.ended?]
    split
    · rfl
    · exact toOption_map _ _

theorem toOption_subcommandRequest (env : Environment) (c : Subcommand) (ws : List String) :
    (subcommandRequest env c ws).toOption = askedOf? env c ws := by
  have hgives : (Reading.start (some c)).gives? (some c) ws = level? (some c) ws := rfl
  rw [subcommandRequest, toOption_bind, askedOf?, ← hgives, ← Reading.bind_all, Option.bind_assoc]
  congr 1
  funext r
  rw [toOption_bind, toOption_finish, Option.bind_assoc]
  cases r.settled? with
  | none => rfl
  | some g =>
    dsimp only [Option.map_some, Option.bind_some]
    congr 1
    funext g
    exact toOption_map _ _

/-- **What is asked is told by the notes alone**, if the arguments are accepted. -/
theorem toOption_interpret (args : List String) (env : Environment) :
    (interpret args env).toOption = asked? args env := by
  have hgives : (Reading.start none).gives? none args = level? none args := rfl
  rw [interpret, toOption_bind, asked?, ← hgives, ← Reading.bind_upToSubcommand, Option.bind_assoc]
  congr 1
  funext ⟨r, sub⟩
  rw [Option.bind_map]
  cases sub with
  | none =>
    show ((finish env r).map _).toOption = _
    rw [toOption_map, toOption_finish]
    cases r.settled? <;> rfl
  | some sub =>
    obtain ⟨c, ws⟩ := sub
    show ((subcommandRequest env c ws).bind _).toOption = _
    rw [toOption_bind, toOption_subcommandRequest]
    -- The level ahead of the subcommand is ended last, but no fault tells which came first.
    cases hsettled : r.settled? with
    | none =>
      cases askedOf? env c ws with
      | none => rfl
      | some x =>
        show ((finish env r).map _).toOption = none
        rw [toOption_map, toOption_finish, hsettled]
        rfl
    | some g =>
      show (askedOf? env c ws).bind _ = (askedOf? env c ws).bind _
      congr 1
      funext ⟨g', q⟩
      rw [toOption_map, toOption_finish, hsettled]
      rfl

end Paging.Command
