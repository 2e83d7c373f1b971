import Paging.Proofs.Command.Indifference
import Paging.Proofs.Command.Settings

/-!
# Words that end between options

Words that end between two options (`pauses`) are read by themselves, and what follows them goes on
from there (`spelled?_append`).  So an option in that place adds one note to those of the level.  A
setting that is given nowhere else changes no other note, so to take it comes to putting it to what
is given in the end (`level?_insert`).
-/

namespace Paging.Command

/-! ### Words that end between options -/

/-- Whether words end between two options, so that an option may follow.  The first word may be the
value of one. -/
@[simp] def pauses (level : Option Subcommand) : Bool → List String → Bool
  | awaits, [] => !awaits
  | true, _ :: ws => pauses level false ws
  | false, w :: ws =>
    match cut? level w, Token.of w with
    | some _, _ => false
    | none, .separator => false
    | none, .long name none => pauses level ((named? level name).any (·.takesValue)) ws
    | none, _ => pauses level false ws

theorem pauses_append {level : Option Subcommand} {awaits : Bool} {xs ys : List String}
    (hxs : pauses level awaits xs = true) (hys : pauses level false ys = true) :
    pauses level awaits (xs ++ ys) = true := by
  induction xs generalizing awaits with
  | nil =>
    cases awaits with
    | false => exact hys
    | true => cases hxs
  | cons w xs ih =>
    cases awaits with
    | true => exact ih hxs
    | false =>
      rw [List.cons_append]
      unfold pauses at hxs ⊢
      split at hxs
      · cases hxs
      · cases hxs
      · exact ih hxs
      · exact ih hxs

def remaining (operand : Option Parameter) (ns : List Note) : Option Parameter :=
  if ns.any (·.1.isOperand) then none else operand

/-- What words go on to spell after the notes of those before them. -/
def goOn (level : Option Subcommand) (operand : Option Parameter) (ys : List String)
    (x : Spelling) : Option Spelling :=
  (spelled? level false none (remaining operand x.1) ys).map (Spelling.after x.1)

theorem remaining_append {ms : List Note} (hms : ∀ n ∈ ms, n.1.isOperand = false)
    (operand : Option Parameter) (ns : List Note) :
    remaining operand (ms ++ ns) = remaining operand ns := by
  have hany : ms.any (fun n => n.1.isOperand) = false := by
    rw [List.any_eq_false]
    intro n hn
    rw [hms n hn]
    exact Bool.false_ne_true
  rw [remaining, remaining, List.any_append, hany, Bool.false_or]

theorem remaining_cons {p : Parameter} (hp : p.isOperand = false) (v : String)
    (operand : Option Parameter) (ns : List Note) :
    remaining operand ([(p, v)] ++ ns) = remaining operand ns := by
  apply remaining_append
  intro n hn
  rwa [List.mem_singleton.mp hn]

/-- After the operand there is no other. -/
theorem remaining_operand {p : Parameter} (hp : p.isOperand = true) (t : String)
    (operand : Option Parameter) (ns : List Note) :
    remaining operand ([(p, t)] ++ ns) = remaining none ns := by
  have hany : ([(p, t)] ++ ns).any (fun n => n.1.isOperand) = true := by simp [hp]
  rw [remaining, remaining, hany, if_pos rfl, ite_self]

section

variable {level : Option Subcommand} {operand : Option Parameter} (ys : List String)

theorem map_after_bind {ms : List Note} {operand' : Option Parameter}
    (hms : ∀ ns, remaining operand (ms ++ ns) = remaining operand' ns) (x : Option Spelling) :
    (x.bind (goOn level operand' ys)).map (Spelling.after ms) =
      (x.map (Spelling.after ms)).bind (goOn level operand ys) := by
  cases x with
  | none => rfl
  | some x =>
    show (goOn level operand' ys x).map _ = goOn level operand ys (Spelling.after ms x)
    have hafter : Spelling.after ms ∘ Spelling.after x.1 = Spelling.after (ms ++ x.1) := by
      funext z
      simp [Spelling.after]
    rw [goOn, goOn, Option.map_map, hafter]
    show _ = Option.map (Spelling.after (ms ++ x.1)) (spelled? _ _ _ (remaining _ (ms ++ x.1)) _)
    rw [hms]

theorem isOperand_of_named? {name : String} {p : Parameter} (h : named? level name = some p) :
    p.isOperand = false := by
  have hlong := long?_of_named? h
  cases p with
  | address | entry => cases hlong
  | _ => rfl

theorem isOperand_of_letters? {cs : List Char} {ns : List Note} (h : letters? level cs = some ns) :
    ∀ n ∈ ns, n.1.isOperand = false := by
  intro n hn
  rcases eq_of_letters? h n hn with hp | hp <;> rw [hp] <;> rfl

/-- An option with a name ahead of such words. -/
theorem spelled?_append_of_long {w : String} {xs : List String} (hcut : cut? level w = none)
    {name : String} {value : Option String} (htoken : Token.of w = .long name value)
    (hpause : pauses level false (w :: xs) = true)
    (hfree : pauses level false xs = true → spelled? level false none operand (xs ++ ys) =
      (spelled? level false none operand xs).bind (goOn level operand ys))
    (hawaiting : ∀ p, p.isOperand = false → pauses level true xs = true →
      spelled? level false (some p) operand (xs ++ ys) =
        (spelled? level false (some p) operand xs).bind (goOn level operand ys)) :
    spelled? level false none operand (w :: (xs ++ ys)) =
      (spelled? level false none operand (w :: xs)).bind (goOn level operand ys) := by
  rw [pauses, hcut, htoken] at hpause
  rw [spelled?, spelled?, hcut, htoken]
  dsimp only
  cases hnamed : named? level name with
  | none => rfl
  | some p =>
    have hp := isOperand_of_named? hnamed
    dsimp only [Option.bind_some]
    cases value with
    | none =>
      have hpause : pauses level ((named? level name).any (·.takesValue)) xs = true := hpause
      rw [hnamed, Option.any_some] at hpause
      cases htakes : p.takesValue with
      | true =>
        rw [htakes] at hpause
        exact hawaiting p hp hpause
      | false =>
        rw [htakes] at hpause
        dsimp only
        rw [hfree hpause]
        exact map_after_bind ys (remaining_cons hp "" operand) _
    | some v =>
      have hpause : pauses level false xs = true := hpause
      cases p.takesValue with
      | true =>
        dsimp only
        rw [hfree hpause]
        exact map_after_bind ys (remaining_cons hp v operand) _
      | false => rfl

/-- **Words that end between two options are read by themselves**, and what follows goes on from
there. -/
theorem spelled?_append {awaited : Option Parameter} {xs : List String}
    (hpause : pauses level awaited.isSome xs = true)
    (hawaited : ∀ p, awaited = some p → p.isOperand = false)
    (hoperand : ∀ p, operand = some p → p.isOperand = true) :
    spelled? level false awaited operand (xs ++ ys) =
      (spelled? level false awaited operand xs).bind (goOn level operand ys) := by
  induction xs generalizing awaited operand with
  | nil =>
    cases awaited with
    | some p => cases hpause
    | none =>
      show _ = (spelled? level false none operand ys).map (Spelling.after [])
      exact (Option.map_id' (x := spelled? level false none operand ys)).symm
  | cons w xs ih =>
    have hnone : ∀ p, (none : Option Parameter) = some p → p.isOperand = false := by
      intro p hp
      cases hp
    have hfree {operand : Option Parameter} (hpause : pauses level false xs = true)
        (hoperand : ∀ p, operand = some p → p.isOperand = true) :
        spelled? level false none operand (xs ++ ys) =
          (spelled? level false none operand xs).bind (goOn level operand ys) := by
      have hpause : pauses level (none : Option Parameter).isSome xs = true := hpause
      exact ih hpause hnone hoperand
    rw [List.cons_append]
    cases awaited with
    | some p =>
      have hpause : pauses level false xs = true := hpause
      rw [spelled?, spelled?]
      cases Token.of w with
      | word v =>
        dsimp only
        rw [hfree hpause hoperand]
        exact map_after_bind ys (remaining_cons (hawaited p rfl) v operand) _
      | _ => rfl
    | none =>
      have hall : pauses level false (w :: xs) = true := hpause
      cases hcut : cut? level w with
      | some c =>
        rw [pauses, hcut] at hall
        cases hall
      | none =>
        cases htoken : Token.of w with
        | separator =>
          rw [pauses, hcut, htoken] at hall
          cases hall
        | long name value =>
          apply spelled?_append_of_long ys hcut htoken hall
          · intro hpause
            exact hfree hpause hoperand
          · intro p hp hpause
            have hpause : pauses level (some p).isSome xs = true := hpause
            apply ih hpause ?_ hoperand
            rintro q ⟨⟩
            exact hp
        | short cs =>
          rw [pauses, hcut, htoken] at hall
          have hpause : pauses level false xs = true := hall
          rw [spelled?, spelled?, hcut, htoken]
          dsimp only
          cases hletters : letters? level cs with
          | none => rfl
          | some ns =>
            dsimp only [Option.bind_some]
            rw [hfree hpause hoperand]
            exact map_after_bind ys (remaining_append (isOperand_of_letters? hletters) operand) _
        | word t =>
          rw [pauses, hcut, htoken] at hall
          have hpause : pauses level false xs = true := hall
          rw [spelled?, spelled?, hcut, htoken]
          dsimp only
          cases operand with
          | none => rfl
          | some p =>
            dsimp only [Option.bind_some]
            have hgone : ∀ q, (none : Option Parameter) = some q → q.isOperand = true := by
              intro q hq
              cases hq
            rw [hfree hpause hgone]
            exact map_after_bind ys (remaining_operand (hoperand p rfl) t _) _

end

theorem remaining_none (ns : List Note) : remaining none ns = none := ite_self _

/-- The name of a subcommand ends the level. -/
theorem spelled?_call {front : List String} (hfront : pauses none false front = true)
    (c : Subcommand) (back : List String) :
    spelled? none false none none (front ++ c.name :: back) =
      (spelled? none false none none front).map fun x => (x.1, some (c, back)) := by
  have hnone (P : Parameter → Prop) : ∀ p, (none : Option Parameter) = some p → P p := by
    intro p hp
    cases hp
  rw [spelled?_append _ hfront (hnone _) (hnone _)]
  cases spelled? none false none none front with
  | none => rfl
  | some x =>
    show (spelled? none false none (remaining none x.1) _).map _ = _
    rw [remaining_none, spelled?, Reading.cut?_name]
    show some (x.1 ++ [], some (c, back)) = _
    rw [List.append_nil]
    rfl

theorem level?_call {front : List String} (hfront : pauses none false front = true)
    (c : Subcommand) (back : List String) :
    level? none (front ++ c.name :: back) =
      (level? none front).map fun x => (x.1, some (c, back)) := by
  have hcall := spelled?_call hfront c back
  rw [level?, level?, noted?, noted?]
  show (spelled? none false none none _).bind _ =
    Option.map _ ((spelled? none false none none _).bind _)
  rw [hcall]
  cases spelled? none false none none front with
  | none => rfl
  | some x =>
    show (Given.nothing.noteAll? x.1).map _ = ((Given.nothing.noteAll? x.1).map _).map _
    rw [Option.map_map]
    rfl

/-! ### One more setting -/

def Given.withStrict (g : Given) : Given := { g with strict := true }

namespace Setting

def parameter : Setting → Parameter
  | strict => .strict
  | filter _ => .log

def note : Setting → Note
  | strict => (.strict, "")
  | filter text => (.log, text)

def on : Setting → Given → Given
  | strict, g => g.withStrict
  | filter text, g => g.withLog (some text)

inductive IsWritten : Setting → List String → Prop
  | strict : IsWritten .strict ["--strict"]
  | joined (text : String) : IsWritten (.filter text) ["--log=" ++ text]
  | apart {text : String} (h : Token.of text = .word text) :
    IsWritten (.filter text) ["--log", text]

end Setting

theorem cut?_of_long {level : Option Subcommand} {w name : String} {value : Option String}
    (h : Token.of w = .long name value) : cut? level w = none := by
  cases hcut : cut? level w with
  | none => rfl
  | some c =>
    rw [token_of_cut hcut] at h
    cases h

theorem named?_strict (level : Option Subcommand) : named? level "strict" = some .strict := by
  rcases level with - | c
  · rfl
  · cases c <;> rfl

/-- An option adds its note. -/
theorem Setting.IsWritten.spelled? {s : Setting} {o : List String} (h : s.IsWritten o)
    (level : Option Subcommand) (operand : Option Parameter) (ys : List String) :
    spelled? level false none operand (o ++ ys) =
      (spelled? level false none operand ys).map (Spelling.after [s.note]) := by
  cases h with
  | strict =>
    have htoken : Token.of "--strict" = .long "strict" none := by decide
    rw [List.singleton_append, Command.spelled?, cut?_of_long htoken, htoken]
    dsimp only
    rw [named?_strict]
    rfl
  | joined text =>
    have htoken := token_filterWord text
    rw [List.singleton_append, Command.spelled?, cut?_of_long htoken, htoken]
    dsimp only
    rw [named?_log]
    rfl
  | @apart text hword =>
    have htoken : Token.of "--log" = .long "log" none := by decide
    rw [List.cons_append, List.singleton_append, Command.spelled?, cut?_of_long htoken, htoken]
    dsimp only
    rw [named?_log]
    show Command.spelled? level false (some .log) operand (text :: ys) = _
    rw [Command.spelled?, hword]
    rfl

namespace Given

/-- No other parameter minds the strict check. -/
theorem set_withStrict (g : Given) {p : Parameter} (hp : p ≠ .strict) (v : String) :
    g.withStrict.set p v = (g.set p v).map withStrict := by
  obtain ⟨log, strict, verbose, dir, out, operand⟩ := g
  have hmap {α : Type} (x : Except Refusal α) (k : α → Given) :
      x.map (fun a => (k a).withStrict) = (x.map k).map withStrict := by cases x <;> rfl
  cases p with
  | log => cases log <;> rfl
  | strict => exact absurd rfl hp
  | help => rfl
  | verbose => cases verbose <;> rfl
  | dir =>
    cases dir with
    | some _ => rfl
    | none => exact hmap (path .dir v) fun d => ⟨log, strict, verbose, some d, out, operand⟩
  | out =>
    cases out with
    | some _ => rfl
    | none => exact hmap (path .out v) fun o => ⟨log, strict, verbose, dir, some o, operand⟩
  | address =>
    cases operand with
    | some _ => rfl
    | none => exact hmap (number .address v) fun n => ⟨log, strict, verbose, dir, out, some n⟩
  | entry =>
    cases operand with
    | some _ => rfl
    | none => exact hmap (number .entry v) fun n => ⟨log, strict, verbose, dir, out, some n⟩

variable {s : Setting}

theorem note?_on (g : Given) {n : Note} (hn : n.1 ≠ s.parameter) :
    (s.on g).note? n = (g.note? n).map s.on := by
  cases s with
  | strict =>
    show (g.withStrict.set n.1 n.2).toOption = _
    rw [set_withStrict g hn, toOption_map]
    rfl
  | filter text => exact note?_withLog (some text) g hn

theorem noteAll?_on (g : Given) {ns : List Note} (hns : ∀ n ∈ ns, n.1 ≠ s.parameter) :
    (s.on g).noteAll? ns = (g.noteAll? ns).map s.on := by
  induction ns generalizing g with
  | nil => rfl
  | cons n ns ih =>
    rw [noteAll?_cons, noteAll?_cons, note?_on g (hns n List.mem_cons_self)]
    cases g.note? n with
    | none => rfl
    | some g₁ => exact ih g₁ fun m hm => hns m (List.mem_cons_of_mem n hm)

theorem note?_note {g : Given} (hg : g.has s.parameter = false) :
    g.note? s.note = some (s.on g) := by
  cases s with
  | strict =>
    show (g.set .strict "").toOption = _
    rw [set, if_neg (by simpa [Setting.parameter] using hg)]
    rfl
  | filter text =>
    show (g.set .log text).toOption = _
    rw [set, if_neg (by simpa [Setting.parameter] using hg)]
    rfl

/-- **One more setting** is put to what is given in the end, wherever among the notes it stands. -/
theorem noteAll?_insert {g : Given} (hg : g.has s.parameter = false) {ms ns : List Note}
    (honce : ∀ n ∈ ms ++ ns, n.1 ≠ s.parameter) :
    g.noteAll? (ms ++ s.note :: ns) = (g.noteAll? (ms ++ ns)).map s.on := by
  induction ms generalizing g with
  | nil =>
    rw [List.nil_append, noteAll?_cons, note?_note hg]
    exact noteAll?_on g honce
  | cons m ms ih =>
    rw [List.cons_append, List.cons_append, noteAll?_cons, noteAll?_cons]
    cases hnote : g.note? m with
    | none => rfl
    | some g₁ =>
      have hm := honce m List.mem_cons_self
      have hexcludes : m.1.excludes s.parameter = false := by
        rw [Parameter.excludes, beq_eq_false_iff_ne.mpr hm]
        cases s <;> simp [Setting.parameter, Parameter.isOperand]
      have hfree : g₁.has s.parameter = false := by
        rw [has_of_set (note?_eq_some_iff.mp hnote), hg, hexcludes]
        rfl
      exact ih hfree fun n hn => honce n (List.mem_cons_of_mem m hn)

end Given

theorem exists_setting_of_note {s : Setting} {n : Note} (h : n.1 = s.parameter) :
    ∃ t, settingOf? n = some t ∧ t.parameter = s.parameter := by
  obtain ⟨p, v⟩ := n
  cases s with
  | strict =>
    cases h
    exact ⟨.strict, rfl, rfl⟩
  | filter text =>
    cases h
    exact ⟨.filter v, rfl, rfl⟩

theorem ne_parameter_of_mem_noted {s : Setting} {ns : List Note}
    (h : ∀ t ∈ noted ns, t.parameter ≠ s.parameter) : ∀ n ∈ ns, n.1 ≠ s.parameter := by
  intro n hn heq
  obtain ⟨t, ht, hparameter⟩ := exists_setting_of_note heq
  exact h t (List.mem_filterMap.mpr ⟨n, hn, ht⟩) hparameter

/-- **An option puts its setting to what is given at its level**, if the setting is given nowhere
else. -/
theorem level?_insert {level : Option Subcommand} {xs o ys : List String} {s : Setting}
    (hpause : pauses level false xs = true) (ho : s.IsWritten o)
    (honce : ∀ t ∈ settingsIn (xs ++ ys), t.parameter ≠ s.parameter) :
    level? level (xs ++ (o ++ ys)) = (level? level (xs ++ ys)).map fun x => (s.on x.1, x.2) := by
  have hnone : ∀ p, (none : Option Parameter) = some p → p.isOperand = false := by
    intro p hp
    cases hp
  have happend (ys : List String) :
      spelled? level false none (Subcommand.operand level) (xs ++ ys) =
        (spelled? level false none (Subcommand.operand level) xs).bind
          (goOn level (Subcommand.operand level) ys) :=
    spelled?_append ys hpause hnone fun p hp => isOperand_operand hp
  rw [level?, level?, noted?, noted?]
  cases hx : spelled? level false none (Subcommand.operand level) xs with
  | none =>
    rw [happend, happend, hx]
    rfl
  | some x =>
    cases hy : spelled? level false none (remaining (Subcommand.operand level) x.1) ys with
    | none =>
      rw [happend, happend, hx]
      dsimp only [Option.bind_some]
      rw [goOn, goOn, ho.spelled?, hy]
      rfl
    | some y =>
      have hspelled : spelled? level false none (Subcommand.operand level) (xs ++ ys) =
          some (x.1 ++ y.1, y.2) := by
        rw [happend, hx]
        dsimp only [Option.bind_some]
        rw [goOn, hy]
        rfl
      have hinserted : spelled? level false none (Subcommand.operand level) (xs ++ (o ++ ys)) =
          some (x.1 ++ s.note :: y.1, y.2) := by
        rw [happend, hx]
        dsimp only [Option.bind_some]
        rw [goOn, ho.spelled?, hy]
        rfl
      rw [settingsIn_of_spelled hspelled] at honce
      have hnotes : ∀ n ∈ x.1 ++ y.1, n.1 ≠ s.parameter :=
        ne_parameter_of_mem_noted fun t ht => honce t (List.mem_append_left _ ht)
      have hnothing : Given.nothing.has s.parameter = false := by cases s <;> rfl
      rw [hspelled, hinserted]
      dsimp only [Option.bind_some]
      rw [Given.noteAll?_insert hnothing hnotes, Option.map_map, Option.map_map]
      rfl

end Paging.Command
