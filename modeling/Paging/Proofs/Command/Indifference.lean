import Paging.Proofs.Command.Unfiltered

/-!
# Readings with another filter

Once a filter is noted, words that give none are read as if it were another or none: every step is
the same but for it (`Reading.follows_step`), be the outcome a reading or a refusal.  So are all the
words after a subcommand (`Reading.follows_all`) and those up to one
(`Reading.upToSubcommand_withLog`).
-/

namespace Paging.Command

/-! ### Steps that do not mind the filter -/

namespace Reading

def withLog (f : Option String) (r : Reading) : Reading := { r with given := r.given.withLog f }

/-- What a reading holds back or expects as the operand has `P`, and words stand for themselves if
`separated`. -/
structure Keeps (P : Parameter → Prop) (separated : Bool) (r : Reading) : Prop where
  held : ∀ p v, r.held = some (p, v) → P p
  operand : ∀ p, r.operand = some p → P p
  separated : separated = true → r.separated = true

/-- Whether `y` comes out as `x` does but for the filter, and `x` keeps what a reading keeps. -/
structure Follows (f : Option String) (P : Parameter → Prop) (separated : Bool)
    (x y : Except Refusal Reading) : Prop where
  eq_map : y = x.map (withLog f)
  keeps : ∀ r, x = .ok r → r.Keeps P separated

variable {f : Option String} {P : Parameter → Prop} {b : Bool}

theorem Keeps.withLog {r : Reading} (h : r.Keeps P b) (f : Option String) :
    (r.withLog f).Keeps P b :=
  ⟨h.held, h.operand, h.separated⟩

theorem Keeps.of_separated {r : Reading} (h : r.Keeps P b) : r.Keeps P r.separated :=
  ⟨h.held, h.operand, id⟩

theorem Keeps.weaken {r : Reading} (h : r.Keeps P b) : r.Keeps P false :=
  ⟨h.held, h.operand, fun hfalse => absurd hfalse Bool.false_ne_true⟩

theorem Follows.error (e : Refusal) : Follows f P b (.error e) (.error e) := by
  refine ⟨rfl, ?_⟩
  intro r hr
  cases hr

theorem Follows.bind {x y : Except Refusal Reading} (h : Follows f P b x y)
    {k k' : Reading → Except Refusal Reading}
    (hk : ∀ r, r.Keeps P b → Follows f P b (k r) (k' (r.withLog f))) :
    Follows f P b (x.bind k) (y.bind k') := by
  obtain ⟨rfl, hkeeps⟩ := h
  cases x with
  | error e => exact .error e
  | ok r => exact hk r (hkeeps r rfl)

theorem Follows.ok {r : Reading} (h : r.Keeps P b) : Follows f P b (.ok r) (.ok (r.withLog f)) := by
  refine ⟨rfl, ?_⟩
  intro r' hr
  cases hr
  exact h

variable (hP : ∀ p, P p → p ≠ .log)

include hP

theorem follows_settle {r : Reading} (h : r.Keeps P b) :
    Follows f P b r.settle (r.withLog f).settle := by
  obtain ⟨g, held, operand, separated⟩ := r
  rcases held with - | ⟨p, - | v⟩
  · exact .ok h
  · exact .error _
  · have hset := Given.set_withLog f g (hP p (h.held p _ rfl)) v
    show Follows f P b ((g.set p v).map _) (((g.withLog f).set p v).map _)
    rw [hset]
    cases g.set p v with
    | error e => exact .error e
    | ok g' =>
      refine .ok (r := ⟨g', none, operand, separated⟩) ⟨?_, h.operand, h.separated⟩
      intro q w hq
      cases hq

theorem follows_note {r : Reading} (h : r.Keeps P b) {p : Parameter} (hp : p ≠ .log) (v : String) :
    Follows f P b (r.note p v) ((r.withLog f).note p v) := by
  refine (follows_settle hP h).bind fun r h => ?_
  show Follows f P b _ (((r.given.withLog f).set p v).map _)
  rw [Given.set_withLog f r.given hp]
  cases r.given.set p v with
  | error e => exact .error e
  | ok g => exact .ok ⟨h.held, h.operand, h.separated⟩

theorem follows_hold {r : Reading} (h : r.Keeps P b) {p : Parameter} (hp : P p)
    (v : Option String) : Follows f P b (r.hold p v) ((r.withLog f).hold p v) := by
  obtain ⟨heq, hkeeps⟩ := follows_settle (f := f) hP h
  rw [hold, hold, heq]
  cases hr : r.settle with
  | error e => exact .error e
  | ok r' =>
    have h' := hkeeps r' hr
    refine .ok ⟨?_, h'.operand, h'.separated⟩
    intro q w hq
    cases hq
    exact hp

theorem follows_long {level : Option Subcommand} {r : Reading} (h : r.Keeps P b) {name : String}
    (hname : name ≠ "log")
    (hlevel : ∀ p, named? level name = some p → p.takesValue = true → P p)
    (value : Option String) :
    Follows f P b (r.long level name value) ((r.withLog f).long level name value) := by
  rw [long, long, ← named?]
  cases hnamed : named? level name with
  | none => exact .error _
  | some p =>
    have hp := named?_ne_log hnamed hname
    dsimp only
    cases htakes : p.takesValue <;> cases value
    · exact follows_note hP h hp ""
    · exact .error _
    · exact follows_hold hP h (hlevel p hnamed htakes) none
    · exact follows_note hP h hp _

theorem follows_short (level : Option Subcommand) (cs : List Char) {r : Reading}
    (h : r.Keeps P b) : Follows f P b (short level cs r) (short level cs (r.withLog f)) := by
  induction cs generalizing r with
  | nil => exact .ok h
  | cons c cs ih =>
    rw [short, short, ← lettered?]
    cases hletter : lettered? level c with
    | none => exact .error _
    | some p => exact (follows_note hP h (lettered?_ne_log hletter) "").bind fun r h => ih h

theorem follows_word (level : Option Subcommand) {r : Reading} (h : r.Keeps P b) (t : String) :
    Follows f P b (r.word level t) ((r.withLog f).word level t) := by
  cases hawaits : r.awaitsValue with
  | true =>
    obtain ⟨hseparated, p, hp⟩ := awaitsValue_eq_true_iff.mp hawaits
    obtain ⟨g, held, operand, separated⟩ := r
    cases hp
    cases hseparated
    refine .ok (r := ⟨g, some (p, some t), operand, false⟩) ⟨?_, h.operand, h.separated⟩
    intro q v hq
    cases hq
    exact h.held p none rfl
  | false =>
    have hawaits' : (r.withLog f).awaitsValue = false := hawaits
    rw [word_of_not_awaiting level t hawaits, word_of_not_awaiting level t hawaits']
    rw [show (r.withLog f).operand = r.operand from rfl]
    cases hoperand : r.operand with
    | none => exact .error _
    | some p =>
      refine (follows_hold hP h (h.operand p hoperand) (some t)).bind fun r h => .ok ?_
      refine ⟨h.held, ?_, h.separated⟩
      intro q hq
      cases hq

theorem follows_step (level : Option Subcommand)
    (hlevel : ∀ name, name ≠ "log" → ∀ p, named? level name = some p → p.takesValue = true → P p)
    {r : Reading} (h : r.Keeps P b) {w : String}
    (hw : r.separated = true ∨ ∀ v, Token.of w ≠ .long "log" v) :
    Follows f P b (r.step level w) ((r.withLog f).step level w) := by
  rw [step, step, show (r.withLog f).separated = r.separated from rfl]
  cases hseparated : r.separated with
  | true => exact follows_word hP level h w
  | false =>
    have hw := hw.resolve_left (by simp [hseparated])
    rw [if_neg Bool.false_ne_true]
    cases htoken : Token.of w with
    | separator => exact .ok ⟨h.held, h.operand, fun _ => rfl⟩
    | long name value =>
      have hname : name ≠ "log" := by
        rintro rfl
        exact hw value htoken
      exact follows_long hP h hname (hlevel name hname) value
    | short cs => exact follows_short hP level cs h
    | word t => exact follows_word hP level h t

end Reading

theorem length_unfilteredFrom_le (b : Bool) (ws : List String) :
    (unfilteredFrom b ws).length ≤ ws.length := by
  induction ws generalizing b with
  | nil => exact Nat.le_refl _
  | cons w ws ih =>
    have htrue := ih true
    have hfalse := ih false
    cases b with
    | true => exact Nat.le_succ_of_le hfalse
    | false =>
      rw [unfilteredFrom]
      split
      · exact Nat.le_refl _
      · next name value _ =>
        split
        · exact Nat.le_succ_of_le (ih _)
        · exact Nat.succ_le_succ hfalse
      · exact Nat.succ_le_succ hfalse

theorem unfiltered_cons {w : String} {ws : List String} (h : unfiltered (w :: ws) = w :: ws) :
    (∀ v, Token.of w ≠ .long "log" v) ∧ (Token.of w = .separator ∨ unfiltered ws = ws) := by
  have hlog : ∀ v, Token.of w ≠ .long "log" v := by
    intro v hv
    have hlength := congrArg List.length h
    rw [unfiltered, unfilteredFrom_log ws hv] at hlength
    have := length_unfilteredFrom_le v.isNone ws
    rw [List.length_cons] at hlength
    omega
  by_cases hseparator : Token.of w = .separator
  · exact ⟨hlog, Or.inl hseparator⟩
  · rw [unfiltered, unfilteredFrom_cons ws hseparator hlog] at h
    exact ⟨hlog, Or.inr (List.cons.inj h).2⟩

namespace Reading

/-- Whether no word gives a filter, after what has been read. -/
def Free (r : Reading) (ws : List String) : Prop := r.separated = true ∨ unfiltered ws = ws

theorem Free.not_log {r : Reading} {w : String} {ws : List String} (h : r.Free (w :: ws)) :
    r.separated = true ∨ ∀ v, Token.of w ≠ .long "log" v :=
  h.imp_right fun h => (unfiltered_cons h).1

theorem Free.step {r r' : Reading} {level : Option Subcommand} {w : String} {ws : List String}
    (h : r.Free (w :: ws)) (hstep : r.step level w = .ok r')
    (hseparated : r.separated = true → r'.separated = true) : r'.Free ws := by
  by_cases hr : r.separated = true
  · exact Or.inl (hseparated hr)
  have hunfiltered := h.resolve_left hr
  rcases (unfiltered_cons hunfiltered).2 with htoken | hrest
  · rw [Reading.step, if_neg hr, htoken] at hstep
    cases hstep
    exact Or.inl rfl
  · exact Or.inr hrest

variable {f : Option String} {P : Parameter → Prop}

theorem follows_all (hP : ∀ p, P p → p ≠ .log) (level : Option Subcommand)
    (hlevel : ∀ name, name ≠ "log" → ∀ p, named? level name = some p → p.takesValue = true → P p)
    (ws : List String) {r : Reading} (h : r.Keeps P false) (hfree : r.Free ws) :
    Follows f P false (all level ws r) (all level ws (r.withLog f)) := by
  induction ws generalizing r with
  | nil => exact .ok h
  | cons w ws ih =>
    have hstep := follows_step (f := f) hP level hlevel h.of_separated hfree.not_log
    rw [all, all, hstep.eq_map]
    cases hr : r.step level w with
    | error e => exact .error e
    | ok r' =>
      have hkeeps := hstep.keeps r' hr
      exact ih hkeeps.weaken (hfree.step hr hkeeps.separated)

/-- Ahead of a subcommand only the filter takes a value. -/
theorem takesValue_of_named? {name : String} (hname : name ≠ "log") {p : Parameter}
    (hp : named? none name = some p) (htakes : p.takesValue = true) : False := by
  have hlog := named?_ne_log hp hname
  rw [named?] at hp
  have hmem := List.mem_of_find?_eq_some hp
  cases p <;> simp_all [Subcommand.options, Parameter.takesValue]

/-- Ahead of a subcommand nothing is held, and there is no operand. -/
abbrev Bare (r : Reading) : Prop := r.Keeps (fun _ => False) false

theorem Bare.awaitsValue {r : Reading} (h : r.Bare) : r.awaitsValue = false := by
  rw [Bool.eq_false_iff, Ne, awaitsValue_eq_true_iff]
  rintro ⟨-, p, hp⟩
  exact h.held p none hp

theorem Bare.follows_step {r : Reading} (h : r.Bare) {w : String} {ws : List String}
    (hfree : r.Free (w :: ws)) :
    (r.withLog f).step none w = (r.step none w).map (withLog f) ∧
      ∀ r', r.step none w = .ok r' → r'.Bare ∧ r'.Free ws := by
  have hstep := Reading.follows_step (f := f) (fun _ hp => hp.elim) none
    (fun _ hname _ hp htakes => takesValue_of_named? hname hp htakes) h.of_separated hfree.not_log
  refine ⟨hstep.eq_map, fun r' hr => ?_⟩
  have hkeeps := hstep.keeps r' hr
  exact ⟨hkeeps.weaken, hfree.step hr hkeeps.separated⟩

theorem upToSubcommand_withLog (ws : List String) {r : Reading} (h : r.Bare) (hfree : r.Free ws) :
    upToSubcommand ws (r.withLog f) =
      (upToSubcommand ws r).map fun x => (x.1.withLog f, x.2) := by
  induction ws generalizing r with
  | nil => rfl
  | cons w ws ih =>
    obtain ⟨heq, hnext⟩ := h.follows_step (f := f) hfree
    have hrest : ((r.withLog f).step none w).bind (upToSubcommand ws) =
        ((r.step none w).bind (upToSubcommand ws)).map fun x => (x.1.withLog f, x.2) := by
      rw [heq]
      cases hr : r.step none w with
      | error e => rfl
      | ok r' => exact ih (hnext r' hr).1 (hnext r' hr).2
    cases hcut : cut? none w with
    | none =>
      rw [upToSubcommand_cons hcut, upToSubcommand_cons hcut]
      exact hrest
    | some c =>
      rw [upToSubcommand_cut hcut, upToSubcommand_cut hcut]
      show (if r.separated || r.awaitsValue then _ else _) = _
      split
      · exact hrest
      · cases c <;> rfl

/-- What is left for a subcommand has no filter either. -/
theorem bare_of_upToSubcommand {ws : List String} {r : Reading} (h : r.Bare) (hfree : r.Free ws)
    {x : Reading × Option (Subcommand × List String)} (hx : upToSubcommand ws r = .ok x) :
    x.1.Bare ∧ ∀ c rest, x.2 = some (c, rest) → unfiltered rest = rest := by
  induction ws generalizing r with
  | nil =>
    cases hx
    refine ⟨h, ?_⟩
    intro c rest hrest
    cases hrest
  | cons w ws ih =>
    obtain ⟨-, hnext⟩ := h.follows_step (f := none) hfree
    have hrest (hstep : (r.step none w).bind (upToSubcommand ws) = .ok x) :
        x.1.Bare ∧ ∀ c rest, x.2 = some (c, rest) → unfiltered rest = rest := by
      cases hr : r.step none w with
      | error e =>
        rw [hr] at hstep
        cases hstep
      | ok r' =>
        rw [hr] at hstep
        exact ih (hnext r' hr).1 (hnext r' hr).2 hstep
    cases hcut : cut? none w with
    | none =>
      rw [upToSubcommand_cons hcut] at hx
      exact hrest hx
    | some c =>
      rw [upToSubcommand_cut hcut, h.awaitsValue, Bool.or_false] at hx
      split at hx
      · exact hrest hx
      · next hseparated =>
        cases c with
        | none => cases hx
        | some c =>
          cases hx
          refine ⟨h, ?_⟩
          intro c rest heq
          cases heq
          have hunfiltered := (unfiltered_cons (hfree.resolve_left hseparated)).2
          rw [token_of_cut hcut] at hunfiltered
          exact hunfiltered.resolve_left Token.noConfusion

theorem cut?_name (c : Subcommand) : cut? none c.name = some (some c) := by
  cases c <;> decide

theorem upToSubcommand_name (c : Subcommand) (tail : List String) {r : Reading} (h : r.Bare) :
    upToSubcommand (c.name :: tail) r =
      if r.separated then .error (.error (r.useless none c.name)) else .ok (r, some (c, tail)) := by
  rw [upToSubcommand_cut (cut?_name c), h.awaitsValue, Bool.or_false]
  split
  · next hseparated =>
    have hoperand : r.operand = none := by
      cases ho : r.operand with
      | none => rfl
      | some p => exact (h.operand p ho).elim
    rw [step, if_pos hseparated, token, word_of_not_awaiting none _ h.awaitsValue, hoperand]
    rfl
  · rfl

end Reading

theorem token_filterWord (f : String) : Token.of ("--log=" ++ f) = .long "log" (some f) := by
  have hlist : ("--log=" ++ f).toList = '-' :: '-' :: 'l' :: 'o' :: 'g' :: '=' :: f.toList :=
    String.toList_append
  rw [Token.of, hlist]
  show Token.long "log" (some (String.ofList f.toList)) = _
  rw [String.ofList_toList]

theorem finish_withLog (f e : Option String) {P : Parameter → Prop} (hP : ∀ p, P p → p ≠ .log)
    (env : Environment) {r : Reading} (h : r.Keeps P false) :
    finish { env with log := e } (r.withLog f) =
      (finish env.unfiltered r).map (Given.withLog f) := by
  rw [finish, finish, (Reading.follows_settle (f := f) hP h).eq_map]
  cases r.settle with
  | error _ => rfl
  | ok r' =>
    show (if r'.given.strict then _ else env.asksStrict.map _) =
      (if r'.given.strict then _ else env.asksStrict.map _ : Except Refusal Given).map _
    split
    · rfl
    · cases env.asksStrict <;> rfl

theorem bare_start : (Reading.start none).Bare where
  held := by
    intro p v h
    cases h
  operand := by
    intro p h
    cases h
  separated := id

end Paging.Command
