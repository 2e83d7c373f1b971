import Paging.Proofs.Command.Reading

/-!
# Noting early what is held

A reading holds back the last value until the next parameter comes up.  If that value is good it may
as well be noted at once: every reading of further words is the same (`Reading.all_of_settle`,
`Reading.upToSubcommand_of_settle`).  If it is not, the level ends in a fault whatever words follow,
though it may be the fault of one of those (`Reading.all_of_fault`).
-/

namespace Paging.Command

namespace Reading

variable {r r₀ : Reading} {level : Option Subcommand}

/-! ### One word -/

theorem eq_of_settle (h : r.settle = .ok r₀) :
    r₀ = { r with given := r₀.given, held := none } := by
  obtain ⟨g, held, operand, separated⟩ := r
  rcases held with - | ⟨p, - | v⟩
  · cases h
    rfl
  · cases h
  · rw [settle_value] at h
    cases hset : g.set p v with
    | error e =>
      rw [hset] at h
      cases h
    | ok g' =>
      rw [hset] at h
      cases h
      rfl

theorem settle_of_settle (h : r.settle = .ok r₀) : r₀.settle = .ok r₀ := by
  rw [eq_of_settle h]
  rfl

theorem awaitsValue_of_settle (h : r.settle = .ok r₀) : r₀.awaitsValue = false := by
  rw [eq_of_settle h]
  exact Bool.and_false _

theorem settle_separated (b : Bool) :
    settle { r with separated := b } = r.settle.map fun r => { r with separated := b } := by
  obtain ⟨g, held, operand, separated⟩ := r
  rcases held with - | ⟨p, - | v⟩
  · rfl
  · rfl
  · rw [settle_value, settle_value]
    cases g.set p v <;> rfl

theorem step_eq_token {w : String} (h : r.separated = false) :
    r.step level w = r.token level (Token.of w) := by
  rw [step, h, if_neg Bool.false_ne_true]

/-- How `k` deals with what a reading holds: it has it noted first, or it comes to a fault in which
what is held plays no part. -/
inductive NotesHeld (k : Reading → Except Refusal Reading) (r : Reading) : Prop
  | first (h : k r = r.settle.bind k)
  | fault (e : ArgumentError) (h : k r = .error (.error e))
      (h₀ : ∀ r₀, r.settle = .ok r₀ → k r₀ = .error (.error e))

theorem note_eq_bind (p : Parameter) (v : String) : r.note p v = r.settle.bind (note · p v) := by
  cases h : r.settle with
  | error e =>
    rw [note, h]
    rfl
  | ok r₀ =>
    show r.note p v = r₀.note p v
    rw [note, note, h, settle_of_settle h]

theorem hold_eq_bind (p : Parameter) (v : Option String) :
    r.hold p v = r.settle.bind (hold · p v) := by
  cases h : r.settle with
  | error e =>
    rw [hold, h]
    rfl
  | ok r₀ =>
    show r.hold p v = r₀.hold p v
    rw [hold, hold, h, settle_of_settle h]

theorem notesHeld_long (name : String) (value : Option String) :
    NotesHeld (long level · name value) r := by
  cases hnamed : named? level name with
  | none =>
    have hlong (r : Reading) : r.long level name value =
        .error (.error (.unexpected ("--" ++ name))) := by
      rw [long, ← named?, hnamed]
    exact .fault _ (hlong r) fun r₀ _ => hlong r₀
  | some p =>
    have hnote (t : String) (h : ∀ r : Reading, r.long level name value = r.note p t) :
        NotesHeld (long level · name value) r :=
      .first (by simp only [h]; exact note_eq_bind p t)
    cases htakes : p.takesValue with
    | true =>
      cases value with
      | some v =>
        refine hnote v fun r => ?_
        rw [long, ← named?, hnamed]
        simp only [htakes]
      | none =>
        have hlong (r : Reading) : r.long level name none = r.hold p none := by
          rw [long, ← named?, hnamed]
          simp only [htakes]
        exact .first (by simp only [hlong]; exact hold_eq_bind p none)
    | false =>
      cases value with
      | some v =>
        have hlong (r : Reading) : r.long level name (some v) =
            .error (.error (.superfluousValue v p)) := by
          rw [long, ← named?, hnamed]
          simp only [htakes]
        exact .fault _ (hlong r) fun r₀ _ => hlong r₀
      | none =>
        refine hnote "" fun r => ?_
        rw [long, ← named?, hnamed]
        simp only [htakes]

theorem notesHeld_short {cs : List Char} (hcs : cs ≠ []) : NotesHeld (short level cs) r := by
  obtain ⟨c, cs, rfl⟩ := List.exists_cons_of_ne_nil hcs
  cases hletter : lettered? level c with
  | none =>
    have hshort (r : Reading) : short level (c :: cs) r =
        .error (.error (.unexpected (String.ofList ['-', c]))) := by
      rw [short, ← lettered?, hletter]
    exact .fault _ (hshort r) fun r₀ _ => hshort r₀
  | some p =>
    have hshort (r : Reading) :
        short level (c :: cs) r = (r.note p "").bind (short level cs) := by
      rw [short, ← lettered?, hletter]
    apply NotesHeld.first
    rw [hshort, note_eq_bind]
    cases r.settle with
    | error e => rfl
    | ok r₀ => exact (hshort r₀).symm

theorem notesHeld_word (t : String) (hawaits : r.awaitsValue = false) :
    NotesHeld (word level · t) r := by
  have hword := word_of_not_awaiting level t hawaits
  have hoperand₀ {r₀ : Reading} (h : r.settle = .ok r₀) : r₀.operand = r.operand := by
    rw [eq_of_settle h]
  cases hoperand : r.operand with
  | none =>
    rw [hoperand] at hword
    refine .fault _ hword fun r₀ h => ?_
    show r₀.word level t = _
    rw [word_of_not_awaiting level t (awaitsValue_of_settle h), hoperand₀ h, hoperand,
      eq_of_settle h]
    rfl
  | some p =>
    rw [hoperand] at hword
    apply NotesHeld.first
    show r.word level t = _
    rw [hword]
    dsimp only
    rw [hold_eq_bind]
    cases h : r.settle with
    | error e => rfl
    | ok r₀ =>
      show _ = r₀.word level t
      rw [word_of_not_awaiting level t (awaitsValue_of_settle h), hoperand₀ h, hoperand]
      rfl

/-- **Every word but two dashes alone has what is held noted**, unless it is at fault itself. -/
theorem notesHeld_step {w : String} (hawaits : r.awaitsValue = false)
    (hw : r.separated = true ∨ Token.of w ≠ .separator) : NotesHeld (step level · w) r := by
  have hseparated {r₀ : Reading} (h : r.settle = .ok r₀) : r₀.separated = r.separated := by
    rw [eq_of_settle h]
  have hnotes {t : Token}
      (hstep : ∀ r' : Reading, r'.separated = r.separated → r'.step level w = r'.token level t)
      (h : NotesHeld (token level · t) r) : NotesHeld (step level · w) r := by
    cases h with
    | first h =>
      apply NotesHeld.first
      show r.step level w = _
      rw [hstep r rfl, h]
      cases hr : r.settle with
      | error e => rfl
      | ok r₀ => exact (hstep r₀ (hseparated hr)).symm
    | fault e h h₀ =>
      refine .fault e ((hstep r rfl).trans h) fun r₀ hr₀ => ?_
      exact (hstep r₀ (hseparated hr₀)).trans (h₀ r₀ hr₀)
  cases htrue : r.separated with
  | true =>
    refine hnotes (t := .word w) (fun r' hr' => ?_) (notesHeld_word w hawaits)
    rw [step, hr', htrue, if_pos rfl]
  | false =>
    refine hnotes (fun r' hr' => step_eq_token (hr'.trans htrue)) ?_
    have hw := hw.resolve_left (by simp [htrue])
    cases htoken : Token.of w with
    | separator => exact absurd htoken hw
    | long name value => exact notesHeld_long name value
    | short cs => exact notesHeld_short (ne_nil_of_short htoken)
    | word t => exact notesHeld_word t hawaits

/-- Two dashes alone have nothing noted. -/
theorem step_separator {w : String} (hseparated : r.separated = false)
    (hw : Token.of w = .separator) : r.step level w = .ok { r with separated := true } := by
  rw [step_eq_token hseparated, hw]
  rfl

theorem step_of_settle {w : String} (h : r.settle = .ok r₀) (hawaits : r.awaitsValue = false)
    (hw : r.separated = true ∨ Token.of w ≠ .separator) : r.step level w = r₀.step level w := by
  have hnotes : NotesHeld (step level · w) r := notesHeld_step hawaits hw
  cases hnotes with
  | first hfirst =>
    rw [h] at hfirst
    exact hfirst
  | fault e hr hr₀ => exact hr.trans (hr₀ r₀ h).symm

theorem step_of_fault {w : String} {e : ArgumentError} (h : r.settle = .error (.error e))
    (hawaits : r.awaitsValue = false) (hw : r.separated = true ∨ Token.of w ≠ .separator) :
    ∃ e', r.step level w = .error (.error e') := by
  have hnotes : NotesHeld (step level · w) r := notesHeld_step hawaits hw
  cases hnotes with
  | first hfirst =>
    rw [h] at hfirst
    exact ⟨e, hfirst⟩
  | fault e' hr _ => exact ⟨e', hr⟩

/-! ### All words -/

theorem awaitsValue_separated : awaitsValue { r with separated := true } = false := rfl

/-- **A value that is held and good may be noted at once**, if it is noted in the end. -/
theorem all_of_settle {α : Type} {k : Reading → Except Refusal α}
    (hk : ∀ r r₀, r.settle = .ok r₀ → k r = k r₀) (ws : List String) (h : r.settle = .ok r₀)
    (hawaits : r.awaitsValue = false) :
    (all level ws r).bind k = (all level ws r₀).bind k := by
  induction ws generalizing r r₀ with
  | nil => exact hk r r₀ h
  | cons w ws ih =>
    by_cases hw : r.separated = true ∨ Token.of w ≠ .separator
    · rw [all, all, step_of_settle h hawaits hw]
    · obtain ⟨hseparated, htoken⟩ := not_or.mp hw
      have hfalse : r.separated = false := Bool.eq_false_iff.mpr hseparated
      have hfalse₀ : r₀.separated = false := by
        rw [eq_of_settle h]
        exact hfalse
      have htoken := not_not.mp htoken
      rw [all, all, step_separator hfalse htoken, step_separator hfalse₀ htoken]
      refine ih ?_ awaitsValue_separated
      rw [settle_separated, h]
      rfl

/-- **A value that is held and at fault makes the level end in a fault.** -/
theorem all_of_fault {α : Type} {k : Reading → Except Refusal α}
    (hk : ∀ r e, r.settle = .error (.error e) → ∃ e', k r = .error (.error e')) (ws : List String)
    {e : ArgumentError} (h : r.settle = .error (.error e)) (hawaits : r.awaitsValue = false) :
    ∃ e', (all level ws r).bind k = .error (.error e') := by
  induction ws generalizing r with
  | nil => exact hk r e h
  | cons w ws ih =>
    by_cases hw : r.separated = true ∨ Token.of w ≠ .separator
    · obtain ⟨e', hstep⟩ : ∃ e', r.step level w = .error (.error e') :=
        step_of_fault h hawaits hw
      refine ⟨e', ?_⟩
      rw [all, hstep]
      rfl
    · obtain ⟨hseparated, htoken⟩ := not_or.mp hw
      rw [all, step_separator (Bool.eq_false_iff.mpr hseparated) (not_not.mp htoken)]
      refine ih ?_ awaitsValue_separated
      rw [settle_separated, h]
      rfl

/-- Up to a subcommand, too, a good value may be noted at once. -/
theorem upToSubcommand_of_settle {α : Type}
    {k : Reading × Option (Subcommand × List String) → Except Refusal α}
    (hk : ∀ r r₀ sub, r.settle = .ok r₀ → k (r, sub) = k (r₀, sub)) (ws : List String)
    (h : r.settle = .ok r₀) (hawaits : r.awaitsValue = false) :
    (upToSubcommand ws r).bind k = (upToSubcommand ws r₀).bind k := by
  induction ws generalizing r r₀ with
  | nil => exact hk r r₀ none h
  | cons w ws ih =>
    have hseparated₀ : r₀.separated = r.separated := by rw [eq_of_settle h]
    have hrest : ((r.step none w).bind (upToSubcommand ws)).bind k =
        ((r₀.step none w).bind (upToSubcommand ws)).bind k := by
      by_cases hw : r.separated = true ∨ Token.of w ≠ .separator
      · rw [step_of_settle h hawaits hw]
      · obtain ⟨hseparated, htoken⟩ := not_or.mp hw
        have hfalse : r.separated = false := Bool.eq_false_iff.mpr hseparated
        have htoken := not_not.mp htoken
        rw [step_separator hfalse htoken, step_separator (hseparated₀.trans hfalse) htoken]
        refine ih ?_ awaitsValue_separated
        rw [settle_separated, h]
        rfl
    cases hcut : cut? none w with
    | none =>
      rw [upToSubcommand_cons hcut, upToSubcommand_cons hcut]
      exact hrest
    | some c =>
      rw [upToSubcommand_cut hcut, upToSubcommand_cut hcut, hawaits, awaitsValue_of_settle h,
        hseparated₀]
      split
      · exact hrest
      · cases c with
        | none => rfl
        | some c => exact hk r r₀ (some (c, ws)) h

end Reading

end Paging.Command
