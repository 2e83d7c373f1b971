import Mathlib.Data.List.DropRight
import Mathlib.Data.List.GetD
import Paging.Proofs.Dialogue.Course

/-!
# Rounds do not know of each other

A round is an action and the argument for it.  A session on complete rounds and something behind
them does what it does on the rounds alone, up to the last question, and then what it does on the
rest alone (`scriptOf_append`).  So nothing that happens in a round is left for a later one.
-/

namespace Paging.Dialogue

open Text

/-- An even number of full lines of text, of which no action ends the dialogue. -/
structure CompleteRounds (input : List UInt8) : Prop where
  even : Even (lines input).length
  full : ∀ l ∈ lines input, IsFullLine l
  text : ∀ l ∈ lines input, Utf8.IsText l
  stays : ∀ (k : Nat) l, Even k → (lines input)[k]? = some l → ¬ Quits l

def rounds (s : Strictness) (input : List UInt8) : List Step :=
  (List.range (lines input).length).flatMap (exchange s (lines input))

/-- One round. -/
theorem completeRounds_pair {l l' : List UInt8} (hl : IsFullLine l) (hl' : IsFullLine l')
    (ht : Utf8.IsText l) (ht' : Utf8.IsText l') (hstay : ¬ Quits l) : CompleteRounds (l ++ l') := by
  have hlines : lines (l ++ l') = [l, l'] := by
    have hpair := lines_append hl (l' ++ [])
    rwa [lines_append hl', List.append_nil] at hpair
  refine ⟨?_, ?_, ?_, fun k m hk hm => ?_⟩
  · rw [hlines]
    exact even_two
  · simpa [hlines] using ⟨hl, hl'⟩
  · simpa [hlines] using ⟨ht, ht'⟩
  · rw [hlines] at hm
    match k, hm with
    | 0, hm => exact Option.some.inj hm ▸ hstay
    | 1, _ => exact absurd hk (by decide)

/-! ### More lines behind -/

theorem questionAt_append {ls : List (List UInt8)} (more : List (List UInt8)) {k : Nat}
    (hk : k ≤ ls.length) : questionAt (ls ++ more) k = questionAt ls k := by
  by_cases heven : Even k
  · rw [questionAt_of_even heven, questionAt_of_even heven]
  · have hpos : k ≠ 0 := fun h => heven (h ▸ Even.zero)
    rw [questionAt, questionAt, List.getD_append _ _ _ _ (by omega)]

theorem exchange_append (s : Strictness) {ls : List (List UInt8)} (more : List (List UInt8))
    {k : Nat} (hk : k < ls.length) : exchange s (ls ++ more) k = exchange s ls k := by
  rw [exchange, exchange, answerAt, answerAt, questionAt_append more (Nat.le_of_lt hk),
    List.getD_append _ _ _ _ hk, List.getElem?_append_left hk]

namespace CompleteRounds

variable {a : List UInt8} (h : CompleteRounds a)

include h

theorem lines_append (b : List UInt8) : lines (a ++ b) = lines a ++ lines b := by
  have happend := lines_flatten_append h.full b
  rwa [flatten_lines] at happend

theorem goesOn (more : List (List UInt8)) :
    ∀ k < (lines a).length, GoesOn (lines a ++ more) k := by
  intro k hk
  refine ⟨by rw [List.length_append]; omega, fun e hstop => ?_⟩
  cases hstop with
  | atEnd hend => rw [List.length_append] at hend; omega
  | notText hl hnot =>
    rw [List.getElem?_append_left hk] at hl
    exact hnot (h.text _ (List.mem_of_getElem? hl))
  | quit hl heven hquit =>
    rw [List.getElem?_append_left hk] at hl
    exact h.stays k _ heven hl hquit

theorem append {b : List UInt8} (hb : CompleteRounds b) : CompleteRounds (a ++ b) := by
  have hmem : ∀ l ∈ lines (a ++ b), l ∈ lines a ∨ l ∈ lines b := fun l hl =>
    List.mem_append.mp (h.lines_append b ▸ hl)
  refine ⟨?_, fun l hl => (hmem l hl).elim (h.full l) (hb.full l),
    fun l hl => (hmem l hl).elim (h.text l) (hb.text l), fun k l hk hl => ?_⟩
  · rw [h.lines_append, List.length_append]
    exact h.even.add hb.even
  · rw [h.lines_append] at hl
    by_cases hlt : k < (lines a).length
    · rw [List.getElem?_append_left hlt] at hl
      exact h.stays k l hk hl
    · have hle : (lines a).length ≤ k := Nat.le_of_not_lt hlt
      rw [List.getElem?_append_right hle] at hl
      exact hb.stays _ l ((Nat.even_sub hle).mpr (iff_of_true hk h.even)) hl

/-- **What follows complete rounds starts afresh.** -/
theorem scriptOf_append (s : Strictness) (b : List UInt8) :
    scriptOf s (a ++ b) = (scriptOf s b).after (rounds s a) := by
  rw [scriptOf, h.lines_append, script_of_forall_goesOn (h.goesOn (lines b)),
    questionAt_of_even h.even, List.drop_left]
  congr 1
  rw [rounds]
  exact List.flatMap_congr fun k hk => exchange_append s (lines b) (List.mem_range.mp hk)

theorem written_append (s : Strictness) (b : List UInt8) :
    (session s none (a ++ b)).written =
      (rounds s a).flatMap Step.bytes ++ (session s none b).written := by
  rw [session_written, session_written, h.scriptOf_append, Script.after, List.flatMap_append]

theorem rest_append (s : Strictness) (b : List UInt8) :
    (session s none (a ++ b)).rest = (session s none b).rest := by
  have hrounds : ((rounds s a).filterMap Step.line?).flatten = a := by
    rw [rounds, flatten_lines_exchanges, List.take_length, flatten_lines]
  rw [session_rest, session_rest, h.scriptOf_append, Script.after, List.filterMap_append,
    List.flatten_append, hrounds, List.length_append, ← List.drop_drop, List.drop_left]

theorem result_append (s : Strictness) (b : List UInt8) :
    (session s none (a ++ b)).result = (session s none b).result := by
  rw [session_result, session_result, h.scriptOf_append]
  rfl

end CompleteRounds

/-! ### What the rounds write -/

def farewell : List UInt8 := Utf8.encode Question.action.text ++ Utf8.encode "\n"

/-- What a session on complete rounds writes, without its farewell. -/
def answers (s : Strictness) (a : List UInt8) : List UInt8 :=
  (session s none a).written.rdrop farewell.length

theorem written_nil (s : Strictness) : (session s none []).written = farewell := by
  rw [session_written, farewell]
  simp [scriptOf, lines, script, Question.steps, Step.bytes]

namespace CompleteRounds

variable {a : List UInt8} (h : CompleteRounds a)

include h

theorem written_eq (s : Strictness) :
    (session s none a).written = (rounds s a).flatMap Step.bytes ++ farewell := by
  have happend := h.written_append s []
  rwa [List.append_nil, written_nil] at happend

theorem answers_eq (s : Strictness) : answers s a = (rounds s a).flatMap Step.bytes := by
  rw [answers, h.written_eq, List.rdrop, List.length_append, Nat.add_sub_cancel, List.take_left]

end CompleteRounds

/-- Rounds in any number, given one after the other, are answered one after the other. -/
theorem written_flatten_append (s : Strictness) {rs : List (List UInt8)}
    (h : ∀ r ∈ rs, CompleteRounds r) (b : List UInt8) :
    (session s none (rs.flatten ++ b)).written =
      (rs.map (answers s)).flatten ++ (session s none b).written := by
  induction rs with
  | nil => rfl
  | cons r rs ih =>
    have hr : CompleteRounds r := h r List.mem_cons_self
    rw [List.flatten_cons, List.append_assoc, hr.written_append, ← hr.answers_eq,
      ih (fun r hr => h r (List.mem_cons_of_mem _ hr)), List.map_cons, List.flatten_cons,
      List.append_assoc]

/-- **Rounds are independent of each other.**  Behind complete rounds a session does what it would
do without them, and in another order they have the same answers in that order. -/
theorem session_append_of_completeRounds (s : Strictness) {a : List UInt8} (h : CompleteRounds a)
    (b : List UInt8) :
    (session s none a).written = answers s a ++ farewell ∧
    (session s none (a ++ b)).written = answers s a ++ (session s none b).written ∧
    (session s none (a ++ b)).rest = (session s none b).rest ∧
    (session s none (a ++ b)).result = (session s none b).result ∧
    ∀ rs rs' : List (List UInt8), (∀ r ∈ rs, CompleteRounds r) → rs.flatten = a → rs'.Perm rs →
      answers s a = (rs.map (answers s)).flatten ∧
      (session s none (rs'.flatten ++ b)).written =
        (rs'.map (answers s)).flatten ++ (session s none b).written := by
  have hwritten :
      (session s none (a ++ b)).written = answers s a ++ (session s none b).written := by
    rw [h.written_append, h.answers_eq]
  refine ⟨?_, hwritten, h.rest_append s b, h.result_append s b, ?_⟩
  · rw [h.written_eq, h.answers_eq]
  · intro rs rs' hrs hflat hperm
    have hrs' : ∀ r ∈ rs', CompleteRounds r := fun r hr => hrs r (hperm.mem_iff.mp hr)
    refine ⟨?_, written_flatten_append s hrs' b⟩
    have hall := written_flatten_append s hrs b
    rw [hflat, hwritten] at hall
    exact List.append_cancel_right hall

/-- The round `1`, `z` is refused and the round `2`, `1` is answered, in either order. -/
theorem session_append_of_two_rounds :
    let refused : List UInt8 := [0x31, 0x0A, 0x7A, 0x0A]
    let answered : List UInt8 := [0x32, 0x0A, 0x31, 0x0A]
    CompleteRounds (refused ++ answered) ∧
    (session .strict none ((refused ++ answered) ++ [0x71])).written =
      answers .strict (refused ++ answered) ++ (session .strict none [0x71]).written ∧
    (session .strict none ([answered, refused].flatten ++ [0x71])).written =
      ([answered, refused].map (answers .strict)).flatten ++
        (session .strict none [0x71]).written := by
  intro refused answered
  have hrefused : CompleteRounds refused :=
    completeRounds_pair (l := [0x31, 0x0A]) ⟨[0x31], rfl, by decide⟩ ⟨[0x7A], rfl, by decide⟩
      ⟨"1\n", by decide⟩ ⟨"z\n", by decide⟩ (by decide)
  have hanswered : CompleteRounds answered :=
    completeRounds_pair (l := [0x32, 0x0A]) ⟨[0x32], rfl, by decide⟩ ⟨[0x31], rfl, by decide⟩
      ⟨"2\n", by decide⟩ ⟨"1\n", by decide⟩ (by decide)
  have hrounds := hrefused.append hanswered
  obtain ⟨_, hwritten, _, _, horder⟩ := session_append_of_completeRounds .strict hrounds [0x71]
  refine ⟨hrounds, hwritten, (horder [refused, answered] _ ?_ rfl (.swap _ _ _)).2⟩
  simpa using ⟨hrefused, hanswered⟩

end Paging.Dialogue
