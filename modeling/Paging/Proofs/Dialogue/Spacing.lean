import Mathlib.Data.List.Forall2
import Paging.Proofs.Dialogue.Course

/-!
# White space around lines

A line counts as the reply that lies between the white space at its ends.  Whether a session goes
on, what it asks and what it answers depend on the replies alone (`SameReplies.stops_iff`,
`SameReplies.segmentAt_eq`), so two inputs with the same replies line by line have the same course,
however their lines end and whatever space is around them.
-/

namespace Paging.Dialogue

open Text

/-- Line by line the replies are the same.  Two lines may also be no texts both. -/
def SameReplies (ls ls' : List (List UInt8)) : Prop :=
  List.Forall₂ (fun l l' => ∀ reply, Says l reply ↔ Says l' reply) ls ls'

theorem sameReplies_iff {ls ls' : List (List UInt8)} :
    SameReplies ls ls' ↔ ls.map reply? = ls'.map reply? := by
  have hline (l l' : List UInt8) :
      (∀ reply, Says l reply ↔ Says l' reply) ↔ reply? l = reply? l' := by
    simp only [← reply?_eq_some_iff]
    exact Option.ext_iff.symm
  simp only [SameReplies, hline]
  rw [← List.forall₂_eq_eq_eq, List.forall₂_map_left_iff, List.forall₂_map_right_iff]

instance (ls ls' : List (List UInt8)) : Decidable (SameReplies ls ls') :=
  decidable_of_iff _ sameReplies_iff.symm

/-! ### One line -/

namespace SameReplies

variable {ls ls' : List (List UInt8)} (h : SameReplies ls ls')

include h

theorem symm : SameReplies ls' ls := sameReplies_iff.mpr (sameReplies_iff.mp h).symm

theorem length_eq : ls.length = ls'.length := List.Forall₂.length_eq h

theorem map_reply? (k : Nat) : ls[k]?.map reply? = ls'[k]?.map reply? := by
  rw [← List.getElem?_map, ← List.getElem?_map, sameReplies_iff.mp h]

/-- The line with the same number in the other input. -/
theorem exists_line {k : Nat} {l : List UInt8} (hl : ls[k]? = some l) :
    ∃ l', ls'[k]? = some l' ∧ reply? l' = reply? l := by
  have hmap := h.map_reply? k
  rw [hl, Option.map_some] at hmap
  exact Option.map_eq_some_iff.mp hmap.symm

/-- What may follow a line depends on its reply alone. -/
theorem stops {k : Nat} {e : Ending} (hstop : Stops ls k e) : Stops ls' k e := by
  cases hstop with
  | atEnd hend => exact .atEnd (hend.trans h.length_eq)
  | notText hl hnot =>
    obtain ⟨l', hl', hreply⟩ := h.exists_line hl
    refine .notText hl' ?_
    rw [← Utf8.decode?_eq_none_iff] at hnot ⊢
    rw [reply?, reply?, hnot] at hreply
    exact Option.map_eq_none_iff.mp hreply
  | quit hl hk hquit =>
    obtain ⟨l', hl', hreply⟩ := h.exists_line hl
    obtain ⟨word, hword, hsays⟩ := hquit
    refine .quit hl' hk ⟨word, hword, ?_⟩
    rw [← reply?_eq_some_iff] at hsays ⊢
    exact hreply.trans hsays

theorem stops_iff {k : Nat} {e : Ending} : Stops ls k e ↔ Stops ls' k e := ⟨h.stops, h.symm.stops⟩

theorem goesOn {k : Nat} (hgo : GoesOn ls k) : GoesOn ls' k := by
  refine ⟨h.length_eq ▸ hgo.1, ?_⟩
  intro e hstop
  exact hgo.2 e (h.stops_iff.mpr hstop)

theorem questionAt_eq (k : Nat) : questionAt ls k = questionAt ls' k := by
  have hget (ls : List (List UInt8)) :
      reply? (ls.getD (k - 1) []) = (ls[k - 1]?.map reply?).getD (reply? []) := by
    rw [List.getD_eq_getElem?_getD]
    cases ls[k - 1]? <;> rfl
  rw [questionAt, questionAt]
  simp only [← reply?_eq_some_iff, hget, h.map_reply?]

theorem answerAt_eq (s : Strictness) (k : Nat) : answerAt s ls k = answerAt s ls' k := by
  have hbind : ls[k]?.bind reply? = ls'[k]?.bind reply? := by
    have hmap := congrArg (Option.bind · id) (h.map_reply? k)
    simpa only [Option.bind_map, Function.id_comp] using hmap
  rw [answerAt, answerAt, hbind, h.questionAt_eq]

/-- **What is written through a question depends on the replies alone.** -/
theorem segmentAt_eq (s : Strictness) (k : Nat) : segmentAt s ls k = segmentAt s ls' k := by
  have hheard : heard s ls k = heard s ls' k := by
    cases k with
    | zero => rfl
    | succ k => rw [heard, heard, h.answerAt_eq]
  rw [segmentAt, segmentAt, hheard, h.questionAt_eq]

end SameReplies

/-! ### Lines that are read -/

/-- The session reads the first `m` lines, and no others. -/
structure Reads (s : Strictness) (input : List UInt8) (m : Nat) : Prop where
  le : m ≤ (lines input).length
  taken : (play none (scriptOf s input).steps).taken.filter (· ≠ []) = (lines input).take m
  rest : (session s none input).rest = ((lines input).drop m).flatten

/-- The exchanges up to some number read the lines up to there, and past them nothing. -/
theorem filter_lines_exchanges (s : Strictness) {ls : List (List UInt8)} (hne : ∀ l ∈ ls, l ≠ [])
    (n : Nat) :
    (((List.range n).flatMap (exchange s ls)).filterMap Step.line?).filter (· ≠ []) =
      ls.take n := by
  induction n with
  | zero => rfl
  | succ n ih =>
    rw [List.range_succ, List.flatMap_append, List.flatMap_singleton, List.filterMap_append,
      List.filter_append, ih, filterMap_line?_exchange, List.take_add_one,
      List.getD_eq_getElem?_getD]
    cases hl : ls[n]? with
    | none => rfl
    | some l =>
      have hl' : l ≠ [] := hne l (List.mem_of_getElem? hl)
      simp [hl']

theorem Stops.le {ls : List (List UInt8)} {k : Nat} {e : Ending} (h : Stops ls k e) :
    k ≤ ls.length := by
  cases h with
  | atEnd h => exact Nat.le_of_eq h
  | notText hl h => exact Nat.le_of_lt (List.getElem?_eq_some_iff.mp hl).1
  | quit hl hk h => exact Nat.le_of_lt (List.getElem?_eq_some_iff.mp hl).1

theorem reads_of_last (s : Strictness) {input : List UInt8} {n : Nat} {e : Ending}
    (hgo : ∀ k < n, GoesOn (lines input) k) (hstop : Stops (lines input) n e) :
    Reads s input (min (n + 1) (lines input).length) := by
  have hclosing : (closing (lines input) n).filterMap Step.line? = [] := by
    rw [closing]
    split_ifs <;> rfl
  refine ⟨Nat.min_le_right _ _, ?_, ?_⟩
  · rw [taken_play, scriptOf_of_last hgo hstop, List.filterMap_append, hclosing, List.append_nil,
      filter_lines_exchanges s (fun l => (splitsInto_lines input).ne_nil), List.take_eq_take_min]
  · rw [rest_of_last hgo hstop]
    rcases Nat.le_total (n + 1) (lines input).length with hle | hge
    · rw [Nat.min_eq_left hle]
    · rw [Nat.min_eq_right hge, List.drop_of_length_le hge, List.drop_length]

/-! ### Two sessions -/

/-- **A session sees its lines only up to the white space around them.**  On two inputs with the
same replies line by line it writes the same segments, ends the same way and reads as many lines. -/
theorem session_of_sameReplies (s : Strictness) {input input' : List UInt8}
    (h : SameReplies (lines input) (lines input')) :
    (session s none input').segments = (session s none input).segments ∧
    (session s none input').result = (session s none input).result ∧
    ∃ m, Reads s input m ∧ Reads s input' m := by
  obtain ⟨n, e, hstop, hgo⟩ := exists_last (lines input)
  have hstop' := h.stops hstop
  have hgo' : ∀ k < n, GoesOn (lines input') k := fun k hk => h.goesOn (hgo k hk)
  refine ⟨?_, ?_, min (n + 1) (lines input).length, reads_of_last s hgo hstop, ?_⟩
  · have hsegments : segmentAt s (lines input') = segmentAt s (lines input) :=
      funext fun k => (h.segmentAt_eq s k).symm
    have hlast : lastSegment (lines input') n = lastSegment (lines input) n := by
      rw [lastSegment, lastSegment, h.length_eq]
    rw [session_segments_of_last hgo' hstop', session_segments_of_last hgo hstop, hsegments, hlast]
  · rw [result_of_last hgo' hstop', result_of_last hgo hstop]
  · rw [h.length_eq]
    exact reads_of_last s hgo' hstop'

/-- Lines that end in a carriage return, have odd spaces around them or lack the last line feed. -/
theorem session_of_padded_lines :
    let padded := Utf8.encode "1\r\n\u3000 0x1000\u0085\r\n\tquit"
    let plain := Utf8.encode "1\n0x1000\nquit\n"
    SameReplies (lines padded) (lines plain) ∧
    (session .strict none plain).segments = (session .strict none padded).segments ∧
    (session .strict none plain).result = (session .strict none padded).result ∧
    ∃ m, Reads .strict padded m ∧ Reads .strict plain m := by
  intro padded plain
  have h : SameReplies (lines padded) (lines plain) := by decide +kernel
  exact ⟨h, session_of_sameReplies .strict h⟩

end Paging.Dialogue
