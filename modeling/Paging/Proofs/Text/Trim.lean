import Mathlib.Data.List.DropRight
import Mathlib.Data.List.TakeWhile
import Paging.Text.Whitespace

/-!
# What trimming leaves

`trim` drops white space from two ends, one after the other.  `IsTrimOf` says what has to come out
of it without saying how: the text between two runs of white space, with no white space at its own
ends.  `isTrimOf_iff` joins the two, so there is exactly one such text.
-/

namespace Paging.Text

/-- `core` lies between white space in `cs` and has none at its own ends. -/
def IsTrimOf (core cs : List Char) : Prop :=
  ∃ l r, cs = l ++ core ++ r ∧ (∀ c ∈ l, isSpace c) ∧ (∀ c ∈ r, isSpace c) ∧
    (∀ c ∈ core.head?, ¬ isSpace c) ∧ ∀ c ∈ core.getLast?, ¬ isSpace c

theorem trimEnd_append_of_space {cs r : List Char} (hr : ∀ c ∈ r, isSpace c)
    (hcs : ∀ c ∈ cs.getLast?, ¬ isSpace c) : trimEnd (cs ++ r) = cs := by
  rw [trimEnd, List.reverse_append,
    List.dropWhile_append_of_pos (fun c hc => hr c (List.mem_reverse.mp hc))]
  cases hd : cs.reverse with
  | nil => simpa using hd
  | cons c ds =>
    have hlast : cs.getLast? = some c := by rw [← List.head?_reverse, hd]; rfl
    rw [List.dropWhile_cons_of_neg (hcs c hlast), ← hd, List.reverse_reverse]

theorem trim_append_of_space {l r core : List Char} (hl : ∀ c ∈ l, isSpace c)
    (hr : ∀ c ∈ r, isSpace c) (hhead : ∀ c ∈ core.head?, ¬ isSpace c)
    (hlast : ∀ c ∈ core.getLast?, ¬ isSpace c) : trim (l ++ core ++ r) = core := by
  rw [trim, List.append_assoc, List.dropWhile_append_of_pos hl]
  cases core with
  | nil =>
    rw [List.nil_append, List.dropWhile_eq_nil_iff.mpr hr]
    rfl
  | cons c cs =>
    rw [List.cons_append, List.dropWhile_cons_of_neg (hhead c rfl), ← List.cons_append]
    exact trimEnd_append_of_space hr hlast

/-- Some white space stands behind what `trimEnd` leaves, and what it leaves ends in none. -/
theorem trimEnd_spec (cs : List Char) :
    ∃ r, cs = trimEnd cs ++ r ∧ (∀ c ∈ r, isSpace c) ∧
      ∀ c ∈ (trimEnd cs).getLast?, ¬ isSpace c := by
  refine ⟨(cs.reverse.takeWhile isSpace).reverse, ?_, ?_, ?_⟩
  · rw [trimEnd, ← List.reverse_append, List.takeWhile_append_dropWhile, List.reverse_reverse]
  · intro c hc
    exact List.mem_takeWhile_imp (List.mem_reverse.mp hc)
  · intro c hc
    rw [trimEnd, List.getLast?_reverse] at hc
    have hnot := List.head?_dropWhile_not isSpace cs.reverse
    rw [Option.mem_def.mp hc] at hnot
    simpa using hnot

theorem isTrimOf_trim (cs : List Char) : IsTrimOf (trim cs) cs := by
  obtain ⟨r, hsplit, hr, hlast⟩ := trimEnd_spec (cs.dropWhile isSpace)
  refine ⟨cs.takeWhile isSpace, r, ?_, fun c hc => List.mem_takeWhile_imp hc, hr, ?_, hlast⟩
  · rw [trim, List.append_assoc, ← hsplit, List.takeWhile_append_dropWhile]
  · intro c hc
    have hhead : (cs.dropWhile isSpace).head? = some c := by
      rw [hsplit, List.head?_append, ← trim, Option.mem_def.mp hc]
      rfl
    have hnot := List.head?_dropWhile_not isSpace cs
    rw [hhead] at hnot
    simpa using hnot

/-- **`trim` leaves the one text that lies between the white space at both ends.** -/
theorem isTrimOf_iff {core cs : List Char} : IsTrimOf core cs ↔ trim cs = core := by
  constructor
  · rintro ⟨l, r, rfl, hl, hr, hhead, hlast⟩
    exact trim_append_of_space hl hr hhead hlast
  · rintro rfl
    exact isTrimOf_trim cs

/-- White space behind a text makes no difference. -/
theorem trim_append_of_forall_isSpace (cs : List Char) {r : List Char} (hr : ∀ c ∈ r, isSpace c) :
    trim (cs ++ r) = trim cs := by
  obtain ⟨l, r', hcs, hl, hr', hhead, hlast⟩ := isTrimOf_trim cs
  refine isTrimOf_iff.mp ⟨l, r' ++ r, ?_, hl, ?_, hhead, hlast⟩
  · rw [← List.append_assoc, ← hcs]
  · intro c hc
    rcases List.mem_append.mp hc with hc | hc
    · exact hr' c hc
    · exact hr c hc

theorem trim_trim (cs : List Char) : trim (trim cs) = trim cs := by
  obtain ⟨_, _, _, _, _, hhead, hlast⟩ := isTrimOf_trim cs
  exact isTrimOf_iff.mp ⟨[], [], by simp, by simp, by simp, hhead, hlast⟩

end Paging.Text
