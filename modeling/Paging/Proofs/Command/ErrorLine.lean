import Mathlib.Data.List.TakeWhile
import Paging.Command.Run
import Paging.Proofs.Text.OneLine

/-!
# The line that tells of an error

It stands among the lines of the log and is known by its beginning alone.  A record that is told in
one line has no later line that could be taken for it, so where all records are of that kind it is
the line that the command itself tells (`errorLine?_of_isOneLine`).
-/

namespace Paging.Log

open Text

/-! ### Records in one line -/

theorem Record.isOneLine_line {r : Record} (hm : IsOneLine r.message)
    (hf : ∀ f ∈ r.fields, IsOneLine f.1 ∧ IsOneLine f.2) : IsOneLine r.line := by
  have hlevel : IsOneLine r.level.name := by cases r.level <;> decide
  have horigin : IsOneLine r.origin.shown := by cases r.origin <;> decide
  have hparts : ∀ s ∈ r.message :: r.fields.map fun f => f.1 ++ "=" ++ f.2, IsOneLine s := by
    intro s hs
    rcases List.mem_cons.mp hs with rfl | hs
    · exact hm
    · obtain ⟨f, hmem, rfl⟩ := List.mem_map.mp hs
      obtain ⟨hname, hvalue⟩ := hf f hmem
      exact (hname.append (by decide)).append hvalue
  have hhead : IsOneLine (r.level.name ++ " " ++ r.origin.shown ++ ": ") :=
    ((hlevel.append (by decide)).append horigin).append (by decide)
  exact hhead.append (isOneLine_intercalate (by decide) hparts)

theorem isOneLine_starting (s : Strictness) : IsOneLine (starting s).line := by
  cases s <;> decide

theorem isOneLine_checking (a : Address) : IsOneLine (checking a).line := by
  refine Record.isOneLine_line ?_ (by simp [checking])
  exact (IsOneLine.append (by decide) (isOneLine_hexLower _)).append (by decide)

theorem isOneLine_of_mem_ofCheck (a : Address) : ∀ r ∈ ofCheck a, IsOneLine r.line := by
  intro r hr
  rw [ofCheck] at hr
  split at hr
  · rw [List.mem_singleton.mp hr]
    exact isOneLine_checking a
  · exact absurd hr List.not_mem_nil

theorem isOneLine_of_mem_lines {f : Filter} {rs : List Record} (h : ∀ r ∈ rs, IsOneLine r.line) :
    ∀ line ∈ Filter.lines f rs, IsOneLine line := by
  intro line hline
  obtain ⟨r, hr, rfl⟩ := List.mem_map.mp hline
  exact h r (List.mem_filter.mp hr).1

end Paging.Log

namespace Paging.Command

open Text

/-! ### First and later lines -/

theorem firstLine_of_isOneLine {s : String} (h : IsOneLine s) : firstLine s = s := by
  have hall : ∀ c ∈ s.toList, decide (c ≠ '\n') = true := by
    intro c hc
    exact decide_eq_true fun he => h (he ▸ hc)
  rw [firstLine, List.takeWhile_eq_self_iff.mpr hall, String.ofList_toList]

theorem laterLines_of_isOneLine {s : String} (h : IsOneLine s) : laterLines s = [] := by
  rw [laterLines, List.splitOn_eq_singleton h]
  rfl

/-- **No record in one line is taken for an error.** -/
theorem errorLine?_of_isOneLine {o : Outcome} (h : ∀ line ∈ o.log, IsOneLine line) :
    o.errorLine? = o.error.filter Outcome.readsAsError := by
  have hlater : o.log.flatMap laterLines = [] := by
    rw [List.flatMap_eq_nil_iff]
    intro line hline
    exact laterLines_of_isOneLine (h line hline)
  rw [Outcome.errorLine?, hlater, List.nil_append]
  cases o.error with
  | none => rfl
  | some line =>
    rw [Option.toList_some, List.find?_singleton]
    rfl

theorem readsAsError_append {head : String} (hhead : head = "error: " ∨ head = "Error: ")
    (m : String) : Outcome.readsAsError (head ++ m) = true := by
  rw [Outcome.readsAsError, Bool.or_eq_true, List.isPrefixOf_iff_prefix,
    List.isPrefixOf_iff_prefix, String.toList_append]
  rcases hhead with rfl | rfl
  · exact Or.inl (List.prefix_append _ _)
  · exact Or.inr (List.prefix_append _ _)

/-- An error that is told in one line is told as it is. -/
theorem errorLine?_eq_some {o : Outcome} (hlog : ∀ line ∈ o.log, IsOneLine line)
    {head m : String} (hhead : head = "error: " ∨ head = "Error: ") (hm : IsOneLine m)
    (herror : o.error = some (firstLine (head ++ m))) : o.errorLine? = some (head ++ m) := by
  have hline : IsOneLine (head ++ m) := by
    refine IsOneLine.append ?_ hm
    rcases hhead with rfl | rfl <;> decide
  rw [errorLine?_of_isOneLine hlog, herror, firstLine_of_isOneLine hline, Option.filter_some,
    if_pos (readsAsError_append hhead m)]

end Paging.Command
