import Mathlib.Data.List.Basic
import Paging.Proofs.Text.OneLine

/-!
# Labelled lines

A reader that knows nothing of addresses and entries takes a report apart.  It splits the text at
its line feeds (`lines?`), finds what follows a label at the start of a line (`after?`), and cuts a
text where its characters cease to be of one sort (`cut`).  Each undoes one way to put texts
together.
-/

namespace Paging.Report

open Text

def ofLines (ls : List String) : String := String.join (ls.map (· ++ "\n"))

/-- The lines of a text, if each of them ends in a line feed. -/
def lines? (s : String) : Option (List String) :=
  let ls := s.toList.splitOn '\n'
  if ls.getLast? = some [] then some (ls.dropLast.map String.ofList) else none

def after? (label line : String) : Option String :=
  (label.toList.isPrefixOf? line.toList).map String.ofList

/-- The characters of one sort that a text begins with, and what follows them. -/
def cut (sort : Char → Bool) (s : String) : String × String :=
  (String.ofList (s.toList.takeWhile sort), String.ofList (s.toList.dropWhile sort))

theorem splitOn_ofLines {ls : List String} (h : ∀ l ∈ ls, IsOneLine l) :
    (ofLines ls).toList.splitOn '\n' = ls.map String.toList ++ [[]] := by
  induction ls with
  | nil => rfl
  | cons l ls ih =>
    have hl : l.toList.splitOn '\n' = [l.toList] :=
      List.splitOn_eq_singleton (h l List.mem_cons_self)
    have hlist : (ofLines (l :: ls)).toList = l.toList ++ '\n' :: (ofLines ls).toList := by
      simp [ofLines, String.toList_join]
    rw [hlist, List.splitOn_append_cons_self, hl, ih fun x hx => h x (List.mem_cons_of_mem l hx)]
    rfl

/-- **Lines without line feeds are found again.** -/
theorem lines?_ofLines {ls : List String} (h : ∀ l ∈ ls, IsOneLine l) :
    lines? (ofLines ls) = some ls := by
  unfold lines?
  simp [splitOn_ofLines h, Function.comp_def]

theorem after?_append (label rest : String) : after? label (label ++ rest) = some rest := by
  have hrest : label.toList.isPrefixOf? (label ++ rest).toList = some rest.toList :=
    List.isPrefixOf?_eq_some_iff_append_eq.mpr String.toList_append.symm
  rw [after?, hrest, Option.map_some, String.ofList_toList]

/-- A text of one sort is cut off where another character follows it, or none. -/
theorem cut_append {sort : Char → Bool} {s t : String} (hs : ∀ c ∈ s.toList, sort c = true)
    (ht : ∀ c ∈ t.toList.head?, sort c = false) : cut sort (s ++ t) = (s, t) := by
  have hstop : t.toList.takeWhile sort = [] ∧ t.toList.dropWhile sort = t.toList := by
    cases h : t.toList with
    | nil => exact ⟨rfl, rfl⟩
    | cons c cs =>
      have hc : sort c = false := ht c (by simp [h])
      simp [hc]
  unfold cut
  rw [String.toList_append, List.takeWhile_append_of_pos hs, List.dropWhile_append_of_pos hs,
    hstop.1, hstop.2, List.append_nil, String.ofList_toList, String.ofList_toList]

end Paging.Report
