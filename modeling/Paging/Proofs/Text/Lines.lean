import Mathlib.Data.List.Basic
import Paging.Text.Lines

/-!
# The lines of some bytes

`lines` goes byte by byte.  `SplitsInto` says line by line what it has to come to, as a reader does
that takes everything through the next line feed, or to the end where there is none.
`splitsInto_iff` joins the two, and `lines_flatten_append` is what lets one input follow another.
-/

namespace Paging.Text

def IsFullLine (l : List UInt8) : Prop := ∃ bs, l = bs ++ [0x0A] ∧ 0x0A ∉ bs

def IsOpenLine (l : List UInt8) : Prop := l ≠ [] ∧ 0x0A ∉ l

/-- Bytes and their lines: one through each line feed, and one more where bytes follow the last. -/
inductive SplitsInto : List UInt8 → List (List UInt8) → Prop
  | nil : SplitsInto [] []
  | rest {l : List UInt8} (h : IsOpenLine l) : SplitsInto l [l]
  | cons {l bs : List UInt8} {ls : List (List UInt8)} (h : IsFullLine l) (hs : SplitsInto bs ls) :
      SplitsInto (l ++ bs) (l :: ls)

theorem IsOpenLine.cons {b : UInt8} {l : List UInt8} (hb : b ≠ 0x0A) (h : 0x0A ∉ l) :
    IsOpenLine (b :: l) :=
  ⟨List.cons_ne_nil b l, List.not_mem_cons_of_ne_of_not_mem hb.symm h⟩

theorem IsFullLine.cons {b : UInt8} {l : List UInt8} (hb : b ≠ 0x0A) (h : IsFullLine l) :
    IsFullLine (b :: l) := by
  obtain ⟨bs, rfl, hbs⟩ := h
  exact ⟨b :: bs, rfl, List.not_mem_cons_of_ne_of_not_mem hb.symm hbs⟩

theorem lines_of_isOpenLine {l : List UInt8} (h : IsOpenLine l) : lines l = [l] := by
  induction l with
  | nil => exact absurd rfl h.1
  | cons b l ih =>
    have hb : b ≠ 0x0A := fun he => h.2 (he ▸ List.mem_cons_self)
    rw [lines, if_neg hb]
    cases l with
    | nil => rfl
    | cons c cs =>
      rw [ih ⟨List.cons_ne_nil c cs, fun hm => h.2 (List.mem_cons_of_mem b hm)⟩]

theorem lines_append {l : List UInt8} (h : IsFullLine l) (bs : List UInt8) :
    lines (l ++ bs) = l :: lines bs := by
  obtain ⟨cs, rfl, hcs⟩ := h
  induction cs with
  | nil => rw [List.nil_append, List.singleton_append, lines, if_pos rfl]
  | cons c cs ih =>
    have hc : c ≠ 0x0A := fun he => hcs (he ▸ List.mem_cons_self)
    rw [List.cons_append, List.cons_append, lines, if_neg hc,
      ih (fun hm => hcs (List.mem_cons_of_mem c hm))]

/-- **The lines of full lines followed by something are these and the lines of what follows.** -/
theorem lines_flatten_append {ls : List (List UInt8)} (h : ∀ l ∈ ls, IsFullLine l)
    (bs : List UInt8) : lines (ls.flatten ++ bs) = ls ++ lines bs := by
  induction ls with
  | nil => rfl
  | cons l ls ih =>
    rw [List.flatten_cons, List.append_assoc, lines_append (h l List.mem_cons_self),
      ih (fun x hx => h x (List.mem_cons_of_mem l hx)), List.cons_append]

theorem splitsInto_lines (bs : List UInt8) : SplitsInto bs (lines bs) := by
  induction bs with
  | nil => exact .nil
  | cons b bs ih =>
    by_cases hb : b = 0x0A
    · rw [lines, if_pos hb]
      exact .cons (l := [b]) ⟨[], by rw [hb]; rfl, by simp⟩ ih
    · rw [lines, if_neg hb]
      generalize lines bs = ls at ih ⊢
      cases ih with
      | nil => exact .rest (.cons hb (by simp))
      | rest h => exact .rest (.cons hb h.2)
      | cons h hs => exact .cons (h.cons hb) hs

/-- Every line has a byte at least. -/
theorem SplitsInto.ne_nil {bs l : List UInt8} {ls : List (List UInt8)} (h : SplitsInto bs ls)
    (hl : l ∈ ls) : l ≠ [] := by
  induction h with
  | nil => cases hl
  | rest hopen =>
    rw [List.mem_singleton.mp hl]
    exact hopen.1
  | cons hfull hs ih =>
    rcases List.mem_cons.mp hl with rfl | hl
    · obtain ⟨cs, rfl, _⟩ := hfull
      exact List.append_ne_nil_of_right_ne_nil _ (List.cons_ne_nil _ _)
    · exact ih hl

/-- **`lines` finds the lines**, and there is no other way to split the bytes into lines. -/
theorem splitsInto_iff {bs : List UInt8} {ls : List (List UInt8)} :
    SplitsInto bs ls ↔ lines bs = ls := by
  constructor
  · intro h
    induction h with
    | nil => rfl
    | rest h => exact lines_of_isOpenLine h
    | cons h hs ih => rw [lines_append h, ih]
  · rintro rfl
    exact splitsInto_lines bs

end Paging.Text
