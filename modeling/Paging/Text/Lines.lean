/-!
# Lines of bytes

A line reaches through its line feed, or to the end of the bytes.  The lines of some bytes, put
one after the other, are those bytes.
-/

namespace Paging.Text

def lines : List UInt8 → List (List UInt8)
  | [] => []
  | b :: bs =>
    if b = 0x0A then [b] :: lines bs
    else
      match lines bs with
      | [] => [[b]]
      | l :: ls => (b :: l) :: ls

theorem flatten_lines (bs : List UInt8) : (lines bs).flatten = bs := by
  induction bs with
  | nil => rfl
  | cons b bs ih =>
    by_cases h : b = 0x0A
    · simp [lines, h, ih]
    · simp only [lines, h, if_false]
      split
      · next hl =>
        rw [hl] at ih
        simp [← ih]
      · next l ls hl =>
        rw [hl] at ih
        simp [← ih]

end Paging.Text
