/-!
# Positions in bytes

A position in a text counts the bytes of its encoding from the start.  `split?` divides a text at a
position, unless that lies inside a character, and `part?` takes what is between two positions.
-/

namespace Paging.Text

/-- The length of a text in bytes. -/
def byteLength : List Char → Nat
  | [] => 0
  | c :: cs => c.utf8Size + byteLength cs

def split? : Nat → List Char → Option (List Char × List Char)
  | 0, cs => some ([], cs)
  | _ + 1, [] => none
  | n + 1, c :: cs =>
    if c.utf8Size ≤ n + 1 then (split? (n + 1 - c.utf8Size) cs).map fun (a, b) => (c :: a, b)
    else none

def part? (start stop : Nat) (cs : List Char) : Option (List Char) :=
  (split? stop cs).bind fun (front, _) => (split? start front).map Prod.snd

theorem split?_byteLength (a b : List Char) : split? (byteLength a) (a ++ b) = some (a, b) := by
  induction a with
  | nil => simp [byteLength, split?]
  | cons c a ih =>
    have hpos : 0 < c.utf8Size := c.utf8Size_pos
    have hlen : byteLength (c :: a) = c.utf8Size + byteLength a := rfl
    obtain ⟨n, hn⟩ : ∃ n, byteLength (c :: a) = n + 1 := ⟨byteLength (c :: a) - 1, by omega⟩
    have hrest : n + 1 - c.utf8Size = byteLength a := by omega
    have hle : c.utf8Size ≤ n + 1 := by omega
    simp [hn, split?, hrest, hle, ih]

end Paging.Text
