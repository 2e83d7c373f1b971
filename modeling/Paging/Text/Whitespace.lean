import Paging.Text.Ranges

/-!
# White space

`isSpace` is Unicode's property White_Space, and `trim` drops such characters at both ends of a
text.
-/

namespace Paging.Text

/-- The ranges of code points with the property White_Space. -/
def spaceRanges : List (Nat × Nat) :=
  [(0x09, 0x0D), (0x20, 0x20), (0x85, 0x85), (0xA0, 0xA0), (0x1680, 0x1680), (0x2000, 0x200A),
   (0x2028, 0x2029), (0x202F, 0x202F), (0x205F, 0x205F), (0x3000, 0x3000)]

def isSpace (c : Char) : Bool := within spaceRanges c

/-- What is left of `cs` without its last characters as long as they are white space. -/
def trimEnd (cs : List Char) : List Char := (cs.reverse.dropWhile isSpace).reverse

def trim (cs : List Char) : List Char := trimEnd (cs.dropWhile isSpace)

/-- The text without white space at its ends. -/
def trimmed (s : String) : String := String.ofList (trim s.toList)

end Paging.Text
