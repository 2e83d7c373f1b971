import Paging.Text.Pattern.Settings

/-!
# The smallest parts of patterns

A piece is a character that stands for itself or what a backslash and the characters after it
stand for, as regex-syntax documents them.  Patterns are matched in a single pass and without tables
of characters, as by regex-automata when it is built without them.  So kinds of characters, letters
in either case and word boundaries are known for bytes only, and of bytes only those that are
characters by themselves.
-/

namespace Paging.Text.Pattern

inductive Piece
  /-- A character.  It may be given by the two digits of a byte. -/
  | literal (c : Char) (byte : Bool)
  /-- The digits, the blanks or the characters of words, or all but those. -/
  | kind (negated : Bool)
  /-- The boundary of a word, or a place that is none. -/
  | boundary
  /-- An end of the text. -/
  | edge
  deriving DecidableEq, Repr

namespace Piece

def isAscii (c : Char) : Bool := c.toNat < 0x80

/-- Whether the piece may stand in a pattern, outside of classes. -/
def fits (s : Settings) : Piece → Bool
  | literal c byte => if s.bytewise then isAscii c || !byte else !s.caseless
  | kind negated => s.bytewise && !negated
  | boundary => s.bytewise
  | edge => true

/-- Whether the piece may stand in a class. -/
def fitsClass (s : Settings) : Piece → Bool
  | literal c _ => if s.bytewise then isAscii c else !s.caseless
  | kind negated => s.bytewise && !negated
  | boundary => false
  | edge => false

/-- Whether two pieces are the ends of a range of characters. -/
def bound (s : Settings) : Piece → Piece → Bool
  | literal low b, literal high b' =>
    decide (low ≤ high) && (literal low b).fitsClass s && (literal high b').fitsClass s
  | _, _ => false

end Piece

/-! ## Escapes -/

def hexDigit? (c : Char) : Option Nat :=
  if c.isDigit then some (c.toNat - 0x30)
  else if 'a' ≤ c ∧ c ≤ 'f' then some (c.toNat - 0x57)
  else if 'A' ≤ c ∧ c ≤ 'F' then some (c.toNat - 0x37)
  else none

/-- The code point that so many digits spell after a value read before, and what follows. -/
def readDigits (s : Settings) : Nat → Nat → List Char → Option (Nat × List Char)
  | 0, value, cs => some (value, s.skip cs)
  | count + 1, value, cs =>
    match s.skip cs with
    | [] => none
    | c :: cs => (hexDigit? c).bind fun d => readDigits s count (value * 16 + d) cs

/-- The character with the code point that so many digits spell. -/
def readCode (s : Settings) (count : Nat) (byte : Bool) (cs : List Char) :
    Option (Piece × List Char) :=
  (readDigits s count 0 cs).bind fun (n, rest) =>
    if n.isValidChar then some (.literal (Char.ofNat n) byte, rest) else none

/-- What a letter after a backslash stands for, but for those that announce digits. -/
def letter? (c : Char) : Option Piece :=
  match c with
  | 'a' => some (.literal '\x07' false)
  | 'f' => some (.literal '\x0c' false)
  | 't' => some (.literal '\t' false)
  | 'n' => some (.literal '\n' false)
  | 'r' => some (.literal '\r' false)
  | 'v' => some (.literal '\x0b' false)
  | 'A' => some .edge
  | 'z' => some .edge
  | 'b' => some .boundary
  | 'B' => some .boundary
  | 'd' => some (.kind false)
  | 's' => some (.kind false)
  | 'w' => some (.kind false)
  | 'D' => some (.kind true)
  | 'S' => some (.kind true)
  | 'W' => some (.kind true)
  | _ => none

/-- The piece that follows a backslash. -/
def readEscape (s : Settings) : List Char → Option (Piece × List Char)
  | [] => none
  | 'x' :: cs => readCode s 2 true cs
  | 'u' :: cs => readCode s 4 false cs
  | 'U' :: cs => readCode s 8 false cs
  | c :: cs =>
    if c.isAlphanum then (letter? c).map (·, cs)
    else if c = '<' ∨ c = '>' then some (.boundary, cs)
    else if Piece.isAscii c then some (.literal c false, cs)
    else none

/-- The piece at the front, where no character has a meaning but the backslash. -/
def readPiece (s : Settings) : List Char → Option (Piece × List Char)
  | [] => none
  | '\\' :: cs => readEscape s cs
  | c :: cs => some (.literal c false, cs)

end Paging.Text.Pattern
