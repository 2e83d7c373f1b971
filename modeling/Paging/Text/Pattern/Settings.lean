import Paging.Text.Whitespace

/-!
# Settings of patterns

Letters in a pattern change how what follows is read, as regex-syntax documents it.  Three of them
matter for whether it can be read at all: `i` makes case not matter, `x` makes blanks and comments
stand for nothing, and without `u` it is bytes that are matched and not characters.
-/

namespace Paging.Text.Pattern

structure Settings where
  /-- Whether case does not matter. -/
  caseless : Bool
  /-- Whether blanks, and comments from a number sign to the end of the line, stand for nothing. -/
  spaced : Bool
  /-- Whether bytes are matched. -/
  bytewise : Bool
  deriving DecidableEq, Repr

namespace Settings

def standard : Settings := ⟨false, false, false⟩

/-! ## Letters -/

/-- Whether `letters` are settings: each at most once, and a hyphen perhaps, after which something
follows. -/
def areLetters (letters : List Char) : Bool :=
  letters.all (['i', 'm', 's', 'U', 'u', 'R', 'x', '-'].contains ·)
    && decide letters.Nodup && letters.getLast? != some '-'

/-- The settings after letters of which those behind the hyphen are taken away. -/
def change (s : Settings) (letters : List Char) : Settings :=
  let given := letters.takeWhile (· ≠ '-')
  let taken := letters.dropWhile (· ≠ '-')
  let holds (letter : Char) (before : Bool) : Bool :=
    given.contains letter || (before && !taken.contains letter)
  ⟨holds 'i' s.caseless, holds 'x' s.spaced, !holds 'u' !s.bytewise⟩

/-! ## Blanks -/

/-- What is left without the blanks and comments in front.  A comment may have begun before. -/
def skipBlanks : Bool → List Char → List Char
  | _, [] => []
  | true, c :: cs => skipBlanks (c ≠ '\n') cs
  | false, c :: cs =>
    if isSpace c then skipBlanks false cs
    else if c = '#' then skipBlanks true cs
    else c :: cs

def skip (s : Settings) (cs : List Char) : List Char := if s.spaced then skipBlanks false cs else cs

/-- The next character, for looking ahead.  Where blanks stand for nothing, they and one number
sign are passed over, unless nothing else follows. -/
def ahead (s : Settings) (cs : List Char) : Option Char :=
  let afterSign : List Char → List Char
    | '#' :: r => r.dropWhile isSpace
    | r => r
  if s.spaced then (afterSign (cs.dropWhile isSpace)).head?.or cs.head? else cs.head?

end Settings

end Paging.Text.Pattern
