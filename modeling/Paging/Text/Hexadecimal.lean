import Paging.Fault
import Paging.Text.Whitespace

/-!
# Hexadecimal numbers as people write them

A number may have white space around it, one mark `0x` or `0X` in front, digits in either case
and single underscores between digits.  `parseHex` reads such a text digit by digit into 64 bits.
Of several faults a misplaced underscore is told first, then the first character that is no digit,
then that there are no digits, and last that the number is too large.
-/

namespace Paging.Text

/-- What follows one mark `0x` or `0X`, or everything if there is none. -/
def dropMark : List Char → List Char
  | '0' :: 'x' :: cs => cs
  | '0' :: 'X' :: cs => cs
  | cs => cs

/-- Whether two underscores stand side by side. -/
def hasDoubleUnderscore : List Char → Bool
  | '_' :: '_' :: _ => true
  | _ :: cs => hasDoubleUnderscore cs
  | [] => false

/-- Whether some underscore is not between two other characters that are none. -/
def misplacedUnderscore (cs : List Char) : Bool :=
  cs.head? == some '_' || cs.getLast? == some '_' || hasDoubleUnderscore cs

/-- The value of an ASCII hexadecimal digit. -/
def hexDigit? (c : Char) : Option Nat :=
  if '0' ≤ c ∧ c ≤ '9' then some (c.toNat - 0x30)
  else if 'a' ≤ c ∧ c ≤ 'f' then some (c.toNat - 0x57)
  else if 'A' ≤ c ∧ c ≤ 'F' then some (c.toNat - 0x37)
  else none

/-! ## Arithmetic that tells of overflow -/

/-- The product, unless it has more than 64 bits. -/
def checkedMul (a b : UInt64) : Option UInt64 :=
  if a.toNat * b.toNat < UInt64.size then some (a * b) else none

/-- The sum, unless it has more than 64 bits. -/
def checkedAdd (a b : UInt64) : Option UInt64 :=
  if a.toNat + b.toNat < UInt64.size then some (a + b) else none

/-! ## Reading digits -/

/-- What has been read of a number so far. -/
structure Tally where
  /-- The number, for as long as every digit fitted. -/
  value : UInt64
  /-- Whether there was a digit. -/
  seen : Bool
  /-- Whether there was a digit that did not fit. -/
  full : Bool
  deriving DecidableEq, Repr

namespace Tally

def start : Tally := ⟨0, false, false⟩

/-- One more digit.  One that does not fit leaves the value as it is. -/
def push (t : Tally) (d : Nat) : Tally :=
  match (checkedMul t.value 16).bind (checkedAdd · (UInt64.ofNat d)) with
  | some v => ⟨v, true, t.full⟩
  | none => ⟨t.value, true, true⟩

/-- Goes on to the end after a digit that does not fit, but not after a character that is no
digit. -/
def read (t : Tally) : List Char → Except Fault Tally
  | [] => .ok t
  | c :: cs =>
    match hexDigit? c with
    | none => .error (.badDigit c)
    | some d => (t.push d).read cs

def result (t : Tally) : Except Fault UInt64 :=
  match t.seen, t.full with
  | false, _ => .error .noDigits
  | true, true => .error .tooLarge
  | true, false => .ok t.value

end Tally

/-- Reads what is left of a number without the white space and the mark. -/
def parseDigits (cs : List Char) : Except Fault UInt64 :=
  if misplacedUnderscore cs then .error (.badDigit '_')
  else (Tally.start.read (cs.filter (· ≠ '_'))).bind Tally.result

def parseHex (text : String) : Except Fault UInt64 :=
  parseDigits (dropMark (trim text.toList))

end Paging.Text
