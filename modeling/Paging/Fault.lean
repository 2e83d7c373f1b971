import Paging.Text.Quoted

/-!
# Why a number or an address is refused
-/

namespace Paging

inductive Fault
  /-- A number without any digit. -/
  | noDigits
  /-- A character that is no hexadecimal digit, or a separator in the wrong place. -/
  | badDigit (c : Char)
  /-- A number of more than 64 bits. -/
  | tooLarge
  /-- An address whose upper bits do not copy bit 38. -/
  | nonCanonical
  deriving DecidableEq, Repr

def Fault.message : Fault → String
  | noDigits => "no hexadecimal digits given"
  | badDigit c => "invalid hexadecimal digit " ++ Text.quotedChar c
  | tooLarge => "value exceeds 64-bit range"
  | nonCanonical => "non-canonical Sv39 address"

end Paging
