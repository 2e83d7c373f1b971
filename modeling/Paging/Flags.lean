import Paging.Text.Numeral

/-!
# Flags of a page table entry

The low byte of an entry holds eight flags.  They are written as eight letters, the highest bit
first, with a dash for each flag that is clear.
-/

namespace Paging

inductive Flag
  | valid
  | readable
  | writable
  | executable
  | user
  | global
  | accessed
  | dirty
  deriving DecidableEq, Repr

namespace Flag

/-- All flags, from the lowest bit to the highest. -/
def all : List Flag := [valid, readable, writable, executable, user, global, accessed, dirty]

def bit : Flag → UInt8
  | valid => 0
  | readable => 1
  | writable => 2
  | executable => 3
  | user => 4
  | global => 5
  | accessed => 6
  | dirty => 7

def letter : Flag → Char
  | valid => 'V'
  | readable => 'R'
  | writable => 'W'
  | executable => 'X'
  | user => 'U'
  | global => 'G'
  | accessed => 'A'
  | dirty => 'D'

end Flag

structure Flags where
  bits : UInt8
  deriving DecidableEq, Repr

namespace Flags

def none : Flags := ⟨0⟩

/-- The flag alone. -/
def only (f : Flag) : Flags := ⟨1 <<< f.bit⟩

/-- Whether all flags of `b` are set in `a`. -/
def contains (a b : Flags) : Bool := a.bits &&& b.bits == b.bits

def has (a : Flags) (f : Flag) : Bool := a.contains (only f)

/-- The flags set in either. -/
def union (a b : Flags) : Flags := ⟨a.bits ||| b.bits⟩

/-- The letter of `f`, or a dash if it is clear. -/
def letter (a : Flags) (f : Flag) : Char := if a.has f then f.letter else '-'

/-- The eight letters, the highest bit first. -/
def text (a : Flags) : String := String.ofList (Flag.all.reverse.map a.letter)

end Flags

end Paging
