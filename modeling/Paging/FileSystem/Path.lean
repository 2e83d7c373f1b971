import Paging.FileSystem.Basic

/-!
# Paths

A path is written with slashes between its parts.  It starts at the root if it begins with a slash,
and names a directory if it ends in one.  The empty text is no path.
-/

namespace Paging

inductive PathPart
  | name (n : FileName)
  /-- The directory itself, written as one dot. -/
  | here
  /-- The directory above, written as two dots. -/
  | up
  /-- The slash at the end. -/
  | slash
  deriving DecidableEq, Repr

structure Path where
  absolute : Bool
  parts : List PathPart
  deriving DecidableEq, Repr

namespace Path

def slashByte : UInt8 := 0x2F
def dotByte : UInt8 := 0x2E

def part (bytes : List UInt8) : PathPart :=
  if bytes = [dotByte] then .here
  else if bytes = [dotByte, dotByte] then .up
  else .name bytes

/-- The path that some bytes spell.  Slashes side by side count as one. -/
def parse? (bytes : List UInt8) : Option Path :=
  if bytes = [] then none
  else
    let parts := ((bytes.splitOn slashByte).filter (· ≠ [])).map part
    let atEnd := if parts ≠ [] ∧ bytes.getLast? = some slashByte then [.slash] else []
    some ⟨bytes.head? == some slashByte, parts ++ atEnd⟩

/-- Where the path starts when it is met in a directory. -/
def start (p : Path) (directory : Location) : Location := if p.absolute then [] else directory

end Path

end Paging
