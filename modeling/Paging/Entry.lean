import Paging.Address
import Paging.Flags

/-!
# Page table entries of Sv39

    63      54 53                                10 9   8 7 6 5 4 3 2 1 0
    [ reserved |            page number             | RSW |D|A|G|U|X|W|R|V]

Every pattern of 64 bits can be taken apart.  The physical address keeps those reserved bits that
still fit above the page number, while an entry that is built from an address has none.
-/

namespace Paging

/-! ## Layout -/

namespace Entry

def flagBits : UInt64 := 8
def flagMask : UInt64 := (1 <<< flagBits) - 1
def softwareShift : UInt64 := flagBits
def softwareBits : UInt64 := 2
def softwareMask : UInt64 := (1 <<< softwareBits) - 1
def pageShift : UInt64 := softwareShift + softwareBits
def pageBits : UInt64 := 44
def pageMask : UInt64 := (1 <<< pageBits) - 1
def reservedShift : UInt64 := pageShift + pageBits
def reservedBits : UInt64 := 10

end Entry

/-! ## Entries -/

structure Entry where
  bits : UInt64
  deriving DecidableEq, Repr

/-- Where an entry points and with which flags. -/
structure Mapping where
  physical : UInt64
  flags : Flags
  deriving DecidableEq, Repr

inductive EntryKind
  | notValid
  /-- A valid entry that may be read, written or executed. -/
  | leaf
  /-- A valid entry that points at the table of the next level. -/
  | branch
  deriving DecidableEq, Repr

namespace Entry

/-- An entry for the page in which the physical address lies. -/
def ofPhysical (physical : UInt64) (flags : Flags) : Entry :=
  ⟨(((physical >>> Address.offsetBits) &&& pageMask) <<< pageShift) ||| flags.bits.toUInt64⟩

def flags (e : Entry) : Flags := ⟨(e.bits &&& flagMask).toUInt8⟩

/-- The two bits left to software. -/
def software (e : Entry) : UInt8 := ((e.bits >>> softwareShift) &&& softwareMask).toUInt8

def pageNumber (e : Entry) : UInt64 := (e.bits >>> pageShift) &&& pageMask

def reserved (e : Entry) : UInt16 := (e.bits >>> reservedShift).toUInt16

/-- All bits above the software bits, moved up to the start of a page. -/
def physical (e : Entry) : UInt64 := (e.bits >>> pageShift) <<< Address.offsetBits

def decode (e : Entry) : Mapping := ⟨e.physical, e.flags⟩

def kind (e : Entry) : EntryKind :=
  if !e.flags.has .valid then .notValid
  else if e.flags.has .readable || e.flags.has .writable || e.flags.has .executable then .leaf
  else .branch

end Entry

end Paging
