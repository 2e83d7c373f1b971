import Paging.Fault

/-!
# Virtual addresses of Sv39

An address has 39 bits that count: three indices of nine bits, one for each level of the page
table walk, and an offset of twelve bits inside the page.

    63        39 38      30 29      21 20      12 11          0
    [ copies of 38 | VPN[2] |  VPN[1]  |  VPN[0]  | page offset ]

The bits above must copy bit 38.  An address of which they do is canonical; `Address.check` asks
for it in both halves or in the upper half alone.
-/

namespace Paging

/-! ## Layout -/

namespace Address

def indexBits : UInt64 := 9
def indexMask : UInt64 := (1 <<< indexBits) - 1
def offsetBits : UInt64 := 12
def offsetMask : UInt64 := (1 <<< offsetBits) - 1

def index0Shift : UInt64 := offsetBits
def index1Shift : UInt64 := index0Shift + indexBits
def index2Shift : UInt64 := index1Shift + indexBits

/-- How many bits of an address count. -/
def usedBits : UInt64 := index2Shift + indexBits
def usedMask : UInt64 := (1 <<< usedBits) - 1

/-- The highest bit that counts, which the bits above it copy. -/
def signShift : UInt64 := usedBits - 1

/-- Bit 38 and all bits above it. -/
def upperHalf : UInt64 := 0xFFFFFFC000000000

end Address

/-! ## Indices and offset -/

/-- The indices of the three levels and the offset in the page.  A field may hold more than its
part of an address. -/
structure PageIndices where
  vpn2 : UInt16
  vpn1 : UInt16
  vpn0 : UInt16
  offset : UInt16
  deriving DecidableEq, Repr

structure Address where
  bits : UInt64
  deriving DecidableEq, Repr

instance : Ord Address := ⟨fun a b => compare a.bits b.bits⟩

namespace PageIndices

/-- The low 39 bits of an address with these indices.  Bits that do not fit a field are left out. -/
def lowBits (v : PageIndices) : UInt64 :=
  ((v.vpn2.toUInt64 &&& Address.indexMask) <<< Address.index2Shift)
    ||| ((v.vpn1.toUInt64 &&& Address.indexMask) <<< Address.index1Shift)
    ||| ((v.vpn0.toUInt64 &&& Address.indexMask) <<< Address.index0Shift)
    ||| (v.offset.toUInt64 &&& Address.offsetMask)

/-- The canonical address with these indices. -/
def toAddress (v : PageIndices) : Address :=
  if (v.lowBits >>> Address.signShift) &&& 1 = 1 then ⟨v.lowBits ||| Address.upperHalf⟩
  else ⟨v.lowBits⟩

end PageIndices

/-! ## Addresses -/

/-- How far the bits above bit 38 are checked. -/
inductive Strictness
  /-- Only when bit 38 is set. -/
  | oneSided
  /-- Always. -/
  | strict
  deriving DecidableEq, Repr

instance : Inhabited Strictness := ⟨.oneSided⟩

namespace Address

def signBit (a : Address) : Bool := (a.bits >>> signShift) &&& 1 == 1

/-- Whether the bits above bit 38 copy it. -/
def isCanonical (a : Address) : Bool :=
  let high := a.bits >>> signShift
  high == 0 || high == upperHalf >>> signShift

def check (s : Strictness) (a : Address) : Except Fault Unit :=
  if a.signBit then
    if a.bits >>> signShift = upperHalf >>> signShift then .ok () else .error .nonCanonical
  else if s = .strict ∧ a.bits >>> signShift ≠ 0 then .error .nonCanonical
  else .ok ()

/-- The indices and the offset, whatever the upper bits are. -/
def indices (a : Address) : PageIndices where
  vpn2 := ((a.bits >>> index2Shift) &&& indexMask).toUInt16
  vpn1 := ((a.bits >>> index1Shift) &&& indexMask).toUInt16
  vpn0 := ((a.bits >>> index0Shift) &&& indexMask).toUInt16
  offset := (a.bits &&& offsetMask).toUInt16

/-- The indices and the offset of an address that passes the check. -/
def split (s : Strictness) (a : Address) : Except Fault PageIndices :=
  (a.check s).map fun _ => a.indices

end Address

end Paging
