import Mathlib.Data.Nat.ModEq
import Paging.Proofs.Address.Gap

/-!
# The order of addresses

Addresses are compared as 64-bit numbers, which puts the upper half of the address space behind the
hole and the lower half before it.  The page walk compares level by level (`walkOrder`).  On
canonical addresses the two are the same: fields that fit are the digits of the low bits
(`Fits.compare_lowBits`), and copying bit 38 upwards keeps the order of the low bits
(`compare_toAddress`).
-/

namespace Paging

namespace PageIndices

/-- The order of the page walk: the index of the highest level counts first, the offset last. -/
def walkOrder : PageIndices → PageIndices → Ordering :=
  compareLex (compareOn vpn2) <| compareLex (compareOn vpn1) <|
    compareLex (compareOn vpn0) (compareOn offset)

theorem walkOrder_eq (v w : PageIndices) : v.walkOrder w =
    (compare v.vpn2.toNat w.vpn2.toNat).then ((compare v.vpn1.toNat w.vpn1.toNat).then
      ((compare v.vpn0.toNat w.vpn0.toNat).then (compare v.offset.toNat w.offset.toNat))) := by
  rw [walkOrder, compareLex, compareLex, compareLex, compareOn, compareOn, compareOn, compareOn,
    Word.compare_uint16, Word.compare_uint16, Word.compare_uint16, Word.compare_uint16]

variable {v w : PageIndices}

/-- **Fields that fit are digits**: their sum is compared level by level. -/
theorem Fits.compare_lowBits (hv : v.Fits) (hw : w.Fits) :
    compare v.lowBits.toNat w.lowBits.toNat = v.walkOrder w := by
  have hdigits {u : PageIndices} (hu : u.Fits) : u.lowBits.toNat =
      u.vpn2.toNat * 2 ^ 30 +
        (u.vpn1.toNat * 2 ^ 21 + (u.vpn0.toNat * 2 ^ 12 + u.offset.toNat)) := by
    rw [hu.toNat_lowBits, Nat.add_assoc, Nat.add_assoc]
  have ⟨_, hv1, hv0, hvo⟩ := hv
  have ⟨_, hw1, hw0, hwo⟩ := hw
  -- From the top down, what stands behind a digit is less than one unit of it.
  rw [hdigits hv, hdigits hw, walkOrder_eq, Word.compare_mul_add (by omega) (by omega),
    Word.compare_mul_add (by omega) (by omega), Word.compare_mul_add (by omega) (by omega)]

/-- **Copying bit 38 upwards keeps the order.** -/
theorem compare_toAddress (v w : PageIndices) :
    compare v.toAddress w.toAddress = compare v.lowBits.toNat w.lowBits.toNat := by
  have hv := v.toNat_lowBits_lt
  have hw := w.toNat_lowBits_lt
  show compare v.toAddress.bits w.toAddress.bits = _
  rw [Word.compare_uint64, toNat_toAddress, toNat_toAddress]
  -- Each half keeps its order, and all of the upper half comes to lie above the lower one.
  apply Word.compare_congr
  · split_ifs <;> omega
  · split_ifs <;> omega

theorem Fits.compare_toAddress (hv : v.Fits) (hw : w.Fits) :
    compare v.toAddress w.toAddress = v.walkOrder w := by
  rw [PageIndices.compare_toAddress, hv.compare_lowBits hw]

end PageIndices

namespace Address

variable {a b : Address}

theorem compare_eq_lt_iff : compare a b = .lt ↔ a.bits < b.bits := by
  show compare a.bits b.bits = .lt ↔ _
  rw [Word.compare_uint64, Nat.compare_eq_lt, UInt64.lt_iff_toNat_lt]

theorem toAddress_indices (h : a.isCanonical = true) : a.indices.toAddress = a :=
  a.toAddress_indices_iff.mpr (a.isCanonical_iff.mp h)

/-- **The fields are those of the low 39 bits**, no more and no less. -/
theorem indices_eq_iff : a.indices = b.indices ↔ a.bits.toNat ≡ b.bits.toNat [MOD 2 ^ 39] := by
  constructor
  · intro h
    rw [Nat.ModEq, ← toNat_lowBits_indices, h, toNat_lowBits_indices]
  · intro h
    have hlow : a.low = b.low := by rw [low, h, low]
    rw [← indices_low, hlow, indices_low]

end Address

/-- **The order of addresses is the order of the page walk.**  Canonical addresses are compared as
their fields are, level by level, and building an address from fields that fit is strictly
increasing.  Of addresses that need not be canonical, those have the same fields that have the same
low 39 bits. -/
theorem order_of_page_walk :
    (∀ a b : Address, a.isCanonical = true → b.isCanonical = true →
      compare a b = a.indices.walkOrder b.indices) ∧
    (∀ v w : PageIndices, v.Fits → w.Fits →
      compare v.toAddress w.toAddress = v.walkOrder w ∧
      (v.walkOrder w = .lt → v.toAddress.bits < w.toAddress.bits)) ∧
    ∀ a b : Address, a.indices = b.indices ↔ a.bits.toNat ≡ b.bits.toNat [MOD 2 ^ 39] := by
  refine ⟨?_, ?_, fun a b => Address.indices_eq_iff⟩
  · intro a b ha hb
    have horder := a.fits_indices.compare_toAddress b.fits_indices
    rwa [Address.toAddress_indices ha, Address.toAddress_indices hb] at horder
  · intro v w hv hw
    have horder := hv.compare_toAddress hw
    refine ⟨horder, ?_⟩
    intro hlt
    rw [← Address.compare_eq_lt_iff, horder, hlt]

/-- The last address before the hole and the first behind it. -/
theorem order_across_hole :
    let below : Address := ⟨0x3FFFFFFFFF⟩
    let above : Address := ⟨0xFFFFFFC000000000⟩
    (below.isCanonical = true ∧ above.isCanonical = true ∧ compare below above = .lt) ∧
    (below.indices.Fits ∧ above.indices.Fits ∧ below.indices.walkOrder above.indices = .lt ∧
      below.indices.toAddress.bits < above.indices.toAddress.bits) ∧
    (below.indices = (⟨0x803FFFFFFFFF⟩ : Address).indices) := by
  have hbelow : (Address.mk 0x3FFFFFFFFF).isCanonical = true := by decide
  have habove : (Address.mk 0xFFFFFFC000000000).isCanonical = true := by decide
  have hlt : (Address.mk 0x3FFFFFFFFF).indices.walkOrder
      (Address.mk 0xFFFFFFC000000000).indices = .lt := by decide
  have hfits := Address.fits_indices
  obtain ⟨hcompare, hbuild, hsame⟩ := order_of_page_walk
  exact ⟨⟨hbelow, habove, (hcompare _ _ hbelow habove).trans hlt⟩,
    ⟨hfits _, hfits _, hlt, (hbuild _ _ (hfits _) (hfits _)).2 hlt⟩,
    (hsame _ _).mpr (by decide)⟩

end Paging
