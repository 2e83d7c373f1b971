import Paging.Address
import Paging.Proofs.Word

/-!
# Addresses as numbers

What the shifts and masks of an address come to in numbers: an index is a quotient and a remainder,
`lowBits` is a sum, and `toAddress` adds the upper half where the sum has bit 38.
-/

namespace Paging

/-! ### Fields that an address has -/

namespace PageIndices

structure Fits (v : PageIndices) : Prop where
  vpn2 : v.vpn2.toNat < 512
  vpn1 : v.vpn1.toNat < 512
  vpn0 : v.vpn0.toNat < 512
  offset : v.offset.toNat < 4096

instance (v : PageIndices) : Decidable v.Fits :=
  decidable_of_iff
    (v.vpn2.toNat < 512 ∧ v.vpn1.toNat < 512 ∧ v.vpn0.toNat < 512 ∧ v.offset.toNat < 4096)
    ⟨fun ⟨h2, h1, h0, ho⟩ => ⟨h2, h1, h0, ho⟩, fun h => ⟨h.vpn2, h.vpn1, h.vpn0, h.offset⟩⟩

theorem ext_toNat {v w : PageIndices} (h2 : v.vpn2.toNat = w.vpn2.toNat)
    (h1 : v.vpn1.toNat = w.vpn1.toNat) (h0 : v.vpn0.toNat = w.vpn0.toNat)
    (ho : v.offset.toNat = w.offset.toNat) : v = w := by
  obtain ⟨a, b, c, d⟩ := v
  obtain ⟨a', b', c', d'⟩ := w
  simp only [UInt16.toNat_inj] at h2 h1 h0 ho
  rw [h2, h1, h0, ho]

end PageIndices

namespace Address

theorem toNat_inj {a b : Address} : a.bits.toNat = b.bits.toNat ↔ a = b := by
  obtain ⟨x⟩ := a
  obtain ⟨y⟩ := b
  rw [UInt64.toNat_inj, Address.mk.injEq]

/-- A field of an address as its own word of 16 bits. -/
theorem toNat_toUInt16_field (x : UInt64) {shift mask : UInt64} {k w : Nat}
    (hs : shift.toNat = k) (hm : mask.toNat = 2 ^ w - 1) (hk : k < 64) (hw : w ≤ 16) :
    ((x >>> shift) &&& mask).toUInt16.toNat = x.toNat / 2 ^ k % 2 ^ w := by
  have hlt : x.toNat / 2 ^ k % 2 ^ w < 2 ^ 16 :=
    (Nat.mod_lt _ (Nat.two_pow_pos w)).trans_le (Nat.pow_le_pow_right (by decide) hw)
  rw [UInt64.toNat_toUInt16, Word.toNat_field x hs hm hk, Nat.mod_eq_of_lt hlt]

section

variable (a : Address)

theorem toNat_vpn2 : a.indices.vpn2.toNat = a.bits.toNat / 2 ^ 30 % 2 ^ 9 :=
  toNat_toUInt16_field a.bits rfl rfl (by decide) (by decide)

theorem toNat_vpn1 : a.indices.vpn1.toNat = a.bits.toNat / 2 ^ 21 % 2 ^ 9 :=
  toNat_toUInt16_field a.bits rfl rfl (by decide) (by decide)

theorem toNat_vpn0 : a.indices.vpn0.toNat = a.bits.toNat / 2 ^ 12 % 2 ^ 9 :=
  toNat_toUInt16_field a.bits rfl rfl (by decide) (by decide)

theorem toNat_offset : a.indices.offset.toNat = a.bits.toNat % 2 ^ 12 := by
  have hfield : (a.bits &&& offsetMask).toNat = a.bits.toNat % 2 ^ 12 := Word.toNat_mask _ rfl
  rw [indices, UInt64.toNat_toUInt16, hfield]
  omega

/-- **Every field that is read off an address fits it.** -/
theorem fits_indices : a.indices.Fits := by
  refine ⟨?_, ?_, ?_, ?_⟩
  · rw [toNat_vpn2]
    omega
  · rw [toNat_vpn1]
    omega
  · rw [toNat_vpn0]
    omega
  · rw [toNat_offset]
    omega

end

end Address

/-! ### Fields put together -/

namespace PageIndices

variable (v : PageIndices)

/-- **The low bits are a sum**, in which bits that do not fit a field are left out. -/
theorem toNat_lowBits : v.lowBits.toNat =
    v.vpn2.toNat % 2 ^ 9 * 2 ^ 30 + v.vpn1.toNat % 2 ^ 9 * 2 ^ 21
      + v.vpn0.toNat % 2 ^ 9 * 2 ^ 12 + v.offset.toNat % 2 ^ 12 := by
  have h2 : ((v.vpn2.toUInt64 &&& Address.indexMask) <<< Address.index2Shift).toNat =
      v.vpn2.toUInt64.toNat % 2 ^ 9 * 2 ^ 30 :=
    Word.toNat_place _ rfl rfl (by decide) (by decide)
  have h1 : ((v.vpn1.toUInt64 &&& Address.indexMask) <<< Address.index1Shift).toNat =
      v.vpn1.toUInt64.toNat % 2 ^ 9 * 2 ^ 21 :=
    Word.toNat_place _ rfl rfl (by decide) (by decide)
  have h0 : ((v.vpn0.toUInt64 &&& Address.indexMask) <<< Address.index0Shift).toNat =
      v.vpn0.toUInt64.toNat % 2 ^ 9 * 2 ^ 12 :=
    Word.toNat_place _ rfl rfl (by decide) (by decide)
  have ho : (v.offset.toUInt64 &&& Address.offsetMask).toNat =
      v.offset.toUInt64.toNat % 2 ^ 12 := Word.toNat_mask _ rfl
  rw [UInt16.toNat_toUInt64] at h2 h1 h0 ho
  rw [lowBits, UInt64.toNat_or, UInt64.toNat_or, UInt64.toNat_or, h2, h1, h0, ho]
  -- From the top down, each field lies below the lowest bit of what is there already.
  rw [Word.mul_two_pow_or (k := 30) (by omega),
    show ∀ x y : Nat, x * 2 ^ 30 + y * 2 ^ 21 = (x * 2 ^ 9 + y) * 2 ^ 21 by omega,
    Word.mul_two_pow_or (k := 21) (by omega),
    show ∀ x y : Nat, x * 2 ^ 21 + y * 2 ^ 12 = (x * 2 ^ 9 + y) * 2 ^ 12 by omega,
    Word.mul_two_pow_or (k := 12) (by omega)]

variable {v} in
/-- Fields that fit are put together by adding them up as they are. -/
theorem Fits.toNat_lowBits (h : v.Fits) : v.lowBits.toNat =
    v.vpn2.toNat * 2 ^ 30 + v.vpn1.toNat * 2 ^ 21 + v.vpn0.toNat * 2 ^ 12 + v.offset.toNat := by
  obtain ⟨h2, h1, h0, ho⟩ := h
  rw [PageIndices.toNat_lowBits]
  omega

theorem toNat_lowBits_lt : v.lowBits.toNat < 2 ^ 39 := by
  rw [toNat_lowBits]
  omega

end PageIndices

/-- Bit 38 of a word, as the code asks for it. -/
theorem Address.shift_and_one_iff (x : UInt64) :
    (x >>> Address.signShift) &&& 1 = 1 ↔ x.toNat / 2 ^ 38 % 2 = 1 := by
  have hfield : ((x >>> Address.signShift) &&& 1).toNat = x.toNat / 2 ^ 38 % 2 ^ 1 :=
    Word.toNat_field x rfl rfl (by decide)
  rw [← UInt64.toNat_inj, hfield]
  rfl

namespace PageIndices

variable (v : PageIndices)

/-- **Building an address** copies bit 38 into all bits above it. -/
theorem toNat_toAddress : v.toAddress.bits.toNat =
    if v.lowBits.toNat < 2 ^ 38 then v.lowBits.toNat
    else v.lowBits.toNat + (2 ^ 64 - 2 ^ 39) := by
  have hlt := v.toNat_lowBits_lt
  have hupper : Address.upperHalf.toNat = (2 ^ 26 - 1) * 2 ^ 38 := rfl
  rw [toAddress]
  split
  · next h =>
    rw [Address.shift_and_one_iff] at h
    have hlow : v.lowBits.toNat = 2 ^ 38 ||| (v.lowBits.toNat - 2 ^ 38) := by
      have hadd := Word.mul_two_pow_or (b := v.lowBits.toNat - 2 ^ 38) (k := 38) (by omega) 1
      rw [Nat.one_mul] at hadd
      rw [hadd]
      omega
    have hset : 2 ^ 38 ||| (2 ^ 26 - 1) * 2 ^ 38 = (2 ^ 26 - 1) * 2 ^ 38 := by decide
    rw [if_neg (by omega), UInt64.toNat_or, hupper, hlow, Nat.or_right_comm, hset,
      Word.mul_two_pow_or (by omega)]
    omega
  · next h =>
    rw [Address.shift_and_one_iff] at h
    rw [if_pos (by omega)]

end PageIndices

end Paging
