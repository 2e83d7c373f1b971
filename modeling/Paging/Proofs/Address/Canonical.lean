import Mathlib.Logic.Equiv.Defs
import Mathlib.Tactic.TFAE
import Paging.Proofs.Address.Layout

/-!
# Canonical addresses

An address is canonical if all bits above bit 38 copy it (`Address.CopiesSign`).  `isCanonical`, the
strict check, and taking an address apart and putting it together again all come to that, each with
shifts and masks of its own.  In numbers it says that the quotient by `2 ^ 38` is zero or the
greatest there is (`copiesSign_iff`), and that is what each of them is compared with.
-/

namespace Paging

namespace Address

variable (a : Address)

def CopiesSign : Prop :=
  ∀ i, 38 < i → i < 64 → a.bits.toNat.testBit i = a.bits.toNat.testBit 38

theorem copiesSign_iff :
    a.CopiesSign ↔ a.bits.toNat / 2 ^ 38 = 0 ∨ a.bits.toNat / 2 ^ 38 = 2 ^ 26 - 1 := by
  have hlt : a.bits.toNat / 2 ^ 38 < 2 ^ (25 + 1) := by
    have := a.bits.toNat_lt
    omega
  rw [← Word.forall_testBit_eq_iff hlt]
  constructor
  · intro h i hpos hi
    have := h (38 + i) (by omega) (by omega)
    rwa [Nat.testBit_div_two_pow, Nat.testBit_div_two_pow, Nat.add_comm i, Nat.zero_add]
  · intro h i hpos hi
    have := h (i - 38) (by omega) (by omega)
    rwa [Nat.testBit_div_two_pow, Nat.testBit_div_two_pow, Nat.sub_add_cancel (by omega),
      Nat.zero_add] at this

instance : Decidable a.CopiesSign := decidable_of_iff _ a.copiesSign_iff.symm

/-! ### The two tests -/

theorem toNat_high : (a.bits >>> signShift).toNat = a.bits.toNat / 2 ^ 38 :=
  Word.toNat_shiftRight a.bits rfl (by decide)

theorem high_eq_zero_iff : a.bits >>> signShift = 0 ↔ a.bits.toNat / 2 ^ 38 = 0 := by
  rw [← UInt64.toNat_inj, toNat_high]
  rfl

theorem high_eq_upper_iff :
    a.bits >>> signShift = upperHalf >>> signShift ↔ a.bits.toNat / 2 ^ 38 = 2 ^ 26 - 1 := by
  rw [← UInt64.toNat_inj, toNat_high]
  rfl

theorem signBit_iff : a.signBit = true ↔ a.bits.toNat / 2 ^ 38 % 2 = 1 := by
  rw [signBit, beq_iff_eq, shift_and_one_iff]

theorem isCanonical_iff : a.isCanonical = true ↔ a.CopiesSign := by
  rw [isCanonical, copiesSign_iff, Bool.or_eq_true, beq_iff_eq, beq_iff_eq, high_eq_zero_iff,
    high_eq_upper_iff]

/-- **The strict check lets canonical addresses pass** and refuses all others. -/
theorem check_strict :
    a.check .strict = if a.CopiesSign then .ok () else .error .nonCanonical := by
  rw [check]
  split
  · next hsign =>
    rw [signBit_iff] at hsign
    simp only [high_eq_upper_iff, copiesSign_iff]
    by_cases hhigh : a.bits.toNat / 2 ^ 38 = 2 ^ 26 - 1
    · rw [if_pos hhigh, if_pos (Or.inr hhigh)]
    · rw [if_neg hhigh, if_neg (by omega)]
  · next hsign =>
    rw [signBit_iff] at hsign
    simp only [Ne, high_eq_zero_iff, copiesSign_iff, true_and]
    by_cases hhigh : a.bits.toNat / 2 ^ 38 = 0
    · rw [if_neg (not_not_intro hhigh), if_pos (Or.inl hhigh)]
    · rw [if_pos hhigh, if_neg (by omega)]

/-- The one-sided check lets canonical addresses pass as well. -/
theorem check_oneSided_of_copiesSign (h : a.CopiesSign) : a.check .oneSided = .ok () := by
  rw [copiesSign_iff] at h
  rw [check]
  split
  · next hsign =>
    rw [signBit_iff] at hsign
    rw [if_pos (a.high_eq_upper_iff.mpr (by omega))]
  · rfl

theorem split_strict :
    a.split .strict = if a.CopiesSign then .ok a.indices else .error .nonCanonical := by
  rw [split, check_strict]
  split_ifs <;> rfl

/-! ### Taking apart and putting together -/

theorem toNat_lowBits_indices : a.indices.lowBits.toNat = a.bits.toNat % 2 ^ 39 := by
  rw [PageIndices.toNat_lowBits, toNat_vpn2, toNat_vpn1, toNat_vpn0, toNat_offset]
  omega

/-- **Just the canonical addresses come back** from their indices. -/
theorem toAddress_indices_iff : a.indices.toAddress = a ↔ a.CopiesSign := by
  have hlt := a.bits.toNat_lt
  rw [← toNat_inj, PageIndices.toNat_toAddress, toNat_lowBits_indices, copiesSign_iff]
  split_ifs <;> omega

end Address

namespace PageIndices

variable (v : PageIndices)

theorem copiesSign_toAddress : v.toAddress.CopiesSign := by
  have hlt := v.toNat_lowBits_lt
  rw [Address.copiesSign_iff, toNat_toAddress]
  split_ifs <;> omega

theorem toNat_toAddress_mod : v.toAddress.bits.toNat % 2 ^ 39 = v.lowBits.toNat := by
  have hlt := v.toNat_lowBits_lt
  rw [toNat_toAddress]
  split_ifs <;> omega

variable {v} in
/-- **Fields that fit come back** from the address with them. -/
theorem Fits.indices_toAddress (h : v.Fits) : v.toAddress.indices = v := by
  obtain ⟨h2, h1, h0, ho⟩ := h
  have hlow := v.toNat_toAddress_mod
  rw [PageIndices.toNat_lowBits] at hlow
  refine ext_toNat ?_ ?_ ?_ ?_
  · rw [Address.toNat_vpn2]
    omega
  · rw [Address.toNat_vpn1]
    omega
  · rw [Address.toNat_vpn0]
    omega
  · rw [Address.toNat_offset]
    omega

end PageIndices

def canonicalEquiv : {a : Address // a.isCanonical = true} ≃ {v : PageIndices // v.Fits} where
  toFun a := ⟨a.val.indices, a.val.fits_indices⟩
  invFun v := ⟨v.val.toAddress, v.val.toAddress.isCanonical_iff.mpr v.val.copiesSign_toAddress⟩
  left_inv a := Subtype.ext (a.val.toAddress_indices_iff.mpr (a.val.isCanonical_iff.mp a.property))
  right_inv v := Subtype.ext v.property.indices_toAddress

/-- **The strict split and `toAddress` undo each other**, on the canonical addresses and on the
fields that fit, and all tests of an address agree on which the canonical ones are. -/
theorem strict_split_bijective :
    (∀ a : Address,
      [a.isCanonical = true, a.check .strict = .ok (), a.split .strict = .ok a.indices,
        a.indices.toAddress = a, a.CopiesSign].TFAE ∧
      (¬ a.CopiesSign → a.split .strict = .error .nonCanonical) ∧ a.indices.Fits) ∧
    (∀ v : PageIndices, v.Fits →
      v.toAddress.split .strict = .ok v ∧ v.toAddress.split default = .ok v) ∧
    (∀ a : {a : Address // a.isCanonical = true},
      a.val.split .strict = .ok (canonicalEquiv a).val) ∧
    ∀ v : {v : PageIndices // v.Fits}, (canonicalEquiv.symm v).val = v.val.toAddress := by
  refine ⟨fun a => ⟨?_, ?_, a.fits_indices⟩, ?_, ?_, fun v => rfl⟩
  · tfae_have 1 ↔ 5 := a.isCanonical_iff
    tfae_have 4 ↔ 5 := a.toAddress_indices_iff
    tfae_have 2 ↔ 5 := by
      rw [a.check_strict]
      split_ifs with h
      · exact iff_of_true rfl h
      · exact iff_of_false (by rintro ⟨⟩) h
    tfae_have 3 ↔ 5 := by
      rw [a.split_strict]
      split_ifs with h
      · exact iff_of_true rfl h
      · exact iff_of_false (by rintro ⟨⟩) h
    tfae_finish
  · intro h
    rw [a.split_strict, if_neg h]
  · intro v hv
    have hsign := v.copiesSign_toAddress
    refine ⟨?_, ?_⟩
    · rw [v.toAddress.split_strict, if_pos hsign, hv.indices_toAddress]
    · show v.toAddress.split .oneSided = _
      rw [Address.split, v.toAddress.check_oneSided_of_copiesSign hsign]
      exact congrArg Except.ok hv.indices_toAddress
  · intro a
    rw [a.val.split_strict, if_pos (a.val.isCanonical_iff.mp a.property)]
    rfl

end Paging
