import Paging.Proofs.Address.Canonical

/-!
# Where the two checks differ

Both checks refuse an address whose bit 38 is set and not copied.  Where bit 38 is clear only the
strict one looks further, so the two differ on the addresses in the gap: bit 38 is clear and some
bit above it is set (`split_oneSided`).  The indices of such an address are those of its low 39
bits.
-/

namespace Paging.Address

variable (a : Address)

def InGap : Prop :=
  a.bits.toNat.testBit 38 = false ∧ ∃ i, 38 < i ∧ i < 64 ∧ a.bits.toNat.testBit i = true

def low : Address := ⟨UInt64.ofNat (a.bits.toNat % 2 ^ 39)⟩

theorem signBit_eq_testBit : a.signBit = a.bits.toNat.testBit 38 := by
  rw [Bool.eq_iff_iff, signBit_iff, Nat.testBit_eq_decide_div_mod_eq, decide_eq_true_iff]

theorem inGap_iff : a.InGap ↔ a.signBit = false ∧ ¬ a.CopiesSign := by
  rw [InGap, signBit_eq_testBit]
  apply and_congr_right
  intro hsign
  rw [CopiesSign, hsign]
  constructor
  · rintro ⟨i, hlow, hhigh, hset⟩ hall
    exact Bool.false_ne_true ((hall i hlow hhigh).symm.trans hset)
  · intro hnot
    by_contra hnone
    apply hnot
    intro i hlow hhigh
    rw [Bool.eq_false_iff]
    exact fun hset => hnone ⟨i, hlow, hhigh, hset⟩

instance : Decidable a.InGap := decidable_of_iff _ a.inGap_iff.symm

/-- **The one-sided check is the strict one but for the gap**, which it lets pass. -/
theorem check_oneSided : a.check .oneSided = if a.InGap then .ok () else a.check .strict := by
  cases hsign : a.signBit with
  | true =>
    have hout : ¬ a.InGap := by
      rw [inGap_iff, hsign]
      rintro ⟨hclear, -⟩
      cases hclear
    rw [if_neg hout, check, check, if_pos hsign, if_pos hsign]
  | false =>
    have hgap : a.InGap ↔ ¬ a.CopiesSign := by rw [inGap_iff, hsign, eq_self, true_and]
    rw [check_strict, check, hsign]
    by_cases hcopies : a.CopiesSign
    · rw [if_neg (hgap.not.mpr (not_not_intro hcopies)), if_pos hcopies]
      rfl
    · rw [if_pos (hgap.mpr hcopies)]
      rfl

theorem split_oneSided :
    a.split .oneSided = if a.InGap then .ok a.indices else a.split .strict := by
  rw [split, split, check_oneSided]
  split_ifs <;> rfl

variable {a} in
/-- Whichever the check, what comes of it are the indices. -/
theorem eq_indices_of_split {s : Strictness} {v : PageIndices} (h : a.split s = .ok v) :
    v = a.indices := by
  rw [split] at h
  cases hcheck : a.check s with
  | error f =>
    rw [hcheck] at h
    cases h
  | ok u =>
    rw [hcheck] at h
    exact (Except.ok.inj h).symm

variable {a} in
/-- The strict check refuses the whole gap. -/
theorem InGap.split_strict (h : a.InGap) : a.split .strict = .error .nonCanonical := by
  rw [Address.split_strict, if_neg (a.inGap_iff.mp h).2]

/-! ### The low bits -/

theorem toNat_low : a.low.bits.toNat = a.bits.toNat % 2 ^ 39 := by
  have hlt := a.bits.toNat_lt
  rw [low, UInt64.toNat_ofNat_of_lt']
  rw [UInt64.size]
  omega

/-- **The bits above bit 38 do not count** for the indices and the offset. -/
theorem indices_low : a.low.indices = a.indices := by
  apply PageIndices.ext_toNat
  · rw [toNat_vpn2, toNat_vpn2, toNat_low]
    omega
  · rw [toNat_vpn1, toNat_vpn1, toNat_low]
    omega
  · rw [toNat_vpn0, toNat_vpn0, toNat_low]
    omega
  · rw [toNat_offset, toNat_offset, toNat_low]
    omega

end Paging.Address
