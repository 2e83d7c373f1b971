import Paging.Proofs.Address.Gap

/-!
# The one-sided split

Unless the strict check is asked for, the bits above bit 38 are looked at only where that bit is
set.  `Passable` says by the bits alone which addresses that lets pass: the canonical ones and those
in the gap between the checks (`passable_iff`).  Of an address in the gap the low 39 bits are kept
and put together again (`InGap.toAddress_indices`), so no low bit is lost anywhere.
-/

namespace Paging

namespace Address

variable (a : Address)

def Passable : Prop :=
  a.bits.toNat.testBit 38 = false ∨ ∀ i, 38 < i → i < 64 → a.bits.toNat.testBit i = true

theorem passable_iff : a.Passable ↔ a.InGap ∨ a.CopiesSign := by
  rw [Passable, inGap_iff, signBit_eq_testBit, CopiesSign]
  cases hsign : a.bits.toNat.testBit 38 with
  | false =>
    rw [eq_self, true_or, true_and, true_iff]
    exact (Classical.em _).symm
  | true => rw [Bool.true_eq_false, false_or, false_and, false_or]

instance : Decidable a.Passable := decidable_of_iff _ a.passable_iff.symm

/-- **What the one-sided check lets pass** is split, and all else is refused. -/
theorem split_default :
    a.split default = if a.Passable then .ok a.indices else .error .nonCanonical := by
  show a.split .oneSided = _
  rw [split_oneSided, split_strict]
  by_cases hgap : a.InGap
  · rw [if_pos hgap, if_pos (a.passable_iff.mpr (Or.inl hgap))]
  · have hpass : a.Passable ↔ a.CopiesSign := by rw [passable_iff, or_iff_right hgap]
    rw [if_neg hgap]
    simp only [hpass]

theorem split_default_eq_ok_iff {v : PageIndices} :
    a.split default = .ok v ↔ a.Passable ∧ a.indices = v := by
  rw [split_default]
  split_ifs with h
  · rw [Except.ok.injEq, and_iff_right h]
  · exact iff_of_false (by rintro ⟨⟩) (fun hv => h hv.1)

variable {a}

theorem Passable.inGap (h : a.Passable) (hnot : ¬ a.CopiesSign) : a.InGap :=
  (a.passable_iff.mp h).resolve_right hnot

/-- **In the gap the low 39 bits come back**, and the bits above are lost. -/
theorem InGap.toAddress_indices (h : a.InGap) : a.indices.toAddress = a.low := by
  have hclear : ¬ a.bits.toNat / 2 ^ 38 % 2 = 1 := by
    rw [← signBit_iff, (a.inGap_iff.mp h).1]
    exact Bool.false_ne_true
  apply toNat_inj.mp
  rw [PageIndices.toNat_toAddress, toNat_lowBits_indices, toNat_low]
  exact if_pos (by omega)

end Address

/-- **The one-sided split accepts just what it should and loses no low bit.**  It comes back to the
address where that is canonical, and else to its low 39 bits.  It goes beyond the strict one in the
gap alone. -/
theorem default_split_spec (a : Address) :
    ((∃ v, a.split default = .ok v) ↔
      a.bits.toNat.testBit 38 = false ∨ ∀ i, 38 < i → i < 64 → a.bits.toNat.testBit i = true) ∧
    ((¬ ∃ v, a.split default = .ok v) → a.split default = .error .nonCanonical) ∧
    (∀ v, a.split default = .ok v →
      v = a.indices ∧
      v.lowBits.toNat =
        v.vpn2.toNat * 2 ^ 30 + v.vpn1.toNat * 2 ^ 21 + v.vpn0.toNat * 2 ^ 12 + v.offset.toNat ∧
      v.lowBits.toNat = a.bits.toNat % 2 ^ 39 ∧
      (a.isCanonical = true → v.toAddress = a) ∧
      (a.isCanonical = false →
        v.toAddress.bits.toNat = a.bits.toNat % 2 ^ 39 ∧ v.toAddress ≠ a)) ∧
    (∀ v, a.split .strict = .ok v → a.split default = .ok v) ∧
    ((∃ v, a.split default = .ok v) ∧ (∃ f, a.split .strict = .error f) ↔
      a.bits.toNat.testBit 38 = false ∧
        ∃ i, 38 < i ∧ i < 64 ∧ a.bits.toNat.testBit i = true) := by
  have hok : (∃ v, a.split default = .ok v) ↔ a.Passable := by
    simp only [a.split_default_eq_ok_iff, exists_and_left, exists_eq', and_true]
  refine ⟨hok, ?_, ?_, ?_, ?_⟩
  · rw [hok]
    intro hnot
    rw [a.split_default, if_neg hnot]
  · intro v hv
    obtain ⟨hpass, rfl⟩ := a.split_default_eq_ok_iff.mp hv
    refine ⟨rfl, a.fits_indices.toNat_lowBits, a.toNat_lowBits_indices, ?_, ?_⟩
    · rw [a.isCanonical_iff]
      exact a.toAddress_indices_iff.mpr
    · rw [Bool.eq_false_iff, Ne, a.isCanonical_iff]
      intro hnot
      have hgap : a.InGap := hpass.inGap hnot
      refine ⟨?_, a.toAddress_indices_iff.not.mpr hnot⟩
      rw [hgap.toAddress_indices, a.toNat_low]
  · intro v hv
    rw [a.split_strict] at hv
    split_ifs at hv with hcopies
    cases hv
    rw [a.split_default, if_pos (a.passable_iff.mpr (Or.inr hcopies))]
  · show _ ↔ a.InGap
    rw [hok, a.passable_iff, a.split_strict]
    split_ifs with hcopies
    · refine iff_of_false ?_ fun hgap => (a.inGap_iff.mp hgap).2 hcopies
      rintro ⟨-, f, ⟨⟩⟩
    · rw [or_iff_left hcopies]
      exact and_iff_left ⟨_, rfl⟩

-- Bit 39 is the lowest of the bits that go unnoticed and are lost.
example : (Address.mk 0x8000000fff).split default = .ok ⟨0, 0, 0, 0xfff⟩ := by decide +kernel

end Paging
