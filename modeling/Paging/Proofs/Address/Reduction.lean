import Mathlib.Data.Nat.ModEq
import Paging.Proofs.Address.Canonical

/-!
# Fields that do not fit

A field may hold more than its part of an address has room for.  What goes beyond is left out when
an address is built and reaches no other field: fields count up to `reduced` only
(`toAddress_eq_iff`), and it is the reduced fields that an address gives back (`indices_toAddress`).
The low bits of `v` and of `v.reduced` are the same (`lowBits_reduced`), so all of this comes down
to fields that fit.
-/

namespace Paging

namespace PageIndices

def reduced (v : PageIndices) : PageIndices where
  vpn2 := v.vpn2 % 512
  vpn1 := v.vpn1 % 512
  vpn0 := v.vpn0 % 512
  offset := v.offset % 4096

variable (v : PageIndices)

theorem toNat_reduced :
    v.reduced.vpn2.toNat = v.vpn2.toNat % 2 ^ 9 ∧ v.reduced.vpn1.toNat = v.vpn1.toNat % 2 ^ 9 ∧
      v.reduced.vpn0.toNat = v.vpn0.toNat % 2 ^ 9 ∧
      v.reduced.offset.toNat = v.offset.toNat % 2 ^ 12 :=
  ⟨UInt16.toNat_mod _ _, UInt16.toNat_mod _ _, UInt16.toNat_mod _ _, UInt16.toNat_mod _ _⟩

theorem fits_reduced : v.reduced.Fits := by
  obtain ⟨h2, h1, h0, ho⟩ := v.toNat_reduced
  refine ⟨?_, ?_, ?_, ?_⟩
  · rw [h2]
    exact Nat.mod_lt _ (by decide)
  · rw [h1]
    exact Nat.mod_lt _ (by decide)
  · rw [h0]
    exact Nat.mod_lt _ (by decide)
  · rw [ho]
    exact Nat.mod_lt _ (by decide)

variable {v} in
theorem reduced_eq_self_iff : v.reduced = v ↔ v.Fits := by
  constructor
  · intro h
    rw [← h]
    exact v.fits_reduced
  · rintro ⟨hv2, hv1, hv0, hvo⟩
    obtain ⟨h2, h1, h0, ho⟩ := v.toNat_reduced
    apply ext_toNat
    · exact h2.trans (Nat.mod_eq_of_lt hv2)
    · exact h1.trans (Nat.mod_eq_of_lt hv1)
    · exact h0.trans (Nat.mod_eq_of_lt hv0)
    · exact ho.trans (Nat.mod_eq_of_lt hvo)

/-! ### Building an address -/

theorem lowBits_reduced : v.reduced.lowBits = v.lowBits := by
  obtain ⟨h2, h1, h0, ho⟩ := v.toNat_reduced
  apply UInt64.toNat_inj.mp
  rw [v.fits_reduced.toNat_lowBits, toNat_lowBits, h2, h1, h0, ho]

theorem toAddress_reduced : v.reduced.toAddress = v.toAddress := by
  rw [toAddress, toAddress, lowBits_reduced]

/-- **An address gives back the reduced fields** that it has been built from. -/
theorem indices_toAddress : v.toAddress.indices = v.reduced := by
  rw [← toAddress_reduced]
  exact v.fits_reduced.indices_toAddress

variable {v} in
theorem toAddress_eq_iff {w : PageIndices} : v.toAddress = w.toAddress ↔ v.reduced = w.reduced := by
  constructor
  · intro h
    rw [← indices_toAddress, h, indices_toAddress]
  · intro h
    rw [← toAddress_reduced, h, toAddress_reduced]

end PageIndices

/-- Either check lets a canonical address pass. -/
theorem Address.split_of_copiesSign {a : Address} (h : a.CopiesSign) (s : Strictness) :
    a.split s = .ok a.indices := by
  cases s with
  | oneSided =>
    rw [split, a.check_oneSided_of_copiesSign h]
    rfl
  | strict => rw [a.split_strict, if_pos h]

/-- **Building an address puts any fields in order.**  The low bits are the sum of the reduced
fields, the address is canonical and passes either check, it gives back the reduced fields, and two
choices of fields make the same address just if they are the same when reduced. -/
theorem reassembly_spec :
    (∀ v : PageIndices,
      v.lowBits.toNat =
        v.vpn2.toNat % 512 * 2 ^ 30 + v.vpn1.toNat % 512 * 2 ^ 21 + v.vpn0.toNat % 512 * 2 ^ 12
          + v.offset.toNat % 4096 ∧
      v.toAddress.isCanonical = true ∧
      v.toAddress.bits.toNat ≡ v.lowBits.toNat [MOD 2 ^ 39] ∧
      (∀ s, v.toAddress.split s = .ok v.reduced) ∧
      v.toAddress.indices = v.reduced ∧
      (v.toAddress.indices = v ↔ v.Fits) ∧
      v.toAddress.indices.toAddress = v.toAddress) ∧
    ∀ v w : PageIndices, v.toAddress = w.toAddress ↔ v.reduced = w.reduced := by
  refine ⟨fun v => ?_, fun v w => PageIndices.toAddress_eq_iff⟩
  have hsign := v.copiesSign_toAddress
  have hback := v.indices_toAddress
  refine ⟨v.toNat_lowBits, v.toAddress.isCanonical_iff.mpr hsign, ?_, ?_, hback, ?_, ?_⟩
  · rw [Nat.ModEq, v.toNat_toAddress_mod, Nat.mod_eq_of_lt v.toNat_lowBits_lt]
  · intro s
    rw [Address.split_of_copiesSign hsign s, hback]
  · rw [hback, PageIndices.reduced_eq_self_iff]
  · exact v.toAddress.toAddress_indices_iff.mpr hsign

-- Bit 9 of an index has no place in an address, while bit 8 of the highest one is copied upwards.
example : (PageIndices.mk 0x300 0x200 0 0x1000).toAddress = ⟨0xFFFFFFC000000000⟩ := by
  decide +kernel

end Paging
