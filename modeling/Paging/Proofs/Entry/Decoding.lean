import Paging.Proofs.Entry.Layout

/-!
# What decoding looks at

Decoding an entry passes over the two bits left to software and, since they do not fit above the
page number, over the two highest of the reserved bits.  Entries that are `Alike` but for these
four are the ones that decode to the same (`decode_eq_iff`).  The flags are bits 7 to 0
(`flags_eq_iff`) and the physical address is bits 61 to 10 (`physical_eq_iff`).
-/

namespace Paging

namespace Entry

def Alike (x y : Entry) : Prop :=
  ∀ i, i < 64 → i ≠ 63 → i ≠ 62 → i ≠ 9 → i ≠ 8 → x.bits.toNat.testBit i = y.bits.toNat.testBit i

variable {x y : Entry}

theorem alike_iff : x.Alike y ↔
    Word.SameBits 0 8 x.bits.toNat y.bits.toNat ∧
      Word.SameBits 10 62 x.bits.toNat y.bits.toNat := by
  constructor
  · intro h
    constructor
    · intro i _ hhi
      exact h i (by omega) (by omega) (by omega) (by omega) (by omega)
    · intro i hlo hhi
      exact h i (by omega) (by omega) (by omega) (by omega) (by omega)
  · rintro ⟨hflags, hpage⟩ i hi h63 h62 h9 h8
    by_cases hlow : i < 8
    · exact hflags i (by omega) hlow
    · exact hpage i (by omega) (by omega)

theorem flags_eq_iff : x.flags = y.flags ↔ Word.SameBits 0 8 x.bits.toNat y.bits.toNat := by
  rw [← Flags.toNat_inj, toNat_flags, toNat_flags, Word.sameBits_iff, Nat.pow_zero, Nat.div_one,
    Nat.div_one]

theorem physical_eq_iff : x.physical = y.physical ↔
    Word.SameBits 10 62 x.bits.toNat y.bits.toNat := by
  rw [← UInt64.toNat_inj, toNat_physical, toNat_physical, Word.sameBits_iff,
    Nat.mul_left_inj (by decide)]

/-- **Decoding looks at all bits but four.** -/
theorem decode_eq_iff : x.decode = y.decode ↔ x.Alike y := by
  rw [decode, decode, Mapping.mk.injEq, physical_eq_iff, flags_eq_iff, alike_iff, and_comm]

/-- The kind of an entry depends on its flags alone. -/
theorem kind_congr (h : x.flags = y.flags) : x.kind = y.kind := by
  rw [kind, kind, h]

end Entry

/-- **The fields of an entry tile it.**  They fit side by side into 64 bits, the physical address
is made of two of them, and just the bits that decoding passes over change nothing of what an entry
decodes to, nor of its kind. -/
theorem fields_tile_entry :
    (∀ e : Entry,
      e.bits.toNat =
        e.reserved.toNat * 2 ^ 54 + e.pageNumber.toNat * 2 ^ 10 + e.software.toNat * 2 ^ 8
          + e.flags.bits.toNat ∧
      e.reserved.toNat < 2 ^ 10 ∧ e.pageNumber.toNat < 2 ^ 44 ∧ e.software.toNat < 4 ∧
      e.decode.physical.toNat =
        e.reserved.toNat % 2 ^ 8 * 2 ^ 56 + e.pageNumber.toNat * 2 ^ 12 ∧
      2 ^ 12 ∣ e.decode.physical.toNat) ∧
    (∀ x y : Entry, x.decode = y.decode ↔ x.Alike y) ∧
    ∀ x y : Entry, x.Alike y →
      x.flags = y.flags ∧ x.decode.physical = y.decode.physical ∧ x.kind = y.kind := by
  refine ⟨?_, fun x y => Entry.decode_eq_iff, ?_⟩
  · intro e
    have hlt := e.bits.toNat_lt
    refine ⟨e.toNat_bits, ?_, ?_, ?_, e.toNat_physical_eq_fields, ?_⟩
    · rw [e.toNat_reserved]
      omega
    · rw [e.toNat_pageNumber]
      exact Nat.mod_lt _ (by decide)
    · rw [e.toNat_software]
      exact Nat.mod_lt _ (by decide)
    · show 2 ^ 12 ∣ e.physical.toNat
      rw [e.toNat_physical]
      exact Nat.dvd_mul_left _ _
  · intro x y h
    obtain ⟨hflags, hphysical⟩ := Entry.alike_iff.mp h
    have hsame : x.flags = y.flags := Entry.flags_eq_iff.mpr hflags
    exact ⟨hsame, Entry.physical_eq_iff.mpr hphysical, Entry.kind_congr hsame⟩

/-- A leaf with all four of those bits clear, and the same with all of them set. -/
theorem fields_tile_leaf :
    (Entry.mk 0x2000000C0F).Alike ⟨0xC000002000000F0F⟩ ∧
    (Entry.mk 0x2000000C0F).flags = (Entry.mk 0xC000002000000F0F).flags ∧
    (Entry.mk 0x2000000C0F).decode.physical = (Entry.mk 0xC000002000000F0F).decode.physical ∧
    (Entry.mk 0x2000000C0F).kind = (Entry.mk 0xC000002000000F0F).kind := by
  obtain ⟨-, hdecode, halike⟩ := fields_tile_entry
  have h : (Entry.mk 0x2000000C0F).Alike ⟨0xC000002000000F0F⟩ := (hdecode _ _).mp (by decide)
  exact ⟨h, halike _ _ h⟩

end Paging
