import Paging.Entry
import Paging.Proofs.Word

/-!
# Entries as numbers

What the shifts and masks of an entry come to in numbers.  The four fields lie side by side and
leave no bit out, so the entry is their sum (`toNat_bits`), and nothing that is read into a smaller
word is cut off.
-/

namespace Paging

theorem Flags.toNat_inj {f g : Flags} : f.bits.toNat = g.bits.toNat ↔ f = g := by
  obtain ⟨x⟩ := f
  obtain ⟨y⟩ := g
  rw [UInt8.toNat_inj, Flags.mk.injEq]

/-! ### Fields that an entry has -/

namespace Entry

variable (e : Entry)

theorem toNat_flags : e.flags.bits.toNat = e.bits.toNat % 2 ^ 8 := by
  have hfield : (e.bits &&& flagMask).toNat = e.bits.toNat % 2 ^ 8 := Word.toNat_mask _ rfl
  rw [flags, UInt64.toNat_toUInt8, hfield, Nat.mod_mod]

theorem toNat_software : e.software.toNat = e.bits.toNat / 2 ^ 8 % 2 ^ 2 := by
  have hfield : ((e.bits >>> softwareShift) &&& softwareMask).toNat =
      e.bits.toNat / 2 ^ 8 % 2 ^ 2 := Word.toNat_field _ rfl rfl (by decide)
  rw [software, UInt64.toNat_toUInt8, hfield]
  omega

theorem toNat_pageNumber : e.pageNumber.toNat = e.bits.toNat / 2 ^ 10 % 2 ^ 44 :=
  Word.toNat_field _ rfl rfl (by decide)

theorem toNat_reserved : e.reserved.toNat = e.bits.toNat / 2 ^ 54 := by
  have hlt := e.bits.toNat_lt
  have hfield : (e.bits >>> reservedShift).toNat = e.bits.toNat / 2 ^ 54 :=
    Word.toNat_shiftRight _ rfl (by decide)
  rw [reserved, UInt64.toNat_toUInt16, hfield]
  omega

/-- **The fields tile the entry.** -/
theorem toNat_bits : e.bits.toNat =
    e.reserved.toNat * 2 ^ 54 + e.pageNumber.toNat * 2 ^ 10 + e.software.toNat * 2 ^ 8
      + e.flags.bits.toNat := by
  rw [toNat_reserved, toNat_pageNumber, toNat_software, toNat_flags]
  omega

/-- The physical address has all bits above those left to software, the two highest apart. -/
theorem toNat_physical : e.physical.toNat = e.bits.toNat / 2 ^ 10 % 2 ^ 52 * 2 ^ 12 := by
  have habove : (e.bits >>> pageShift).toNat = e.bits.toNat / 2 ^ 10 :=
    Word.toNat_shiftRight _ rfl (by decide)
  have hplaced : e.physical.toNat = (e.bits >>> pageShift).toNat % 2 ^ 52 * 2 ^ 12 :=
    Word.toNat_shiftLeft _ rfl (by decide)
  rw [hplaced, habove]

theorem toNat_physical_eq_fields : e.physical.toNat =
    e.reserved.toNat % 2 ^ 8 * 2 ^ 56 + e.pageNumber.toNat * 2 ^ 12 := by
  rw [toNat_physical, toNat_reserved, toNat_pageNumber]
  omega

theorem toNat_inj {x y : Entry} : x.bits.toNat = y.bits.toNat ↔ x = y := by
  obtain ⟨x⟩ := x
  obtain ⟨y⟩ := y
  rw [UInt64.toNat_inj, Entry.mk.injEq]

/-! ### Fields put together -/

/-- **Building an entry** puts the page and the flags in place and leaves the rest clear. -/
theorem toNat_ofPhysical (p : UInt64) (f : Flags) :
    (ofPhysical p f).bits.toNat = p.toNat / 2 ^ 12 % 2 ^ 44 * 2 ^ 10 + f.bits.toNat := by
  have hpage : (((p >>> Address.offsetBits) &&& pageMask) <<< pageShift).toNat =
      (p >>> Address.offsetBits).toNat % 2 ^ 44 * 2 ^ 10 :=
    Word.toNat_place _ rfl rfl (by decide) (by decide)
  have hflags : f.bits.toNat < 2 ^ 10 := f.bits.toNat_lt.trans (by decide)
  rw [ofPhysical, UInt64.toNat_or, hpage, Word.toNat_shiftRight p rfl (by decide),
    UInt8.toNat_toUInt64, Word.mul_two_pow_or hflags]
  rfl

end Entry

end Paging
