import Paging.Proofs.Entry.Layout

/-!
# Building and decoding entries

An entry that is built has 44 bits for its page and none but the flags below it, while decoding
carries reserved bits along.  So neither undoes the other outright.  In numbers both are a quotient
and a remainder (`toNat_ofPhysical`, `toNat_rebuilt`), and what is lost each way is told by them:
the address keeps bits 55 to 12, and the entry keeps its page number and its flags.
-/

namespace Paging

def pageStart (n : Nat) : Nat :=
  n - n % 2 ^ 12

theorem pageStart_mod_eq_iff {n : Nat} : pageStart (n % 2 ^ 56) = pageStart n ↔ n < 2 ^ 56 := by
  rw [pageStart, pageStart]
  omega

namespace Entry

/-! ### What is built decodes -/

section

variable (p : UInt64) (f : Flags)

theorem physical_ofPhysical : (ofPhysical p f).physical.toNat = pageStart (p.toNat % 2 ^ 56) := by
  have hflags := f.bits.toNat_lt
  rw [toNat_physical, toNat_ofPhysical, pageStart]
  omega

theorem flags_ofPhysical : (ofPhysical p f).flags = f := by
  have hflags := f.bits.toNat_lt
  apply Flags.toNat_inj.mp
  rw [toNat_flags, toNat_ofPhysical]
  omega

theorem software_ofPhysical : (ofPhysical p f).software = 0 := by
  have hflags := f.bits.toNat_lt
  apply UInt8.toNat_inj.mp
  rw [toNat_software, toNat_ofPhysical, UInt8.toNat_zero]
  omega

theorem reserved_ofPhysical : (ofPhysical p f).reserved = 0 := by
  have hflags := f.bits.toNat_lt
  apply UInt16.toNat_inj.mp
  rw [toNat_reserved, toNat_ofPhysical, UInt16.toNat_zero]
  omega

end

/-- **Bits 55 to 12 of the address** are all that goes into an entry. -/
theorem ofPhysical_eq_iff {p q : UInt64} {f : Flags} :
    ofPhysical p f = ofPhysical q f ↔ Word.SameBits 12 56 p.toNat q.toNat := by
  rw [← toNat_inj, toNat_ofPhysical, toNat_ofPhysical, Nat.add_left_inj,
    Nat.mul_left_inj (by decide), Word.sameBits_iff]

/-! ### What is decoded builds -/

variable (e : Entry)

def rebuilt : Entry :=
  ofPhysical e.decode.physical e.decode.flags

theorem toNat_rebuilt : e.rebuilt.bits.toNat =
    e.bits.toNat / 2 ^ 10 % 2 ^ 44 * 2 ^ 10 + e.bits.toNat % 2 ^ 8 := by
  show (ofPhysical e.physical e.flags).bits.toNat = _
  rw [toNat_ofPhysical, toNat_physical, toNat_flags]
  omega

/-- **The page number and the flags are kept**, and all other bits cleared. -/
theorem testBit_rebuilt (i : Nat) : e.rebuilt.bits.toNat.testBit i =
    if 54 ≤ i ∨ 8 ≤ i ∧ i ≤ 9 then false else e.bits.toNat.testBit i := by
  have hlow : e.bits.toNat % 2 ^ 8 < 2 ^ 10 := (Nat.mod_lt _ (by decide)).trans (by decide)
  rw [toNat_rebuilt, Nat.mul_comm, Nat.testBit_two_pow_mul_add _ hlow, Nat.testBit_mod_two_pow,
    Nat.testBit_mod_two_pow, Nat.testBit_div_two_pow]
  by_cases hi : i < 10
  · rw [if_pos hi]
    by_cases hflag : i < 8
    · rw [if_neg (by omega), decide_eq_true hflag, Bool.true_and]
    · rw [if_pos (by omega), decide_eq_false hflag, Bool.false_and]
  · rw [if_neg hi, Nat.sub_add_cancel (by omega)]
    by_cases hpage : i < 54
    · rw [if_neg (by omega), decide_eq_true (by omega), Bool.true_and]
    · rw [if_pos (by omega), decide_eq_false (by omega), Bool.false_and]

theorem rebuilt_eq_self_iff : e.rebuilt = e ↔ e.reserved = 0 ∧ e.software = 0 := by
  rw [← toNat_inj, toNat_rebuilt, ← UInt16.toNat_inj, ← UInt8.toNat_inj, toNat_reserved,
    toNat_software, UInt16.toNat_zero, UInt8.toNat_zero]
  omega

theorem physical_rebuilt : e.rebuilt.physical.toNat = e.physical.toNat % 2 ^ 56 := by
  rw [toNat_physical, toNat_physical, toNat_rebuilt]
  omega

end Entry

/-- **Building and decoding undo each other up to the bits they drop.**  An address comes back as
the start of its page, without its bits above 55, and an entry with its page number and its flags
alone. -/
theorem building_decoding_spec :
    (∀ (p : UInt64) (f : Flags),
      (Entry.ofPhysical p f).decode = ⟨.ofNat (pageStart (p.toNat % 2 ^ 56)), f⟩ ∧
      (Entry.ofPhysical p f).software = 0 ∧ (Entry.ofPhysical p f).reserved = 0 ∧
      ((Entry.ofPhysical p f).decode.physical.toNat = pageStart p.toNat ↔ p.toNat < 2 ^ 56)) ∧
    (∀ (p q : UInt64) (f : Flags), Entry.ofPhysical p f = Entry.ofPhysical q f ↔
      ∀ i, 12 ≤ i → i < 56 → p.toNat.testBit i = q.toNat.testBit i) ∧
    ∀ e : Entry,
      (∀ i, e.rebuilt.bits.toNat.testBit i =
        if 54 ≤ i ∨ 8 ≤ i ∧ i ≤ 9 then false else e.bits.toNat.testBit i) ∧
      (e.rebuilt = e ↔ e.reserved = 0 ∧ e.software = 0) ∧
      e.rebuilt.decode.flags = e.decode.flags ∧
      e.rebuilt.decode.physical.toNat = e.decode.physical.toNat % 2 ^ 56 := by
  refine ⟨?_, fun p q f => Entry.ofPhysical_eq_iff, ?_⟩
  · intro p f
    have hphysical := Entry.physical_ofPhysical p f
    refine ⟨?_, Entry.software_ofPhysical p f, Entry.reserved_ofPhysical p f, ?_⟩
    · rw [← hphysical, UInt64.ofNat_toNat, Entry.decode, Entry.flags_ofPhysical]
    · show (Entry.ofPhysical p f).physical.toNat = _ ↔ _
      rw [hphysical, pageStart_mod_eq_iff]
  · intro e
    exact ⟨e.testBit_rebuilt, e.rebuilt_eq_self_iff, Entry.flags_ofPhysical _ _, e.physical_rebuilt⟩

-- Bit 56 of the address is lost, and so is its place in the page.
example : (Entry.ofPhysical 0x100000080201234 ⟨7⟩).decode = ⟨0x80201000, ⟨7⟩⟩ := by decide +kernel

end Paging
