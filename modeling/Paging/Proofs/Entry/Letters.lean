import Mathlib.Data.Nat.Bitwise
import Paging.Flags
import Paging.Proofs.Text.Written

/-!
# Flags as letters

A flag is a bit of the byte (`has_eq_testBit`), and its letter stands in the text just if that bit
is set (`letter_mem_text_iff`).  A reader that takes a letter for one and a dash for zero gets back
the digits of the byte in binary, and so the flags (`ofText?_text`).
-/

namespace Paging

open Text

namespace Flags

/-! ### Flags as bits -/

theorem toNat_only (f : Flag) : (only f).bits.toNat = 2 ^ f.bit.toNat := by
  cases f <;> rfl

/-- **A flag is a bit of the byte.** -/
theorem has_eq_testBit (a : Flags) (f : Flag) : a.has f = a.bits.toNat.testBit f.bit.toNat := by
  have hplace : 0 < 2 ^ f.bit.toNat := Nat.pow_pos (by decide)
  unfold has contains
  rw [Bool.eq_iff_iff, beq_iff_eq, ← UInt8.toNat_inj, UInt8.toNat_and, toNat_only,
    Nat.and_two_pow]
  cases a.bits.toNat.testBit f.bit.toNat with
  | false => simp [hplace.ne]
  | true => simp

/-! ### Letters in the text -/

theorem toList_text (a : Flags) : a.text.toList = Flag.all.reverse.map a.letter := by
  rw [text, String.toList_ofList]

theorem mem_all (f : Flag) : f ∈ Flag.all := by
  cases f <;> decide

theorem letter_ne_dash (f : Flag) : f.letter ≠ '-' := by
  cases f <;> decide

theorem letter_inj {f g : Flag} (h : f.letter = g.letter) : f = g := by
  cases f <;> cases g <;> first | rfl | exact absurd h (by decide)

/-- **The letter of a flag stands in the text** just if the flag is set. -/
theorem letter_mem_text_iff {a : Flags} (f : Flag) : f.letter ∈ a.text.toList ↔ a.has f := by
  rw [toList_text]
  constructor
  · intro h
    obtain ⟨g, -, hg⟩ := List.mem_map.mp h
    unfold letter at hg
    split at hg
    · next hset => rwa [← letter_inj hg]
    · exact absurd hg.symm (letter_ne_dash f)
  · intro h
    apply List.mem_map.mpr
    refine ⟨f, List.mem_reverse.mpr (mem_all f), ?_⟩
    rw [letter, if_pos h]

/-! ### Letters read back -/

/-- A one for each letter and a zero for each dash, if these are the letters of the flags. -/
def digits? : List Flag → List Char → Option (List Nat)
  | [], [] => some []
  | f :: fs, c :: cs =>
    if c = f.letter then (digits? fs cs).map (1 :: ·)
    else if c = '-' then (digits? fs cs).map (0 :: ·)
    else Option.none
  | _, _ => Option.none

def ofText? (s : String) : Option Flags :=
  (digits? Flag.all.reverse s.toList).map fun ds => ⟨.ofNat (ofDigits 2 ds)⟩

theorem digits?_letters (a : Flags) (fs : List Flag) :
    digits? fs (fs.map a.letter) = some (fs.map fun f => (a.has f).toNat) := by
  induction fs with
  | nil => rfl
  | cons f fs ih =>
    have hdash : ¬ '-' = f.letter := fun h => letter_ne_dash f h.symm
    rw [List.map_cons, List.map_cons, digits?, ih, letter]
    cases a.has f with
    | false => simp [hdash]
    | true => simp

/-- The low bits of a number, the highest first, are its digits in binary. -/
theorem ofDigits_testBit (n k : Nat) :
    ofDigits 2 ((List.range k).reverse.map fun i => (n.testBit i).toNat) = n % 2 ^ k := by
  induction k with
  | zero => simp [ofDigits, Nat.mod_one]
  | succ k ih =>
    rw [List.range_succ, List.reverse_append, List.map_append, ofDigits_append_digits, ih,
      List.length_map, List.length_reverse, List.length_range, Nat.mod_pow_succ, Nat.add_comm,
      Nat.mul_comm]
    show n % 2 ^ k + 2 ^ k * (0 * 2 + (n.testBit k).toNat) = _
    rw [Nat.toNat_testBit, Nat.zero_mul, Nat.zero_add]

theorem ofDigits_bits (a : Flags) :
    ofDigits 2 (Flag.all.reverse.map fun f => (a.has f).toNat) = a.bits.toNat := by
  have hplaces : (Flag.all.reverse.map fun f => (a.has f).toNat) =
      (List.range 8).reverse.map fun i => (a.bits.toNat.testBit i).toNat := by
    simp only [has_eq_testBit]
    rfl
  rw [hplaces, ofDigits_testBit]
  exact Nat.mod_eq_of_lt a.bits.toNat_lt

/-- **The letters of some flags are read back as these.** -/
theorem ofText?_text (a : Flags) : ofText? a.text = some a := by
  rw [ofText?, toList_text, digits?_letters, Option.map_some, ofDigits_bits, UInt8.ofNat_toNat]

-- Each place has a letter of its own.
example : ofText? "----XWRV" = some ⟨0b1111⟩ ∧ ofText? "V-------" = Option.none := by decide +kernel

end Flags

end Paging
