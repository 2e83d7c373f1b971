import Mathlib.Data.Nat.Size
import Mathlib.Tactic.Ring
import Paging.Proofs.Text.Decimal
import Paging.Proofs.Text.Hexadecimal

/-!
# Written numbers are read back

A number in upper case hexadecimal with a mark in front is read by `parseHex` as that number, if it
has at most 64 bits (`parseHex_hexUpper`).  A number in binary is read by `ofBinary?`, for which
leading zeros make no difference (`ofBinary?_binary`), and it has as many digits as it has bits,
filled up to the width (`length_binary`).  Binary numbers one after the other are read as one
(`ofBinary?_append`).
-/

namespace Paging.Text

/-! ### Digits one after the other -/

theorem ofDigits_append_digits (base : Nat) (xs ys : List Nat) :
    ofDigits base (xs ++ ys) = ofDigits base xs * base ^ ys.length + ofDigits base ys := by
  induction ys using List.reverseRecOn with
  | nil => simp [ofDigits]
  | append_singleton ys d ih =>
    rw [← List.append_assoc, ofDigits_append, ofDigits_append, ih, List.length_append,
      List.length_singleton, Nat.pow_succ]
    ring

theorem ofDigits_replicate_zero_append (base k : Nat) (ds : List Nat) :
    ofDigits base (List.replicate k 0 ++ ds) = ofDigits base ds := by
  have hzero : ofDigits base (List.replicate k 0) = 0 := by
    induction k with
    | zero => rfl
    | succ k ih => rw [List.replicate_succ', ofDigits_append, ih, Nat.zero_mul]
  rw [ofDigits_append_digits, hzero, Nat.zero_mul, Nat.zero_add]

/-! ### Hexadecimal -/

theorem isHexDigit_upperDigit :
    ∀ d < 16, IsHexDigit (upperDigit d) ∧ digitValue (upperDigit d) = d := by decide

theorem toList_hexUpper (n : Nat) : (hexUpper n).toList = (digits 16 n).map upperDigit := by
  rw [hexUpper, String.toList_ofList]

theorem isHexDigit_of_mem_hexUpper {n : Nat} {c : Char} (h : c ∈ (hexUpper n).toList) :
    IsHexDigit c := by
  rw [toList_hexUpper] at h
  obtain ⟨d, hd, rfl⟩ := List.mem_map.mp h
  exact (isHexDigit_upperDigit d (lt_of_mem_digits (by omega) hd)).1

theorem digitRun_hexUpper (n : Nat) : DigitRun (hexUpper n).toList := by
  constructor
  · rw [toList_hexUpper]
    exact fun h => digits_ne_nil 16 n (List.map_eq_nil_iff.mp h)
  · intro c hc
    exact isHexDigit_of_mem_hexUpper hc

theorem numeralValue_hexUpper (n : Nat) : numeralValue (hexUpper n).toList = n := by
  have hkept : (hexUpper n).toList.filter (· ≠ '_') = (hexUpper n).toList := by
    apply List.filter_eq_self.mpr
    intro c hc
    exact decide_eq_true (isHexDigit_of_mem_hexUpper hc).ne_underscore
  have hback : (hexUpper n).toList.map digitValue = digits 16 n := by
    rw [toList_hexUpper]
    apply map_map_digits
    intro d hd
    exact (isHexDigit_upperDigit d (lt_of_mem_digits (by omega) hd)).2
  rw [← ofDigits_map_digitValue, hkept, hback, ofDigits_digits]

theorem not_isSpace_of_isHexDigit {c : Char} (h : IsHexDigit c) : ¬ isSpace c := by
  have hascii : ∀ n < 128, IsHexDigit (Char.ofNat n) → ¬ isSpace (Char.ofNat n) := by decide +kernel
  have hc := hascii c.toNat h.toNat_lt
  rw [Char.ofNat_toNat] at hc
  exact hc h

/-- A mark and digits have no white space at their ends. -/
theorem trim_marked {cs : List Char} (h : DigitRun cs) :
    trim ('0' :: 'x' :: cs) = '0' :: 'x' :: cs := by
  apply isTrimOf_iff.mp
  refine ⟨[], [], by simp, by simp, by simp, ?_, ?_⟩
  · intro c hc
    cases hc
    decide
  · intro c hc
    have hlast : ('0' :: 'x' :: cs).getLast? = cs.getLast? := by
      obtain ⟨d, ds, rfl⟩ := List.exists_cons_of_ne_nil h.1
      rfl
    rw [hlast] at hc
    exact not_isSpace_of_isHexDigit (h.2 c (List.mem_of_getLast? hc))

theorem toList_marked (n : Nat) :
    ("0x" ++ hexUpper n).toList = '0' :: 'x' :: (hexUpper n).toList := String.toList_append

/-- **A number in hexadecimal is read as that number.** -/
theorem parseHex_hexUpper (v : UInt64) : parseHex ("0x" ++ hexUpper v.toNat) = .ok v := by
  rw [parseHex, toList_marked, trim_marked (digitRun_hexUpper v.toNat), dropMark]
  apply parseDigits_eq_ok_iff_numeral.mpr
  exact ⟨.run (digitRun_hexUpper v.toNat), numeralValue_hexUpper v.toNat⟩

/-! ### Binary -/

def isBinaryDigit (c : Char) : Bool := c = '0' || c = '1'

def ofBinary? (s : String) : Option Nat :=
  if s ≠ "" ∧ s.toList.all isBinaryDigit then
    some (ofDigits 2 (s.toList.map fun c => c.toNat - '0'.toNat))
  else none

theorem ofBinary?_eq_some_iff {s : String} {n : Nat} : ofBinary? s = some n ↔
    (s ≠ "" ∧ ∀ c ∈ s.toList, isBinaryDigit c = true) ∧
      ofDigits 2 (s.toList.map fun c => c.toNat - '0'.toNat) = n := by
  unfold ofBinary?
  split
  · next h => simp_all [List.all_eq_true]
  · next h => simp_all [List.all_eq_true]

/-- **One binary number after another** is read as the higher and the lower part of one. -/
theorem ofBinary?_append {s t : String} {m n : Nat} (hs : ofBinary? s = some m)
    (ht : ofBinary? t = some n) : ofBinary? (s ++ t) = some (m * 2 ^ t.length + n) := by
  obtain ⟨⟨hne, hsdigits⟩, rfl⟩ := ofBinary?_eq_some_iff.mp hs
  obtain ⟨⟨-, htdigits⟩, rfl⟩ := ofBinary?_eq_some_iff.mp ht
  apply ofBinary?_eq_some_iff.mpr
  rw [String.toList_append]
  refine ⟨⟨?_, ?_⟩, ?_⟩
  · intro h
    exact hne (String.append_eq_empty_iff.mp h).1
  · intro c hc
    rcases List.mem_append.mp hc with hc | hc
    · exact hsdigits c hc
    · exact htdigits c hc
  · rw [List.map_append, ofDigits_append_digits, List.length_map, String.length_toList]

theorem toList_binary (width n : Nat) : (binary width n).toList =
    (List.replicate (width - (digits 2 n).length) 0 ++ digits 2 n).map lowerDigit := by
  rw [binary, String.toList_ofList]

theorem isBinaryDigit_lowerDigit :
    ∀ d < 2, isBinaryDigit (lowerDigit d) = true ∧ (lowerDigit d).toNat - '0'.toNat = d := by
  decide

theorem lt_two_of_mem_padded {k n d : Nat} (h : d ∈ List.replicate k 0 ++ digits 2 n) : d < 2 := by
  rcases List.mem_append.mp h with h | h
  · rw [List.eq_of_mem_replicate h]
    decide
  · exact lt_of_mem_digits (Nat.le_refl 2) h

theorem isBinaryDigit_of_mem_binary {width n : Nat} {c : Char} (h : c ∈ (binary width n).toList) :
    isBinaryDigit c = true := by
  rw [toList_binary] at h
  obtain ⟨d, hd, rfl⟩ := List.mem_map.mp h
  exact (isBinaryDigit_lowerDigit d (lt_two_of_mem_padded hd)).1

/-- **A number in binary is read as that number**, whatever the width. -/
theorem ofBinary?_binary (width n : Nat) : ofBinary? (binary width n) = some n := by
  apply ofBinary?_eq_some_iff.mpr
  refine ⟨⟨?_, fun c hc => isBinaryDigit_of_mem_binary hc⟩, ?_⟩
  · intro h
    have hlist := congrArg String.toList h
    rw [toList_binary] at hlist
    have hdigits := List.append_eq_nil_iff.mp (List.map_eq_nil_iff.mp hlist)
    exact digits_ne_nil 2 n hdigits.2
  · rw [toList_binary, map_map_digits, ofDigits_replicate_zero_append, ofDigits_digits]
    intro d hd
    exact (isBinaryDigit_lowerDigit d (lt_two_of_mem_padded hd)).2

/-- Half of a number has one bit less. -/
theorem size_eq_succ_size_half {n : Nat} (h : 2 ≤ n) : n.size = (n / 2).size + 1 := by
  have hbound (k : Nat) : n.size ≤ k + 1 ↔ (n / 2).size ≤ k := by
    rw [Nat.size_le, Nat.size_le, Nat.pow_succ]
    omega
  have hpos : 0 < n.size := Nat.size_pos.mpr (by omega)
  have hle := (hbound (n / 2).size).mpr (Nat.le_refl _)
  have hge := (hbound (n.size - 1)).mp (by omega)
  omega

/-- A number has as many digits as bits, but for zero, which has one. -/
theorem length_digits_two (n : Nat) : (digits 2 n).length = max 1 n.size := by
  induction n using Nat.strongRecOn with
  | ind n ih =>
    rw [digits]
    split
    · next h =>
      have hsize : n.size ≤ 1 := Nat.size_le.mpr (by omega)
      rw [List.length_singleton]
      omega
    · next h =>
      have hhalf := size_eq_succ_size_half (n := n) (by omega)
      rw [List.length_append, List.length_singleton, ih (n / 2) (by omega), hhalf]
      have hpos : 0 < (n / 2).size := Nat.size_pos.mpr (by omega)
      omega

/-- **Zeros fill up to the width**, and no digit is left out of a number that is wider. -/
theorem length_binary {width : Nat} (h : 0 < width) (n : Nat) :
    (binary width n).length = max width n.size := by
  rw [← String.length_toList, toList_binary, List.length_map, List.length_append,
    List.length_replicate, length_digits_two]
  omega

end Paging.Text
