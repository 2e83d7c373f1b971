import Paging.Text.Numeral

/-!
# Decimal numbers

A number in decimal is read digit by digit.  What `decimal` writes is read as the number it was
written for, so no two numbers are written alike.
-/

namespace Paging.Text

theorem digits_ne_nil (base n : Nat) : digits base n ≠ [] := by
  rw [digits]
  split <;> simp

theorem lt_of_mem_digits {base n d : Nat} (hbase : 2 ≤ base) (h : d ∈ digits base n) :
    d < base := by
  induction n using Nat.strongRecOn with
  | ind n ih =>
    rw [digits] at h
    split at h
    · next hsmall =>
      rw [List.mem_singleton] at h
      omega
    · rcases List.mem_append.mp h with h | h
      · exact ih (n / base) (Nat.div_lt_self (by omega) (by omega)) h
      · rw [List.mem_singleton] at h
        rw [h]
        exact Nat.mod_lt n (by omega)

/-- What is read of each digit that is written are the digits. -/
theorem map_map_digits {f : Nat → Char} {g : Char → Nat} {ds : List Nat}
    (h : ∀ d ∈ ds, g (f d) = d) : (ds.map f).map g = ds := by
  rw [List.map_map]
  exact (List.map_congr_left h).trans (List.map_id ds)

def isDecimalDigit (c : Char) : Bool := '0' ≤ c && c ≤ '9'

/-- The number that some text is in decimal, with any number of leading zeros. -/
def ofDecimal? (s : String) : Option Nat :=
  if s ≠ "" ∧ s.toList.all isDecimalDigit then
    some (ofDigits 10 (s.toList.map fun c => c.toNat - '0'.toNat))
  else none

theorem lowerDigit_decimal :
    ∀ d < 10, isDecimalDigit (lowerDigit d) = true ∧ (lowerDigit d).toNat - '0'.toNat = d := by
  decide

theorem toList_decimal (n : Nat) : (decimal n).toList = (digits 10 n).map lowerDigit := by
  rw [decimal, String.toList_ofList]

theorem isDecimalDigit_of_mem_decimal {n : Nat} {c : Char} (h : c ∈ (decimal n).toList) :
    isDecimalDigit c = true := by
  rw [toList_decimal] at h
  obtain ⟨d, hd, rfl⟩ := List.mem_map.mp h
  exact (lowerDigit_decimal d (lt_of_mem_digits (by omega) hd)).1

/-- **A number in decimal is read as that number.** -/
theorem ofDecimal?_decimal (n : Nat) : ofDecimal? (decimal n) = some n := by
  have hne : decimal n ≠ "" := by
    intro h
    have hlist := congrArg String.toList h
    rw [toList_decimal] at hlist
    exact digits_ne_nil 10 n (List.map_eq_nil_iff.mp hlist)
  have hall : (decimal n).toList.all isDecimalDigit = true :=
    List.all_eq_true.mpr fun c hc => isDecimalDigit_of_mem_decimal hc
  have hback : (decimal n).toList.map (fun c => c.toNat - '0'.toNat) = digits 10 n := by
    rw [toList_decimal]
    apply map_map_digits
    intro d hd
    exact (lowerDigit_decimal d (lt_of_mem_digits (by omega) hd)).2
  rw [ofDecimal?, if_pos ⟨hne, hall⟩, hback, ofDigits_digits]

theorem decimal_injective {m n : Nat} (h : decimal m = decimal n) : m = n := by
  have hm := ofDecimal?_decimal m
  rw [h, ofDecimal?_decimal] at hm
  exact (Option.some.inj hm).symm

end Paging.Text
