/-!
# Numerals

A number is written with the digits of some base, the highest first and no leading zeros but for
zero itself, which has the one digit `0`.  `binary` alone fills up with zeros to a least width.
-/

namespace Paging.Text

/-- The digits of `n` in base `base`, the highest first. -/
def digits (base n : Nat) : List Nat :=
  if n < base ∨ base < 2 then [n] else digits base (n / base) ++ [n % base]
termination_by n
decreasing_by exact Nat.div_lt_self (by omega) (by omega)

/-- The number that digits stand for, the highest first. -/
def ofDigits (base : Nat) (ds : List Nat) : Nat := ds.foldl (fun n d => n * base + d) 0

/-- The character of a digit, with the letters from `a` on for ten and above. -/
def lowerDigit (d : Nat) : Char := Char.ofNat (if d < 10 then 0x30 + d else 0x57 + d)

/-- The character of a digit, with the letters from `A` on for ten and above. -/
def upperDigit (d : Nat) : Char := Char.ofNat (if d < 10 then 0x30 + d else 0x37 + d)

def decimal (n : Nat) : String := String.ofList ((digits 10 n).map lowerDigit)

def hexLower (n : Nat) : String := String.ofList ((digits 16 n).map lowerDigit)

def hexUpper (n : Nat) : String := String.ofList ((digits 16 n).map upperDigit)

/-- The binary digits of `n`, with zeros in front up to `width` digits. -/
def binary (width n : Nat) : String :=
  let ds := digits 2 n
  String.ofList ((List.replicate (width - ds.length) 0 ++ ds).map lowerDigit)

theorem ofDigits_append (base : Nat) (ds : List Nat) (d : Nat) :
    ofDigits base (ds ++ [d]) = ofDigits base ds * base + d := by
  simp [ofDigits]

/-- Digits stand for the number they are the digits of. -/
theorem ofDigits_digits (base n : Nat) : ofDigits base (digits base n) = n := by
  induction n using Nat.strongRecOn with
  | ind n ih =>
    rw [digits]
    split
    · simp [ofDigits]
    · have hlt : n / base < n := Nat.div_lt_self (by omega) (by omega)
      rw [ofDigits_append, ih _ hlt]
      exact Nat.div_add_mod' n base

end Paging.Text
