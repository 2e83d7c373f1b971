import Mathlib.Data.Nat.Bitwise

/-!
# Fields of a word

A field of a word is read by a shift and a mask, and put in place by a mask and a shift.  Here both
are told in numbers: reading divides and takes a remainder, putting in place multiplies, and fields
that do not overlap add up.  Numbers made of fields are compared field by field, the highest first
(`compare_mul_add`).
-/

namespace Paging.Word

/-! ### Reading and putting in place -/

theorem toNat_shiftRight (x : UInt64) {shift : UInt64} {k : Nat} (hs : shift.toNat = k)
    (hk : k < 64) : (x >>> shift).toNat = x.toNat / 2 ^ k := by
  rw [UInt64.toNat_shiftRight, hs, Nat.mod_eq_of_lt hk, Nat.shiftRight_eq_div_pow]

/-- A shift to the left leaves out the highest bits. -/
theorem toNat_shiftLeft (x : UInt64) {shift : UInt64} {k : Nat} (hs : shift.toNat = k)
    (hk : k < 64) : (x <<< shift).toNat = x.toNat % 2 ^ (64 - k) * 2 ^ k := by
  have hsize : 2 ^ 64 = 2 ^ (64 - k) * 2 ^ k := by rw [← Nat.pow_add, Nat.sub_add_cancel hk.le]
  rw [UInt64.toNat_shiftLeft, hs, Nat.mod_eq_of_lt hk, Nat.shiftLeft_eq, hsize,
    Nat.mul_mod_mul_right]

theorem toNat_mask (x : UInt64) {mask : UInt64} {w : Nat} (hm : mask.toNat = 2 ^ w - 1) :
    (x &&& mask).toNat = x.toNat % 2 ^ w := by
  rw [UInt64.toNat_and, hm, Nat.and_two_pow_sub_one_eq_mod]

/-- **Reading a field.**  It has `w` bits, from bit `k` on. -/
theorem toNat_field (x : UInt64) {shift mask : UInt64} {k w : Nat} (hs : shift.toNat = k)
    (hm : mask.toNat = 2 ^ w - 1) (hk : k < 64) :
    ((x >>> shift) &&& mask).toNat = x.toNat / 2 ^ k % 2 ^ w := by
  rw [toNat_mask _ hm, toNat_shiftRight x hs hk]

/-- **Putting a field in place.**  Bits that do not fit it are left out. -/
theorem toNat_place (x : UInt64) {shift mask : UInt64} {k w : Nat} (hs : shift.toNat = k)
    (hm : mask.toNat = 2 ^ w - 1) (hk : k < 64) (hfit : k + w ≤ 64) :
    ((x &&& mask) <<< shift).toNat = x.toNat % 2 ^ w * 2 ^ k := by
  have hlt : x.toNat % 2 ^ w < 2 ^ (64 - k) := (Nat.mod_lt _ (Nat.two_pow_pos w)).trans_le
    (Nat.pow_le_pow_right (by decide) (by omega))
  rw [toNat_shiftLeft _ hs hk, toNat_mask x hm, Nat.mod_eq_of_lt hlt]

/-- A number below the lowest bit of a field is added to it. -/
theorem mul_two_pow_or {b k : Nat} (hb : b < 2 ^ k) (a : Nat) :
    a * 2 ^ k ||| b = a * 2 ^ k + b := by
  rw [← Nat.shiftLeft_eq, Nat.shiftLeft_add_eq_or_of_lt hb]

/-! ### Bits -/

def SameBits (lo hi m n : Nat) : Prop :=
  ∀ i, lo ≤ i → i < hi → m.testBit i = n.testBit i

theorem sameBits_iff {lo hi m n : Nat} :
    SameBits lo hi m n ↔ m / 2 ^ lo % 2 ^ (hi - lo) = n / 2 ^ lo % 2 ^ (hi - lo) := by
  constructor
  · intro h
    apply Nat.eq_of_testBit_eq
    intro i
    rw [Nat.testBit_mod_two_pow, Nat.testBit_mod_two_pow, Nat.testBit_div_two_pow,
      Nat.testBit_div_two_pow]
    by_cases hin : i < hi - lo
    · rw [h (i + lo) (by omega) (by omega)]
    · rw [decide_eq_false hin, Bool.false_and, Bool.false_and]
  · intro h i hlo hhi
    have hbit := congrArg (Nat.testBit · (i - lo)) h
    rwa [Nat.testBit_mod_two_pow, Nat.testBit_mod_two_pow, Nat.testBit_div_two_pow,
      Nat.testBit_div_two_pow, Nat.sub_add_cancel hlo, decide_eq_true (by omega), Bool.true_and,
      Bool.true_and] at hbit

/-- All bits of a number are like its lowest just if it is zero or has all of them set. -/
theorem forall_testBit_eq_iff {n w : Nat} (hn : n < 2 ^ (w + 1)) :
    (∀ i, 0 < i → i < w + 1 → n.testBit i = n.testBit 0) ↔ n = 0 ∨ n = 2 ^ (w + 1) - 1 := by
  have hhigh (i : Nat) (hi : ¬ i < w + 1) : n.testBit i = false :=
    Nat.testBit_lt_two_pow (hn.trans_le (Nat.pow_le_pow_right (by decide) (by omega)))
  constructor
  · intro h
    have hall (i : Nat) (hi : i < w + 1) : n.testBit i = n.testBit 0 := by
      rcases Nat.eq_zero_or_pos i with rfl | hpos
      · rfl
      · exact h i hpos hi
    cases h0 : n.testBit 0 with
    | false =>
      left
      apply Nat.eq_of_testBit_eq
      intro i
      rw [Nat.zero_testBit]
      by_cases hi : i < w + 1
      · rw [hall i hi, h0]
      · exact hhigh i hi
    | true =>
      right
      apply Nat.eq_of_testBit_eq
      intro i
      rw [Nat.testBit_two_pow_sub_one]
      by_cases hi : i < w + 1
      · rw [hall i hi, h0, decide_eq_true hi]
      · rw [hhigh i hi, decide_eq_false hi]
  · rintro (rfl | rfl) i _ hi
    · rw [Nat.zero_testBit, Nat.zero_testBit]
    · rw [Nat.testBit_two_pow_sub_one, Nat.testBit_two_pow_sub_one, decide_eq_true hi,
        decide_eq_true (Nat.succ_pos w)]

/-! ### Comparing -/

theorem compare_congr {m n m' n' : Nat} (h : m < n ↔ m' < n') (h' : n < m ↔ n' < m') :
    compare m n = compare m' n' := by
  simp only [Nat.compare_eq_ite_lt, h, h']

/-- **Numbers made of two fields** are compared by the higher one first. -/
theorem compare_mul_add {m a b a' b' : Nat} (hb : b < m) (hb' : b' < m) :
    compare (a * m + b) (a' * m + b') = (compare a a').then (compare b b') := by
  rcases Nat.lt_trichotomy a a' with hlt | rfl | hgt
  · have hnext : (a + 1) * m ≤ a' * m := Nat.mul_le_mul_right m hlt
    rw [Nat.succ_mul] at hnext
    rw [Nat.compare_eq_lt.mpr hlt, Nat.compare_eq_lt.mpr (by omega)]
    rfl
  · rw [Nat.compare_eq_eq.mpr rfl, Ordering.eq_then]
    exact compare_congr (by omega) (by omega)
  · have hnext : (a' + 1) * m ≤ a * m := Nat.mul_le_mul_right m hgt
    rw [Nat.succ_mul] at hnext
    rw [Nat.compare_eq_gt.mpr hgt, Nat.compare_eq_gt.mpr (by omega)]
    rfl

/-- The order that a type of words has of its own is that of the numbers. -/
theorem compareOfLessAndEq_eq {α : Type} [LT α] [DecidableLT α] [DecidableEq α] {f : α → Nat}
    (hlt : ∀ {x y : α}, x < y ↔ f x < f y) (heq : ∀ {x y : α}, f x = f y ↔ x = y) (x y : α) :
    compareOfLessAndEq x y = compare (f x) (f y) := by
  show compareOfLessAndEq x y = compareOfLessAndEq (f x) (f y)
  simp only [compareOfLessAndEq, hlt, heq]

theorem compare_uint64 (x y : UInt64) : compare x y = compare x.toNat y.toNat :=
  compareOfLessAndEq_eq UInt64.lt_iff_toNat_lt UInt64.toNat_inj x y

theorem compare_uint16 (x y : UInt16) : compare x y = compare x.toNat y.toNat :=
  compareOfLessAndEq_eq UInt16.lt_iff_toNat_lt UInt16.toNat_inj x y

end Paging.Word
