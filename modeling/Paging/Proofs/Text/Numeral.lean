import Mathlib.Data.Nat.Digits.Defs
import Mathlib.Data.List.Infix
import Paging.Text.Hexadecimal
import Paging.Text.Numeral

/-!
# Hexadecimal numerals

The grammar of a hexadecimal number and the number that it stands for, both without the reader: a
numeral is a run of digits, or several of them with one underscore between each two (`Numeral`),
and its value counts the digits alone, without bound (`numeralValue`).

The reader has no grammar.  It looks for underscores in a wrong place first and for characters that
are no digits later.  `numeral_iff` says that both together leave the numerals and nothing else.
-/

namespace Paging.Text

/-! ### Digits -/

def hexAlphabet : List Char :=
  ['0', '1', '2', '3', '4', '5', '6', '7', '8', '9', 'a', 'b', 'c', 'd', 'e', 'f']

def IsHexDigit (c : Char) : Prop := c.toLower ∈ hexAlphabet

instance : DecidablePred IsHexDigit :=
  fun c => inferInstanceAs (Decidable (c.toLower ∈ hexAlphabet))

def digitValue (c : Char) : Nat := hexAlphabet.idxOf c.toLower

theorem IsHexDigit.toNat_lt {c : Char} (h : IsHexDigit c) : c.toNat < 128 := by
  by_contra hge
  have hself : c.toLower = c := by
    refine dif_neg fun hup => ?_
    have hle := UInt32.le_iff_toNat_le.mp hup.2
    exact hge (Nat.lt_of_le_of_lt hle (by decide))
  have hsmall : ∀ x ∈ hexAlphabet, x.toNat < 128 := by simp [hexAlphabet]
  exact hge (hself ▸ hsmall _ h)

theorem hexDigit?_of_toNat_ge {c : Char} (h : 128 ≤ c.toNat) : hexDigit? c = none := by
  have hnot (d : Char) (hd : d.toNat < 128) : ¬ c ≤ d := by
    intro hle
    have := UInt32.le_iff_toNat_le.mp (Char.le_def.mp hle)
    have hc : c.toNat = c.val.toNat := rfl
    have hd' : d.toNat = d.val.toNat := rfl
    omega
  rw [hexDigit?, if_neg (fun h => hnot '9' (by decide) h.2),
    if_neg (fun h => hnot 'f' (by decide) h.2), if_neg (fun h => hnot 'F' (by decide) h.2)]

/-- The reader of a single digit knows the digits, and each by its place in the alphabet. -/
theorem hexDigit?_eq (c : Char) :
    hexDigit? c = if IsHexDigit c then some (digitValue c) else none := by
  by_cases hc : c.toNat < 128
  · have hascii : ∀ n < 128, hexDigit? (Char.ofNat n) =
        if IsHexDigit (Char.ofNat n) then some (digitValue (Char.ofNat n)) else none := by
      decide +kernel
    have h := hascii c.toNat hc
    rwa [Char.ofNat_toNat] at h
  · rw [hexDigit?_of_toNat_ge (by omega), if_neg (fun h => hc h.toNat_lt)]

theorem digitValue_lt {c : Char} (h : IsHexDigit c) : digitValue c < 16 :=
  List.idxOf_lt_length_iff.mpr h

theorem not_isHexDigit_underscore : ¬ IsHexDigit '_' := by decide

theorem IsHexDigit.ne_underscore {c : Char} (h : IsHexDigit c) : c ≠ '_' := by
  rintro rfl
  exact not_isHexDigit_underscore h

/-! ### Values -/

def numeralValue (cs : List Char) : Nat :=
  Nat.ofDigits 16 ((cs.filter (· ≠ '_')).map digitValue).reverse

theorem ofDigits_eq_reverse (base : Nat) (ds : List Nat) :
    ofDigits base ds = Nat.ofDigits base ds.reverse := by
  induction ds using List.reverseRecOn with
  | nil => rfl
  | append_singleton ds d ih =>
    rw [ofDigits_append, List.reverse_append, List.reverse_singleton, List.singleton_append,
      Nat.ofDigits_cons, ih, Nat.add_comm, Nat.mul_comm]

theorem ofDigits_map_digitValue (cs : List Char) :
    ofDigits 16 ((cs.filter (· ≠ '_')).map digitValue) = numeralValue cs :=
  ofDigits_eq_reverse 16 _

/-! ### Underscores -/

def Misplaced (cs : List Char) : Prop :=
  ['_'] <+: cs ∨ ['_'] <:+ cs ∨ ['_', '_'] <:+: cs

theorem hasDoubleUnderscore_iff {cs : List Char} :
    hasDoubleUnderscore cs = true ↔ ['_', '_'] <:+: cs := by
  fun_induction hasDoubleUnderscore cs with
  | case1 cs => exact iff_of_true rfl ⟨[], cs, rfl⟩
  | case2 c cs hne ih =>
    rw [ih, List.infix_cons_iff]
    refine ⟨Or.inr, fun h => ?_⟩
    rcases h with ⟨r, hr⟩ | h
    · rw [List.cons_append, List.cons.injEq] at hr
      exact (hne r hr.1.symm hr.2.symm).elim
    · exact h
  | case3 => simp

theorem misplacedUnderscore_iff {cs : List Char} :
    misplacedUnderscore cs = true ↔ Misplaced cs := by
  rw [misplacedUnderscore, Bool.or_eq_true, Bool.or_eq_true, hasDoubleUnderscore_iff, beq_iff_eq,
    beq_iff_eq, or_assoc, Misplaced, List.singleton_prefix_iff_head?_eq_some,
    List.singleton_suffix_iff_getLast?_eq_some]

theorem not_misplaced_singleton {c : Char} (hc : c ≠ '_') : ¬ Misplaced [c] := by
  rw [← misplacedUnderscore_iff]
  simp [misplacedUnderscore, hasDoubleUnderscore, hc]

/-- A digit in front of another character than an underscore changes nothing. -/
theorem misplaced_cons_cons_iff {c d : Char} {cs : List Char} (hc : c ≠ '_') (hd : d ≠ '_') :
    Misplaced (c :: d :: cs) ↔ Misplaced (d :: cs) := by
  simp only [Misplaced, List.suffix_cons_iff (a := c), List.infix_cons_iff (a := c),
    List.cons_prefix_cons, hc.symm, hd.symm]
  simp

/-- Nor do a digit and an underscore in front of something. -/
theorem misplaced_cons_underscore_iff {c : Char} {cs : List Char} (hc : c ≠ '_') (hcs : cs ≠ []) :
    Misplaced (c :: '_' :: cs) ↔ Misplaced cs := by
  simp only [Misplaced, List.suffix_cons_iff, List.infix_cons_iff, List.cons_prefix_cons, hc.symm]
  simp only [List.cons.injEq, List.cons_ne_nil, and_false, false_and, false_or, hcs, true_and,
    List.nil_eq]
  exact or_left_comm

/-! ### The grammar -/

def DigitRun (cs : List Char) : Prop := cs ≠ [] ∧ ∀ c ∈ cs, IsHexDigit c

/-- Runs of digits with one underscore between each two. -/
inductive Numeral : List Char → Prop
  | run {cs : List Char} (h : DigitRun cs) : Numeral cs
  | group {cs ds : List Char} (h : DigitRun cs) (hs : Numeral ds) : Numeral (cs ++ '_' :: ds)

theorem DigitRun.singleton {c : Char} (h : IsHexDigit c) : DigitRun [c] :=
  ⟨by simp, by simpa using h⟩

theorem DigitRun.cons {c : Char} {cs : List Char} (h : IsHexDigit c) (hs : DigitRun cs) :
    DigitRun (c :: cs) :=
  ⟨by simp, by simpa using ⟨h, hs.2⟩⟩

theorem Numeral.ne_nil {cs : List Char} (h : Numeral cs) : cs ≠ [] := by
  cases h with
  | run h => exact h.1
  | group h hs => simp

/-- A numeral with a digit more in front is a numeral. -/
theorem Numeral.cons {c : Char} {cs : List Char} (h : IsHexDigit c) (hs : Numeral cs) :
    Numeral (c :: cs) := by
  cases hs with
  | run hs => exact .run (hs.cons h)
  | group hs hds => exact .group (hs.cons h) hds

/-- A digit and an underscore may stand in front of a numeral. -/
theorem Numeral.cons_underscore {c : Char} {cs : List Char} (h : IsHexDigit c) (hs : Numeral cs) :
    Numeral (c :: '_' :: cs) := .group (.singleton h) hs

/-- Every numeral comes about from its last digit by putting a digit in front, or a digit and an
underscore. -/
theorem Numeral.induction {P : ∀ cs, Numeral cs → Prop}
    (one : ∀ c (hc : IsHexDigit c), P [c] (.run (.singleton hc)))
    (digit : ∀ c cs (hc : IsHexDigit c) (hs : Numeral cs), P cs hs → P (c :: cs) (hs.cons hc))
    (underscore : ∀ c cs (hc : IsHexDigit c) (hs : Numeral cs), P cs hs →
      P (c :: '_' :: cs) (hs.cons_underscore hc))
    {cs : List Char} (h : Numeral cs) : P cs h := by
  induction h with
  | @run cs h =>
    induction cs with
    | nil => exact absurd rfl h.1
    | cons c cs ih =>
      have hc := h.2 c List.mem_cons_self
      by_cases hcs : cs = []
      · subst hcs
        exact one c hc
      · have hrun : DigitRun cs := ⟨hcs, fun x hx => h.2 x (List.mem_cons_of_mem c hx)⟩
        exact digit c cs hc (.run hrun) (ih hrun)
  | @group cs ds h hs ihs =>
    induction cs with
    | nil => exact absurd rfl h.1
    | cons c cs ih =>
      have hc := h.2 c List.mem_cons_self
      by_cases hcs : cs = []
      · subst hcs
        exact underscore c ds hc hs ihs
      · have hrun : DigitRun cs := ⟨hcs, fun x hx => h.2 x (List.mem_cons_of_mem c hx)⟩
        exact digit c _ hc (.group hrun hs) (ih hrun)

theorem Numeral.forall_mem {cs : List Char} (h : Numeral cs) :
    ∀ c ∈ cs, c = '_' ∨ IsHexDigit c := by
  induction h using Numeral.induction with
  | one c hc => simpa using Or.inr hc
  | digit c cs hc _ ih => exact List.forall_mem_cons.mpr ⟨Or.inr hc, ih⟩
  | underscore c cs hc _ ih =>
    exact List.forall_mem_cons.mpr ⟨Or.inr hc, List.forall_mem_cons.mpr ⟨Or.inl rfl, ih⟩⟩

theorem Numeral.not_misplaced {cs : List Char} (h : Numeral cs) : ¬ Misplaced cs := by
  induction h using Numeral.induction with
  | one c hc => exact not_misplaced_singleton hc.ne_underscore
  | digit c cs hc hs ih =>
    obtain ⟨d, ds, rfl⟩ := List.exists_cons_of_ne_nil hs.ne_nil
    have hd : d ≠ '_' := by
      rintro rfl
      exact ih (Or.inl ⟨ds, rfl⟩)
    rwa [misplaced_cons_cons_iff hc.ne_underscore hd]
  | underscore c cs hc hs ih => rwa [misplaced_cons_underscore_iff hc.ne_underscore hs.ne_nil]

theorem numeral_of_not_misplaced {cs : List Char} (hne : cs ≠ []) (hm : ¬ Misplaced cs)
    (hall : ∀ c ∈ cs, c = '_' ∨ IsHexDigit c) : Numeral cs := by
  induction hn : cs.length using Nat.strong_induction_on generalizing cs with
  | _ n ih =>
    obtain ⟨c, cs, rfl⟩ := List.exists_cons_of_ne_nil hne
    have hcu : c ≠ '_' := by
      rintro rfl
      exact hm (Or.inl ⟨cs, rfl⟩)
    have hc : IsHexDigit c := (hall c List.mem_cons_self).resolve_left hcu
    cases cs with
    | nil => exact .run (.singleton hc)
    | cons d ds =>
      by_cases hd : d = '_'
      · subst hd
        have hds : ds ≠ [] := by
          rintro rfl
          exact hm (Or.inr (Or.inl ⟨[c], rfl⟩))
        rw [misplaced_cons_underscore_iff hcu hds] at hm
        refine .cons_underscore hc (ih ds.length ?_ hds hm (fun x hx => ?_) rfl)
        · rw [← hn]
          simp only [List.length_cons]
          omega
        · exact hall x (by simp [hx])
      · rw [misplaced_cons_cons_iff hcu hd] at hm
        refine .cons hc (ih (d :: ds).length ?_ (by simp) hm (fun x hx => ?_) rfl)
        · rw [← hn]
          simp only [List.length_cons]
          omega
        · exact hall x (List.mem_cons_of_mem c hx)

/-- **The numerals are the texts with no misplaced underscore and no character that is neither an
underscore nor a digit**, but for the empty one. -/
theorem numeral_iff {cs : List Char} :
    Numeral cs ↔ cs ≠ [] ∧ ¬ Misplaced cs ∧ ∀ c ∈ cs, c = '_' ∨ IsHexDigit c :=
  ⟨fun h => ⟨h.ne_nil, h.not_misplaced, h.forall_mem⟩,
    fun h => numeral_of_not_misplaced h.1 h.2.1 h.2.2⟩

end Paging.Text
