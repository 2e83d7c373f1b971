import Paging.Proofs.Text.Numeral
import Paging.Proofs.Text.Trim

/-!
# Reading hexadecimal numbers

`parseHex` reads into 64 bits and keeps a value that no longer counts once a digit did not fit.
What a reading means is kept by one invariant: after some digits, `Tally.Holds` relates what has
been read to the number, without bound, that those digits stand for.  One digit keeps it
(`Tally.Holds.push`), and so does a run of digits (`Tally.Holds.read`).

With the grammar of `Numeral`, `parseHex_eq_ok_iff` says which texts are accepted and with which
value, and `parseHex_eq_error_iff` with which fault the others are refused.
-/

namespace Paging.Text

/-! ### One digit more -/

/-- Both checks together: a digit is taken in just if the number with it has at most 64 bits. -/
theorem checkedMul_bind_checkedAdd (v : UInt64) {d : Nat} (hd : d < 16) :
    (checkedMul v 16).bind (checkedAdd · (UInt64.ofNat d)) =
      if v.toNat * 16 + d < 2 ^ 64 then some (UInt64.ofNat (v.toNat * 16 + d)) else none := by
  have h16 : (16 : UInt64).toNat = 16 := rfl
  have hsize : (2 : Nat) ^ 64 = UInt64.size := rfl
  have hdn : (UInt64.ofNat d).toNat = d := UInt64.toNat_ofNat_of_lt' (by rw [UInt64.size]; omega)
  rw [hsize]
  by_cases hmul : v.toNat * 16 < UInt64.size
  · have hv : (v * 16).toNat = v.toNat * 16 := by
      rw [UInt64.toNat_mul, h16, Nat.mod_eq_of_lt hmul]
    rw [checkedMul, h16, if_pos hmul, Option.bind_some, checkedAdd, hv, hdn]
    split
    · next hadd =>
      congr 1
      apply UInt64.toNat_inj.mp
      rw [UInt64.toNat_add, hv, hdn, UInt64.toNat_ofNat_of_lt' hadd, Nat.mod_eq_of_lt hadd]
    · rfl
  · rw [checkedMul, h16, if_neg hmul, Option.bind_none, if_neg (by omega)]

namespace Tally

structure Holds (t : Tally) (ds : List Nat) : Prop where
  seen : t.seen = true ↔ ds ≠ []
  full : t.full = true ↔ 2 ^ 64 ≤ ofDigits 16 ds
  value : t.full = false → t.value.toNat = ofDigits 16 ds

theorem holds_start : start.Holds [] where
  seen := by simp [start]
  full := by simp [start, ofDigits]
  value := fun _ => rfl

theorem Holds.push {t : Tally} {ds : List Nat} {d : Nat} (h : t.Holds ds) (hd : d < 16) :
    (t.push d).Holds (ds ++ [d]) := by
  have hsum := ofDigits_append 16 ds d
  rw [Tally.push, checkedMul_bind_checkedAdd t.value hd]
  cases hf : t.full with
  | true =>
    have hbig := h.full.mp hf
    split
    · exact ⟨by simp, by simp; omega, by simp⟩
    · exact ⟨by simp, by simp; omega, by simp⟩
  | false =>
    have hv := h.value hf
    by_cases hfit : t.value.toNat * 16 + d < 2 ^ 64
    · rw [if_pos hfit]
      refine ⟨by simp, by simp; omega, fun _ => ?_⟩
      rw [hsum, ← hv]
      exact UInt64.toNat_ofNat_of_lt' hfit
    · rw [if_neg hfit]
      exact ⟨by simp, by simp; omega, by simp⟩

/-- **What a run of digits does to a tally**, whether or not they fit. -/
theorem Holds.read {t : Tally} {ds : List Nat} (h : t.Holds ds) {cs : List Char}
    (hcs : ∀ c ∈ cs, IsHexDigit c) :
    ∃ t', t.read cs = .ok t' ∧ t'.Holds (ds ++ cs.map digitValue) := by
  induction cs generalizing t ds with
  | nil => exact ⟨t, rfl, by simpa using h⟩
  | cons c cs ih =>
    have hc := hcs c List.mem_cons_self
    obtain ⟨t', hread, hholds⟩ :=
      ih (h.push (digitValue_lt hc)) (fun x hx => hcs x (List.mem_cons_of_mem c hx))
    refine ⟨t', ?_, by simpa using hholds⟩
    rw [Tally.read, hexDigit?_eq, if_pos hc]
    exact hread

/-- The first character that is no digit ends the reading, whatever the digits before it do. -/
theorem read_append_cons (t : Tally) {cs : List Char} {c : Char} (ds : List Char)
    (hcs : ∀ x ∈ cs, IsHexDigit x) (hc : ¬ IsHexDigit c) :
    t.read (cs ++ c :: ds) = .error (.badDigit c) := by
  induction cs generalizing t with
  | nil => rw [List.nil_append, Tally.read, hexDigit?_eq, if_neg hc]
  | cons x cs ih =>
    rw [List.cons_append, Tally.read, hexDigit?_eq, if_pos (hcs x List.mem_cons_self)]
    exact ih (t.push (digitValue x)) (fun y hy => hcs y (List.mem_cons_of_mem x hy))

theorem Holds.result {t : Tally} {ds : List Nat} (h : t.Holds ds) :
    t.result = if ds = [] then .error .noDigits
      else if ofDigits 16 ds < 2 ^ 64 then .ok (UInt64.ofNat (ofDigits 16 ds))
      else .error .tooLarge := by
  obtain ⟨value, seen, full⟩ := t
  have hseen := h.seen
  have hfull := h.full
  have hvalue := h.value
  simp only at hseen hfull hvalue
  cases seen with
  | false => rw [if_pos (by simpa using hseen)]; rfl
  | true =>
    rw [if_neg (hseen.mp rfl)]
    cases full with
    | true => rw [if_neg (by have := hfull.mp rfl; omega)]; rfl
    | false =>
      have hlt : ofDigits 16 ds < 2 ^ 64 := by
        by_contra hge
        exact Bool.false_ne_true (hfull.mpr (by omega))
      rw [if_pos hlt, ← hvalue rfl, UInt64.ofNat_toNat]
      rfl

end Tally

/-! ### Digits and underscores -/

def IsFirstStray (c : Char) (cs : List Char) : Prop :=
  ∃ l r, cs = l ++ c :: r ∧ (∀ x ∈ l, x = '_' ∨ IsHexDigit x) ∧ c ≠ '_' ∧ ¬ IsHexDigit c

theorem exists_isFirstStray_or (cs : List Char) :
    (∃ c, IsFirstStray c cs) ∨ ∀ c ∈ cs, c = '_' ∨ IsHexDigit c := by
  induction cs with
  | nil => exact Or.inr (by simp)
  | cons x cs ih =>
    by_cases hx : x = '_' ∨ IsHexDigit x
    · rcases ih with ⟨c, l, r, rfl, hl, hc⟩ | hall
      · exact Or.inl ⟨c, x :: l, r, rfl, List.forall_mem_cons.mpr ⟨hx, hl⟩, hc⟩
      · exact Or.inr (List.forall_mem_cons.mpr ⟨hx, hall⟩)
    · rw [not_or] at hx
      exact Or.inl ⟨x, [], cs, rfl, by simp, hx⟩

theorem IsFirstStray.not_forall {c : Char} {cs : List Char} (h : IsFirstStray c cs) :
    ¬ ∀ x ∈ cs, x = '_' ∨ IsHexDigit x := by
  obtain ⟨l, r, rfl, _, hu, hd⟩ := h
  intro hall
  rcases hall c (by simp) with hc | hc
  · exact hu hc
  · exact hd hc

theorem isHexDigit_of_mem_filter {cs : List Char} (hall : ∀ c ∈ cs, c = '_' ∨ IsHexDigit c) :
    ∀ c ∈ cs.filter (· ≠ '_'), IsHexDigit c := by
  intro c hc
  rw [List.mem_filter, decide_eq_true_iff] at hc
  exact (hall c hc.1).resolve_left hc.2

/-- Without the underscores nothing is left only of nothing, if none is misplaced. -/
theorem filter_underscore_eq_nil_iff {cs : List Char} (hm : ¬ Misplaced cs) :
    cs.filter (· ≠ '_') = [] ↔ cs = [] := by
  refine ⟨fun h => ?_, fun h => by rw [h]; rfl⟩
  cases cs with
  | nil => rfl
  | cons c cs =>
    have hc : c = '_' := by
      by_contra hne
      rw [List.filter_cons_of_pos (by simpa using hne)] at h
      exact List.cons_ne_nil _ _ h
    subst hc
    exact absurd (Or.inl ⟨cs, rfl⟩) hm

theorem parseDigits_of_misplaced {cs : List Char} (hm : Misplaced cs) :
    parseDigits cs = .error (.badDigit '_') := by
  rw [parseDigits, if_pos (misplacedUnderscore_iff.mpr hm)]

theorem parseDigits_of_isFirstStray {c : Char} {cs : List Char} (hm : ¬ Misplaced cs)
    (hc : IsFirstStray c cs) : parseDigits cs = .error (.badDigit c) := by
  obtain ⟨l, r, rfl, hl, hu, hd⟩ := hc
  rw [parseDigits, if_neg (misplacedUnderscore_iff.not.mpr hm), List.filter_append,
    List.filter_cons_of_pos (by simpa using hu),
    Tally.read_append_cons _ _ (isHexDigit_of_mem_filter hl) hd]
  rfl

theorem parseDigits_of_forall {cs : List Char} (hm : ¬ Misplaced cs)
    (hall : ∀ c ∈ cs, c = '_' ∨ IsHexDigit c) :
    parseDigits cs = if cs = [] then .error .noDigits
      else if numeralValue cs < 2 ^ 64 then .ok (UInt64.ofNat (numeralValue cs))
      else .error .tooLarge := by
  obtain ⟨t, hread, hholds⟩ := Tally.holds_start.read (isHexDigit_of_mem_filter hall)
  rw [List.nil_append] at hholds
  rw [parseDigits, if_neg (misplacedUnderscore_iff.not.mpr hm), hread]
  show t.result = _
  rw [hholds.result, ofDigits_map_digitValue]
  simp only [List.map_eq_nil_iff, filter_underscore_eq_nil_iff hm]

/-- **Digits are read just if they are a numeral of at most 64 bits**, and as its value. -/
theorem parseDigits_eq_ok_iff_numeral {cs : List Char} {v : UInt64} :
    parseDigits cs = .ok v ↔ Numeral cs ∧ numeralValue cs = v.toNat := by
  rw [numeral_iff]
  by_cases hm : Misplaced cs
  · simp [parseDigits_of_misplaced hm, hm]
  rcases exists_isFirstStray_or cs with ⟨c, hc⟩ | hall
  · simp [parseDigits_of_isFirstStray hm hc, hc.not_forall]
  · rw [parseDigits_of_forall hm hall]
    by_cases hne : cs = []
    · simp [hne]
    · rw [if_neg hne]
      by_cases hlt : numeralValue cs < 2 ^ 64
      · rw [if_pos hlt, Except.ok.injEq, ← UInt64.toNat_inj, UInt64.toNat_ofNat_of_lt' hlt]
        exact ⟨fun h => ⟨⟨hne, hm, hall⟩, h⟩, fun h => h.2⟩
      · rw [if_neg hlt]
        refine ⟨fun h => (nomatch h), fun h => ?_⟩
        have := v.toNat_lt
        omega

/-! ### Refusals -/

/-- The fault of a text without white space around it and without a mark.  Each cause counts only
where none of those before it is there. -/
inductive Refused (cs : List Char) : Fault → Prop
  | underscore (hm : Misplaced cs) : Refused cs (.badDigit '_')
  | stray {c : Char} (hm : ¬ Misplaced cs) (hc : IsFirstStray c cs) : Refused cs (.badDigit c)
  | empty (hm : ¬ Misplaced cs) (hall : ∀ c ∈ cs, c = '_' ∨ IsHexDigit c) (he : cs = []) :
      Refused cs .noDigits
  | tooLarge (hm : ¬ Misplaced cs) (hall : ∀ c ∈ cs, c = '_' ∨ IsHexDigit c) (he : cs ≠ [])
      (hv : 2 ^ 64 ≤ numeralValue cs) : Refused cs .tooLarge

theorem parseDigits_of_refused {cs : List Char} {f : Fault} (h : Refused cs f) :
    parseDigits cs = .error f := by
  cases h with
  | underscore hm => exact parseDigits_of_misplaced hm
  | stray hm hc => exact parseDigits_of_isFirstStray hm hc
  | empty hm hall he => rw [parseDigits_of_forall hm hall, if_pos he]
  | tooLarge hm hall he hv => rw [parseDigits_of_forall hm hall, if_neg he, if_neg (by omega)]

theorem refused_of_parseDigits {cs : List Char} {f : Fault} (h : parseDigits cs = .error f) :
    Refused cs f := by
  by_cases hm : Misplaced cs
  · rw [parseDigits_of_misplaced hm] at h
    cases h
    exact .underscore hm
  rcases exists_isFirstStray_or cs with ⟨c, hc⟩ | hall
  · rw [parseDigits_of_isFirstStray hm hc] at h
    cases h
    exact .stray hm hc
  · rw [parseDigits_of_forall hm hall] at h
    split at h
    · next he =>
      cases h
      exact .empty hm hall he
    · next he =>
      split at h
      · exact nomatch h
      · next hv =>
        cases h
        exact .tooLarge hm hall he (by omega)

/-! ### The text that is read -/

/-- `cs` is what follows the mark in front of `core`, or `core` itself where it has none. -/
inductive FollowsMark : List Char → List Char → Prop
  | lower (cs : List Char) : FollowsMark cs ('0' :: 'x' :: cs)
  | upper (cs : List Char) : FollowsMark cs ('0' :: 'X' :: cs)
  | unmarked {cs : List Char} (hl : ¬ ['0', 'x'] <+: cs) (hu : ¬ ['0', 'X'] <+: cs) :
      FollowsMark cs cs

theorem followsMark_iff {cs core : List Char} : FollowsMark cs core ↔ dropMark core = cs := by
  constructor
  · intro h
    cases h with
    | lower => rfl
    | upper => rfl
    | unmarked hl hu =>
      rw [dropMark]
      · rintro ds rfl
        exact hl ⟨ds, rfl⟩
      · rintro ds rfl
        exact hu ⟨ds, rfl⟩
  · rintro rfl
    fun_cases dropMark core with
    | case1 ds => exact .lower ds
    | case2 ds => exact .upper ds
    | case3 _ hl hu =>
      refine .unmarked ?_ ?_
      · rintro ⟨ds, hds⟩
        exact hl ds hds.symm
      · rintro ⟨ds, hds⟩
        exact hu ds hds.symm

/-- `cs` is the text without the white space at its ends and without one mark in front. -/
def IsBodyOf (cs : List Char) (text : String) : Prop :=
  ∃ core, IsTrimOf core text.toList ∧ FollowsMark cs core

theorem isBodyOf_iff {cs : List Char} {text : String} :
    IsBodyOf cs text ↔ dropMark (trim text.toList) = cs := by
  simp only [IsBodyOf, isTrimOf_iff, followsMark_iff, exists_eq_left']

/-- A text is trimmed where it is read, so it may as well have been trimmed before. -/
theorem parseHex_trimmed (text : String) : parseHex (trimmed text) = parseHex text := by
  rw [parseHex, parseHex, trimmed, String.toList_ofList, trim_trim]

/-- Reading a text never comes to the fault of an address. -/
theorem parseHex_ne_nonCanonical (text : String) : parseHex text ≠ .error .nonCanonical := by
  intro h
  nomatch refused_of_parseDigits h

/-- **A text is read as `v` just if its body is a numeral with the value `v`.**  So no value is
ever cut off or wrapped around, for any number of digits. -/
theorem parseHex_eq_ok_iff (text : String) (v : UInt64) :
    parseHex text = .ok v ↔
      ∃ cs, IsBodyOf cs text ∧ Numeral cs ∧ numeralValue cs = v.toNat := by
  simp only [isBodyOf_iff, exists_eq_left', parseHex]
  exact parseDigits_eq_ok_iff_numeral

/-- **A text is refused with the first fault of its body**, and never as an address. -/
theorem parseHex_eq_error_iff (text : String) :
    (∀ f, parseHex text = .error f ↔ ∃ cs, IsBodyOf cs text ∧ Refused cs f) ∧
      parseHex text ≠ .error .nonCanonical := by
  have hiff (f : Fault) : parseHex text = .error f ↔ Refused (dropMark (trim text.toList)) f :=
    ⟨refused_of_parseDigits, parseDigits_of_refused⟩
  refine ⟨fun f => ?_, fun h => ?_⟩
  · simp only [isBodyOf_iff, exists_eq_left']
    exact hiff f
  · nomatch (hiff .nonCanonical).mp h

-- The digits before the stray character are too many already.
example : parseHex "0x1_0000000000000000_g" = .error (.badDigit 'g') := by decide

end Paging.Text
