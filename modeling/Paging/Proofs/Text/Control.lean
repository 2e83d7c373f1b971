import Mathlib.Data.List.Basic
import Mathlib.Tactic.SplitIfs
import Paging.Fault
import Paging.Flags
import Paging.Proofs.Text.Decimal

/-!
# Control characters in texts

Numbers, flags and quoted characters are written without any control character.  A quoted form shows
such a character by a letter or by its code point (`isControl_of_mem_escape`), so a fault is told
without one whatever character it is about (`noControl_message`).  Texts in lines (`IsLines`) are
put together from texts without control characters and the line feeds after them.
-/

namespace Paging.Text

def NoControl (s : String) : Prop := ∀ c ∈ s.toList, isControl c = false

-- The instance is named: one over all characters would apply as well, and go through them all.
instance (s : String) : Decidable (NoControl s) := List.decidableBAll _ s.toList

theorem NoControl.append {s t : String} (hs : NoControl s) (ht : NoControl t) :
    NoControl (s ++ t) := by
  rw [NoControl, String.toList_append, List.forall_mem_append]
  exact ⟨hs, ht⟩

/-! ### Numbers and flags -/

theorem isControl_lowerDigit : ∀ d < 16, isControl (lowerDigit d) = false := by decide

theorem isControl_upperDigit : ∀ d < 16, isControl (upperDigit d) = false := by decide

theorem noControl_map_digits {f : Nat → Char} (hf : ∀ d < 16, isControl (f d) = false)
    {base : Nat} (h2 : 2 ≤ base) (h16 : base ≤ 16) (n : Nat) :
    NoControl (String.ofList ((digits base n).map f)) := by
  intro c hc
  rw [String.toList_ofList] at hc
  obtain ⟨d, hd, rfl⟩ := List.mem_map.mp hc
  have hlt := lt_of_mem_digits h2 hd
  exact hf d (by omega)

theorem noControl_decimal (n : Nat) : NoControl (decimal n) :=
  noControl_map_digits isControl_lowerDigit (by decide) (by decide) n

theorem noControl_hexLower (n : Nat) : NoControl (hexLower n) :=
  noControl_map_digits isControl_lowerDigit (by decide) (by decide) n

theorem noControl_hexUpper (n : Nat) : NoControl (hexUpper n) :=
  noControl_map_digits isControl_upperDigit (by decide) (by decide) n

theorem noControl_binary (width n : Nat) : NoControl (binary width n) := by
  have hzero : NoControl (String.ofList
      ((List.replicate (width - (digits 2 n).length) 0).map lowerDigit)) := by
    intro c hc
    rw [String.toList_ofList, List.map_replicate] at hc
    rw [List.eq_of_mem_replicate hc]
    decide
  have hdigits := noControl_map_digits isControl_lowerDigit (Nat.le_refl 2) (by decide) n
  rw [binary, List.map_append, String.ofList_append]
  exact hzero.append hdigits

theorem noControl_flags (a : Flags) : NoControl a.text := by
  intro c hc
  rw [Flags.text, String.toList_ofList] at hc
  obtain ⟨f, _, rfl⟩ := List.mem_map.mp hc
  rw [Flags.letter]
  split
  · cases f <;> rfl
  · rfl

/-! ### Quoted characters -/

/-- **No control character is shown as itself.** -/
theorem isControl_of_mem_escape {quote c d : Char} (hquote : isControl quote = false)
    (h : d ∈ escape quote c) : isControl d = false := by
  rw [escape] at h
  split_ifs at h with h0 ht hn hr hs hb
  · rcases List.mem_pair.mp h with rfl | rfl <;> decide
  · rcases List.mem_pair.mp h with rfl | rfl <;> decide
  · rcases List.mem_pair.mp h with rfl | rfl <;> decide
  · rcases List.mem_pair.mp h with rfl | rfl <;> decide
  · rcases List.mem_cons.mp h with rfl | h
    · decide
    · rw [List.mem_singleton.mp h]
      rcases hs with rfl | rfl
      · decide
      · exact hquote
  · rw [byCodePoint, List.mem_append, List.mem_append] at h
    rcases h with (h | h) | h
    · rcases List.mem_cons.mp h with rfl | h
      · decide
      · rcases List.mem_pair.mp h with rfl | rfl <;> decide
    · exact noControl_hexLower c.toNat d (by rwa [hexLower, String.toList_ofList])
    · rw [List.mem_singleton.mp h]
      decide
  · rw [List.mem_singleton.mp h]
    rw [isBlind, Bool.or_eq_true, Bool.or_eq_true, not_or, not_or] at hb
    exact Bool.eq_false_iff.mpr hb.1.1

theorem noControl_quotedChar (c : Char) : NoControl (quotedChar c) := by
  intro d hd
  rw [quotedChar, String.toList_ofList] at hd
  simp only [List.mem_append, List.mem_singleton] at hd
  rcases hd with (rfl | hd) | rfl
  · decide
  · exact isControl_of_mem_escape (by decide) hd
  · decide

/-- **Every fault is told without control characters**, also the one about such a character. -/
theorem noControl_message (f : Fault) : NoControl f.message := by
  cases f with
  | noDigits => decide
  | badDigit c => exact NoControl.append (by decide) (noControl_quotedChar c)
  | tooLarge => decide
  | nonCanonical => decide

/-! ### Texts in lines -/

def OnlyBreaks (s : String) : Prop :=
  ∀ c ∈ s.toList, c.toNat ≤ 0x1F ∨ 0x7F ≤ c.toNat ∧ c.toNat ≤ 0x9F → c = '\t' ∨ c = '\n'

instance (s : String) : Decidable (OnlyBreaks s) := List.decidableBAll _ s.toList

theorem NoControl.onlyBreaks {s : String} (h : NoControl s) : OnlyBreaks s := by
  intro c hc hcontrol
  have hc' := h c hc
  simp only [isControl, Bool.or_eq_false_iff, Bool.and_eq_false_iff, decide_eq_false_iff_not] at hc'
  omega

theorem OnlyBreaks.append {s t : String} (hs : OnlyBreaks s) (ht : OnlyBreaks t) :
    OnlyBreaks (s ++ t) := by
  rw [OnlyBreaks, String.toList_append, List.forall_mem_append]
  exact ⟨hs, ht⟩

/-- The text consists of so many lines.  Each ends in a line feed and has no control character
ahead of it. -/
inductive IsLines : Nat → String → Prop
  | nil : IsLines 0 ""
  | cons {n : Nat} {s t : String} (hs : NoControl s) (ht : IsLines n t) :
      IsLines (n + 1) (s ++ "\n" ++ t)

namespace IsLines

theorem one {s : String} (hs : NoControl s) : IsLines 1 (s ++ "\n") := by
  have h := cons hs nil
  rwa [String.append_empty] at h

theorem append {m n : Nat} {s t : String} (hs : IsLines m s) (ht : IsLines n t) :
    IsLines (m + n) (s ++ t) := by
  induction hs with
  | nil => rwa [Nat.zero_add, String.empty_append]
  | cons hs _ ih =>
    rw [String.append_assoc, Nat.add_right_comm]
    exact cons hs ih

theorem onlyBreaks {n : Nat} {t : String} (h : IsLines n t) : OnlyBreaks t := by
  induction h with
  | nil => decide
  | cons hs _ ih => exact (hs.onlyBreaks.append (by decide)).append ih

end IsLines

structure IsLine (start t : String) : Prop where
  lines : IsLines 1 t
  starts : start.toList <+: t.toList

end Paging.Text
