import Mathlib.Data.List.Forall2

/-!
# Letters in either case

A word is the same as another in any case, if each of its letters is the other's or its capital
(`InAnyCase`).  To compare with a word in small letters it is enough to make the letters small
(`map_toLower_eq_iff`).
-/

namespace Paging.Text

/-- Each letter of the word is a letter of `t`, small or capital. -/
def InAnyCase (word t : String) : Prop :=
  List.Forall₂ (fun c d => c = d ∨ c = d.toUpper) word.toList t.toList

theorem toNat_toLower (c : Char) :
    c.toLower.toNat = if 65 ≤ c.toNat ∧ c.toNat ≤ 90 then c.toNat + 32 else c.toNat := by
  unfold Char.toLower
  by_cases h : c.val ≥ 'A'.val ∧ c.val ≤ 'Z'.val
  · have hrange : 65 ≤ c.toNat ∧ c.toNat ≤ 90 := h
    rw [dif_pos h, if_pos hrange]
    show (c.val + 32).toNat = _
    rw [UInt32.toNat_add]
    show (c.toNat + 32) % _ = _
    omega
  · have hrange : ¬ (65 ≤ c.toNat ∧ c.toNat ≤ 90) := h
    rw [dif_neg h, if_neg hrange]

theorem toNat_toUpper (c : Char) :
    c.toUpper.toNat = if 97 ≤ c.toNat ∧ c.toNat ≤ 122 then c.toNat - 32 else c.toNat := by
  unfold Char.toUpper
  by_cases h : 'a'.val ≤ c.val ∧ c.val ≤ 'z'.val
  · have hrange : 97 ≤ c.toNat ∧ c.toNat ≤ 122 := h
    rw [dif_pos h, if_pos hrange]
    -- The difference of the two cases is negative, so it is added as a word.
    show (c.val + 0xFFFFFFE0).toNat = _
    rw [UInt32.toNat_add]
    show (c.toNat + 0xFFFFFFE0) % _ = _
    omega
  · have hrange : ¬ (97 ≤ c.toNat ∧ c.toNat ≤ 122) := h
    rw [dif_neg h, if_neg hrange]

theorem toLower_eq_iff {c d : Char} (hd : d.toLower = d) :
    c.toLower = d ↔ c = d ∨ c = d.toUpper := by
  have hsmall : ¬ (65 ≤ d.toNat ∧ d.toNat ≤ 90) := by
    intro h
    have hd := congrArg Char.toNat hd
    rw [toNat_toLower, if_pos h] at hd
    omega
  rw [← Char.toNat_inj, ← Char.toNat_inj, ← Char.toNat_inj, toNat_toLower, toNat_toUpper]
  by_cases hc : 65 ≤ c.toNat ∧ c.toNat ≤ 90
  · rw [if_pos hc]
    split <;> omega
  · rw [if_neg hc]
    split <;> omega

theorem map_toLower_eq_iff_forall₂ {cs ds : List Char} (hds : ∀ d ∈ ds, d.toLower = d) :
    cs.map Char.toLower = ds ↔ List.Forall₂ (fun c d => c = d ∨ c = d.toUpper) cs ds := by
  induction ds generalizing cs with
  | nil => rw [List.forall₂_nil_right_iff, List.map_eq_nil_iff]
  | cons d ds ih =>
    have hrest := fun x hx => hds x (List.mem_cons_of_mem d hx)
    cases cs with
    | nil => simp
    | cons c cs =>
      rw [List.map_cons, List.cons.injEq, List.forall₂_cons, ih hrest,
        toLower_eq_iff (hds d List.mem_cons_self)]

/-- **Words are compared in any case** by making the letters small. -/
theorem map_toLower_eq_iff {word t : String} (ht : ∀ d ∈ t.toList, d.toLower = d) :
    String.ofList (word.toList.map Char.toLower) = t ↔ InAnyCase word t := by
  rw [← String.toList_inj, String.toList_ofList]
  exact map_toLower_eq_iff_forall₂ ht

end Paging.Text
