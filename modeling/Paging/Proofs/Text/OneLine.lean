import Paging.Proofs.Text.Control
import Paging.Proofs.Text.Lines
import Paging.Proofs.Text.Utf8
import Paging.Text.Terminal

/-!
# Texts in one line

A text without a line feed is a line of its own.  Texts without control characters have none, and so
no fault does when it is told (`isOneLine_message`).  In UTF-8 the byte of the line feed belongs to
that character alone, so a text in one line is read as one (`isFullLine_encode`).
-/

namespace Paging.Text

def IsOneLine (s : String) : Prop := '\n' ∉ s.toList

instance (s : String) : Decidable (IsOneLine s) :=
  inferInstanceAs (Decidable ('\n' ∉ s.toList))

theorem IsOneLine.append {s t : String} (hs : IsOneLine s) (ht : IsOneLine t) :
    IsOneLine (s ++ t) := by
  rw [IsOneLine, String.toList_append, List.mem_append, not_or]
  exact ⟨hs, ht⟩

theorem isOneLine_intercalate {sep : String} {ss : List String} (hsep : IsOneLine sep)
    (h : ∀ s ∈ ss, IsOneLine s) : IsOneLine (sep.intercalate ss) := by
  induction ss with
  | nil => exact List.not_mem_nil
  | cons s ss ih =>
    have hs : IsOneLine s := h s List.mem_cons_self
    have hss := ih (fun t ht => h t (List.mem_cons_of_mem s ht))
    cases ss with
    | nil => rwa [String.intercalate_singleton]
    | cons t ts =>
      rw [String.intercalate_cons_cons]
      exact (hs.append hsep).append hss

/-! ### Numbers and faults -/

/-- A line feed is a control character. -/
theorem NoControl.isOneLine {s : String} (h : NoControl s) : IsOneLine s := by
  intro hmem
  cases h '\n' hmem

theorem isOneLine_hexLower (n : Nat) : IsOneLine (hexLower n) := (noControl_hexLower n).isOneLine

/-- **Every fault is told in one line**, also the one about a line feed. -/
theorem isOneLine_message (f : Fault) : IsOneLine f.message := (noControl_message f).isOneLine

/-! ### Text without terminal control -/

theorem Terminal.plainFrom_sublist (p : Terminal.Place) (cs : List Char) :
    (Terminal.plainFrom p cs).Sublist cs := by
  induction cs generalizing p with
  | nil => exact .slnil
  | cons c cs ih =>
    rw [Terminal.plainFrom]
    split
    · exact (ih _).cons_cons c
    · exact (ih _).cons c

theorem IsOneLine.plain {s : String} (h : IsOneLine s) : IsOneLine (Terminal.plain s) := by
  rw [IsOneLine, Terminal.plain, String.toList_ofList]
  exact fun hmem => h ((Terminal.plainFrom_sublist _ _).mem hmem)

/-! ### Bytes -/

theorem eq_lineFeed_of_mem_encodeChar {c : Char} (h : 0x0A ∈ String.utf8EncodeChar c) :
    c = '\n' := by
  have hc : c.toNat = c.val.toNat := rfl
  rw [String.utf8EncodeChar] at h
  split_ifs at h with h1 h2 h3
  all_goals
    simp only [List.mem_cons, List.not_mem_nil, or_false, ← UInt8.toNat_inj, UInt8.toNat_ofNat',
      UInt8.reduceToNat] at h
  · refine Char.toNat_inj.mp ?_
    show c.toNat = 10
    omega
  -- In a longer encoding every byte has its highest bit set.
  all_goals omega

theorem Utf8.encode_append (s t : String) : encode (s ++ t) = encode s ++ encode t := by
  rw [encode, String.toList_append, List.flatMap_append]
  rfl

/-- **A text in one line and a line feed are one line of bytes.** -/
theorem IsOneLine.isFullLine_encode {s : String} (h : IsOneLine s) :
    IsFullLine (Utf8.encode (s ++ "\n")) := by
  refine ⟨Utf8.encode s, Utf8.encode_append s "\n", fun hmem => ?_⟩
  obtain ⟨c, hc, hbyte⟩ := List.mem_flatMap.mp hmem
  exact h (eq_lineFeed_of_mem_encodeChar hbyte ▸ hc)

end Paging.Text
