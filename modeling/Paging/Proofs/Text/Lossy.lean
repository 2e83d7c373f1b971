import Paging.Proofs.Text.Utf8

/-!
# Bytes shown as a text

`pieces` loses no byte (`flatMap_bytes_pieces`), and a byte of ASCII stands for itself wherever it
stands, so that what is ahead of it and what follows are shown apart (`toList_decodeLossy_append`).
-/

namespace Paging.Text.Utf8

def Piece.bytes : Piece → List UInt8
  | char c => String.utf8EncodeChar c
  | stray bytes => bytes

theorem bytes_of_first {a : UInt8} {x : Piece} (h : first a = .inl x) : x.bytes = [a] := by
  cases x with
  | char c => exact encodeChar_of_first h
  | stray bytes =>
    rw [first] at h
    split_ifs at h
    · cases h
    · cases h
      rfl

/-- A byte that does not go on with the character begun starts afresh. -/
theorem piecesFrom_break {p : Begun} {b : UInt8} (h : ¬ (p.low ≤ b ∧ b ≤ p.high))
    (bs : List UInt8) :
    piecesFrom (some p) (b :: bs) = .stray p.bytes :: piecesFrom none (b :: bs) := by
  simp only [piecesFrom, if_neg h]

theorem flatMap_bytes_piecesFrom {o : Option Begun} {bs : List UInt8} (ho : ∀ p ∈ o, p.Sound) :
    (piecesFrom o bs).flatMap Piece.bytes = pending o ++ bs := by
  induction bs generalizing o with
  | nil =>
    cases o with
    | none => rfl
    | some p => simp [piecesFrom, pending, Piece.bytes]
  | cons b bs ih =>
    have hstart : (piecesFrom none (b :: bs)).flatMap Piece.bytes = b :: bs := by
      cases hfirst : first b with
      | inl x =>
        simp only [piecesFrom, hfirst, List.flatMap_cons, bytes_of_first hfirst]
        rw [ih (by simp)]
        rfl
      | inr p =>
        obtain ⟨hsound, hbytes⟩ := sound_of_first hfirst
        rw [piecesFrom_inr hfirst, ih (by simpa using hsound)]
        show p.bytes ++ bs = b :: bs
        rw [hbytes]
        rfl
    cases o with
    | none => exact hstart
    | some p =>
      by_cases hb : p.low ≤ b ∧ b ≤ p.high
      · rw [piecesFrom, if_pos hb]
        cases ho p rfl with
        | last hs =>
          simp only [List.flatMap_cons, Piece.bytes, hs b hb.1 hb.2]
          rw [ih (by simp)]
          simp [pending]
        | more hs =>
          rw [ih (by simpa using hs b hb.1 hb.2)]
          simp [pending]
      · rw [piecesFrom_break hb, List.flatMap_cons, hstart]
        rfl

/-- **The pieces have all bytes**, in order. -/
theorem flatMap_bytes_pieces (bs : List UInt8) : (pieces bs).flatMap Piece.bytes = bs :=
  flatMap_bytes_piecesFrom (by simp)

/-! ### At a byte of ASCII -/

theorem low_of_first {a : UInt8} {p : Begun} (h : first a = .inr p) : 0x80 ≤ p.low := by
  rw [first] at h
  split_ifs at h
  all_goals cases h
  all_goals exact of_decide_eq_true rfl

/-- A byte of ASCII breaks off whatever has been begun. -/
theorem piecesFrom_append {b : UInt8} (hb : b ≤ 0x7F) (ys : List UInt8) {o : Option Begun}
    (ho : ∀ p ∈ o, 0x80 ≤ p.low) (xs : List UInt8) :
    piecesFrom o (xs ++ b :: ys) = piecesFrom o xs ++ pieces (b :: ys) := by
  induction xs generalizing o with
  | nil =>
    cases o with
    | none => rfl
    | some p =>
      have hbreak : ¬ (p.low ≤ b ∧ b ≤ p.high) := by
        intro h
        have hle := UInt8.le_trans (UInt8.le_trans (ho p rfl) h.1) hb
        exact absurd hle (by decide)
      rw [List.nil_append, piecesFrom_break hbreak]
      rfl
  | cons x xs ih =>
    have hstart : piecesFrom none (x :: (xs ++ b :: ys)) =
        piecesFrom none (x :: xs) ++ pieces (b :: ys) := by
      cases hfirst : first x with
      | inl piece => simp only [piecesFrom, hfirst, ih (o := none) (by simp), List.cons_append]
      | inr p =>
        rw [piecesFrom_inr hfirst, piecesFrom_inr hfirst]
        exact ih (by simpa using low_of_first hfirst)
    cases o with
    | none => exact hstart
    | some p =>
      rw [List.cons_append]
      by_cases hx : p.low ≤ x ∧ x ≤ p.high
      · rw [piecesFrom, if_pos hx, piecesFrom, if_pos hx]
        cases p.left with
        | zero => simp only [ih (o := none) (by simp), List.cons_append]
        | succ n => exact ih (by simp)
      · rw [piecesFrom_break hx, piecesFrom_break hx, hstart, List.cons_append]

theorem pieces_cons_of_ascii {b : UInt8} (hb : b ≤ 0x7F) (ys : List UInt8) :
    pieces (b :: ys) = .char (Char.ofNat b.toNat) :: pieces ys := by
  rw [pieces, piecesFrom, first, if_pos hb]
  rfl

/-- **A byte of ASCII is shown as itself**, between what is ahead of it and what follows. -/
theorem toList_decodeLossy_append {b : UInt8} (hb : b ≤ 0x7F) (xs ys : List UInt8) :
    (decodeLossy (xs ++ b :: ys)).toList =
      (decodeLossy xs).toList ++ Char.ofNat b.toNat :: (decodeLossy ys).toList := by
  simp only [decodeLossy, String.toList_ofList]
  rw [pieces, piecesFrom_append hb ys (by simp), pieces_cons_of_ascii hb, List.map_append]
  rfl

/-- A text and its encoding begin with the same character of ASCII. -/
theorem head?_encode_iff {b : UInt8} (hb : b ≤ 0x7F) {t : String} :
    (encode t).head? = some b ↔ t.toList.head? = some (Char.ofNat b.toNat) := by
  constructor
  · intro h
    obtain ⟨ys, hys⟩ := List.head?_eq_some_iff.mp h
    rw [← decodeLossy_encode t, hys]
    exact congrArg List.head? (toList_decodeLossy_append hb [] ys)
  · intro h
    obtain ⟨cs, hcs⟩ := List.head?_eq_some_iff.mp h
    rw [encode, hcs, List.flatMap_cons, encodeChar_one (UInt8.le_iff_toNat_le.mp hb)]
    rfl

theorem toList_decodeLossy_eq_nil_iff {bs : List UInt8} :
    (decodeLossy bs).toList = [] ↔ bs = [] := by
  constructor
  · intro h
    rw [decodeLossy, String.toList_ofList, List.map_eq_nil_iff] at h
    rw [← flatMap_bytes_pieces bs, h]
    rfl
  · rintro rfl
    rfl

end Paging.Text.Utf8
