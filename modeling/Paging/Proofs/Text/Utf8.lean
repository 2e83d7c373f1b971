import Mathlib.Data.List.Basic
import Paging.Text.Utf8

/-!
# Decoding undoes encoding

`decode?` runs a machine over bytes and knows nothing of `encode`.  Here the two are shown to be
inverse to each other: `decode?_eq_some_iff` says that some bytes are decoded just if they are the
encoding of a text, and to that text.

A character that has been begun is sound if, however it goes on within its bounds, its bytes are
the encoding of the character they are taken for (`Begun.Sound`).  The first byte begins sound
characters only, which is where the narrowed second bytes count.
-/

namespace Paging.Text.Utf8

/-! ### Encodings of each length -/

theorem val_ofNat {v : Nat} (hv : v.isValidChar) : (Char.ofNat v).val.toNat = v := by
  rw [Char.ofNat, dif_pos hv]
  rfl

theorem encodeChar_one {a : UInt8} (ha : a.toNat ≤ 0x7F) :
    String.utf8EncodeChar (Char.ofNat a.toNat) = [a] := by
  have hv : a.toNat.isValidChar := Or.inl (by omega)
  rw [String.utf8EncodeChar]
  simp only [val_ofNat hv]
  rw [if_pos ha, UInt8.ofNat_toNat]

theorem encodeChar_two {x y : Nat} {a b : UInt8} (ha : a.toNat = 0xC0 + x)
    (hb : b.toNat = 0x80 + y) (hx : 2 ≤ x ∧ x < 32) (hy : y < 64) :
    String.utf8EncodeChar (Char.ofNat (x * 64 + y)) = [a, b] := by
  have hv : (x * 64 + y).isValidChar := Or.inl (by omega)
  rw [String.utf8EncodeChar]
  simp only [val_ofNat hv]
  rw [if_neg (by omega), if_pos (by omega)]
  simp only [List.cons.injEq, ← UInt8.toNat_inj, ha, hb, UInt8.toNat_ofNat', and_true]
  omega

theorem encodeChar_three {x y z : Nat} {a b c : UInt8} (ha : a.toNat = 0xE0 + x)
    (hb : b.toNat = 0x80 + y) (hc : c.toNat = 0x80 + z) (hx : x < 16) (hy : y < 64) (hz : z < 64)
    (hlow : x = 0 → 32 ≤ y) (hhigh : x = 13 → y < 32) :
    String.utf8EncodeChar (Char.ofNat ((x * 64 + y) * 64 + z)) = [a, b, c] := by
  have hv : ((x * 64 + y) * 64 + z).isValidChar := by
    by_cases hx13 : x < 13 ∨ x = 13
    · exact Or.inl (by omega)
    · exact Or.inr (by omega)
  rw [String.utf8EncodeChar]
  simp only [val_ofNat hv]
  rw [if_neg (by omega), if_neg (by omega), if_pos (by omega)]
  simp only [List.cons.injEq, ← UInt8.toNat_inj, ha, hb, hc, UInt8.toNat_ofNat', and_true]
  omega

theorem encodeChar_four {x y z w : Nat} {a b c d : UInt8} (ha : a.toNat = 0xF0 + x)
    (hb : b.toNat = 0x80 + y) (hc : c.toNat = 0x80 + z) (hd : d.toNat = 0x80 + w) (hx : x ≤ 4)
    (hy : y < 64) (hz : z < 64) (hw : w < 64) (hlow : x = 0 → 16 ≤ y) (hhigh : x = 4 → y < 16) :
    String.utf8EncodeChar (Char.ofNat (((x * 64 + y) * 64 + z) * 64 + w)) = [a, b, c, d] := by
  have hv : (((x * 64 + y) * 64 + z) * 64 + w).isValidChar := Or.inr (by omega)
  rw [String.utf8EncodeChar]
  simp only [val_ofNat hv]
  rw [if_neg (by omega), if_neg (by omega), if_neg (by omega)]
  simp only [List.cons.injEq, ← UInt8.toNat_inj, ha, hb, hc, hd, UInt8.toNat_ofNat', and_true]
  omega

/-! ### What is decoded is encoded -/

/-- However the character goes on within its bounds, its bytes are its encoding. -/
inductive Begun.Sound : Begun → Prop
  | last {bytes : List UInt8} {value : Nat} {low high : UInt8}
      (h : ∀ b, low ≤ b → b ≤ high →
        String.utf8EncodeChar (Char.ofNat (value * 64 + (b.toNat - 0x80))) = bytes ++ [b]) :
      Sound ⟨bytes, value, 0, low, high⟩
  | more {bytes : List UInt8} {value left : Nat} {low high : UInt8}
      (h : ∀ b, low ≤ b → b ≤ high →
        Sound ⟨bytes ++ [b], value * 64 + (b.toNat - 0x80), left, 0x80, 0xBF⟩) :
      Sound ⟨bytes, value, left + 1, low, high⟩

theorem sound_two {a : UInt8} (ha : 0xC2 ≤ a ∧ a ≤ 0xDF) :
    Begun.Sound ⟨[a], a.toNat - 0xC0, 0, 0x80, 0xBF⟩ := by
  refine .last fun b hl hh => ?_
  simp only [UInt8.le_iff_toNat_le, UInt8.reduceToNat] at ha hl hh
  exact encodeChar_two (by omega) (by omega) (by omega) (by omega)

theorem sound_three {a low high : UInt8} (ha : 0xE0 ≤ a ∧ a ≤ 0xEF)
    (hlow : 0x80 ≤ low) (hhigh : high ≤ 0xBF) (h0 : a = 0xE0 → 0xA0 ≤ low)
    (h13 : a = 0xED → high ≤ 0x9F) : Begun.Sound ⟨[a], a.toNat - 0xE0, 1, low, high⟩ := by
  refine .more fun b hl hh => .last fun c hl' hh' => ?_
  simp only [UInt8.le_iff_toNat_le, UInt8.reduceToNat, ← UInt8.toNat_inj] at *
  exact encodeChar_three (by omega) (by omega) (by omega) (by omega) (by omega) (by omega)
    (by omega) (by omega)

theorem sound_four {a low high : UInt8} (ha : 0xF0 ≤ a ∧ a ≤ 0xF4)
    (hlow : 0x80 ≤ low) (hhigh : high ≤ 0xBF) (h0 : a = 0xF0 → 0x90 ≤ low)
    (h4 : a = 0xF4 → high ≤ 0x8F) : Begun.Sound ⟨[a], a.toNat - 0xF0, 2, low, high⟩ := by
  refine .more fun b hl hh => .more fun c hl' hh' => .last fun d hl'' hh'' => ?_
  simp only [UInt8.le_iff_toNat_le, UInt8.reduceToNat, ← UInt8.toNat_inj] at *
  exact encodeChar_four (by omega) (by omega) (by omega) (by omega) (by omega) (by omega)
    (by omega) (by omega) (by omega) (by omega)

/-- **A first byte begins sound characters only.** -/
theorem sound_of_first {a : UInt8} {p : Begun} (h : first a = .inr p) :
    p.Sound ∧ p.bytes = [a] := by
  rw [first] at h
  split_ifs at h with h1 h2 h3 h4 h5 h6 h7 h8
  all_goals cases h
  all_goals refine ⟨?_, rfl⟩
  · exact sound_two h2
  · subst h3
    exact sound_three (by decide) (by decide) (by decide) (by decide) (by decide)
  · subst h4
    exact sound_three (by decide) (by decide) (by decide) (by decide) (by decide)
  · exact sound_three ⟨UInt8.le_trans (by decide) h5.1, h5.2⟩ (by decide) (by decide)
      (fun h => absurd h h3) (fun h => absurd h h4)
  · subst h6
    exact sound_four (by decide) (by decide) (by decide) (by decide) (by decide)
  · have ha : 0xF0 ≤ a ∧ a ≤ 0xF4 :=
      ⟨UInt8.le_trans (by decide) h7.1, UInt8.le_trans h7.2 (by decide)⟩
    exact sound_four ha (by decide) (by decide) (fun h => absurd h h6)
      (fun h => absurd (h ▸ h7.2) (by decide))
  · subst h8
    exact sound_four (by decide) (by decide) (by decide) (by decide) (by decide)

theorem encodeChar_of_first {a : UInt8} {c : Char} (h : first a = .inl (.char c)) :
    String.utf8EncodeChar c = [a] := by
  rw [first] at h
  split_ifs at h with h1 h2 h3 h4 h5 h6 h7 h8
  · cases h
    exact encodeChar_one (UInt8.le_iff_toNat_le.mp h1)
  · cases h

theorem chars?_char_cons {c : Char} {ps : List Piece} {cs : List Char}
    (h : chars? (.char c :: ps) = some cs) : ∃ ds, chars? ps = some ds ∧ cs = c :: ds := by
  obtain ⟨ds, hds, rfl⟩ := Option.map_eq_some_iff.mp h
  exact ⟨ds, hds, rfl⟩

def pending (o : Option Begun) : List UInt8 := o.elim [] Begun.bytes

theorem flatMap_encodeChar_of_chars? {o : Option Begun} {bs : List UInt8} {cs : List Char}
    (ho : ∀ p ∈ o, p.Sound) (h : chars? (piecesFrom o bs) = some cs) :
    cs.flatMap String.utf8EncodeChar = pending o ++ bs := by
  fun_induction piecesFrom o bs generalizing cs with
  | case1 =>
    cases h
    rfl
  | case2 p => cases h
  | case3 b bs x hx ih =>
    cases x with
    | stray => cases h
    | char c =>
      obtain ⟨ds, hds, rfl⟩ := chars?_char_cons h
      rw [List.flatMap_cons, encodeChar_of_first hx, ih ho hds]
      rfl
  | case4 b bs p hp ih =>
    obtain ⟨hsound, hbytes⟩ := sound_of_first hp
    rw [ih (by simpa using hsound) h]
    show p.bytes ++ bs = b :: bs
    rw [hbytes]
    rfl
  | case5 p b bs hb hl ih =>
    obtain ⟨ds, hds, rfl⟩ := chars?_char_cons h
    rw [List.flatMap_cons, ih (by simp) hds]
    cases ho p rfl with
    | last hs => simp [hs b hb.1 hb.2, pending]
    | more hs => cases hl
  | case6 p b bs hb n hl ih =>
    cases ho p rfl with
    | last hs => cases hl
    | more hs =>
      cases hl
      rw [ih (by simpa using hs b hb.1 hb.2) h]
      simp [pending]
  | _ => cases h

theorem encode_of_decode? {bytes : List UInt8} {s : String} (h : decode? bytes = some s) :
    encode s = bytes := by
  obtain ⟨cs, hcs, rfl⟩ := Option.map_eq_some_iff.mp h
  rw [encode, String.toList_ofList]
  exact flatMap_encodeChar_of_chars? (by simp) hcs

/-! ### What is encoded is decoded -/

theorem first_one : ∀ x < 128, first (UInt8.ofNat x) = .inl (.char (Char.ofNat x)) := by
  decide +kernel

theorem first_two : ∀ x < 32, 2 ≤ x →
    first (UInt8.ofNat (x + 0xC0)) = .inr ⟨[UInt8.ofNat (x + 0xC0)], x, 0, 0x80, 0xBF⟩ := by
  decide +kernel

theorem first_three : ∀ x < 16, first (UInt8.ofNat (x + 0xE0)) =
    .inr ⟨[UInt8.ofNat (x + 0xE0)], x, 1, if x = 0 then 0xA0 else 0x80,
      if x = 13 then 0x9F else 0xBF⟩ := by
  decide +kernel

theorem first_four : ∀ x < 5, first (UInt8.ofNat (x + 0xF0)) =
    .inr ⟨[UInt8.ofNat (x + 0xF0)], x, 2, if x = 0 then 0x90 else 0x80,
      if x = 4 then 0x8F else 0xBF⟩ := by
  decide +kernel

theorem piecesFrom_inr {a : UInt8} {p : Begun} (h : first a = .inr p) (bs : List UInt8) :
    piecesFrom none (a :: bs) = piecesFrom (some p) bs := by
  simp only [piecesFrom, h]

/-- A byte after the first, within the bounds, that is the last one. -/
theorem piecesFrom_last {bytes : List UInt8} {value y : Nat} {low high : UInt8} (bs : List UInt8)
    (hy : y < 64) (hlow : low.toNat ≤ y + 0x80) (hhigh : y + 0x80 ≤ high.toNat) :
    piecesFrom (some ⟨bytes, value, 0, low, high⟩) (UInt8.ofNat (y + 0x80) :: bs) =
      .char (Char.ofNat (value * 64 + y)) :: piecesFrom none bs := by
  have hb : (UInt8.ofNat (y + 0x80)).toNat = y + 0x80 :=
    UInt8.toNat_ofNat_of_lt' (by rw [UInt8.size]; omega)
  rw [piecesFrom, if_pos (by simpa only [UInt8.le_iff_toNat_le, hb] using ⟨hlow, hhigh⟩), hb,
    Nat.add_sub_cancel]

/-- A byte after the first, within the bounds, that is not the last one. -/
theorem piecesFrom_more {bytes : List UInt8} {value left y : Nat} {low high : UInt8}
    (bs : List UInt8) (hy : y < 64) (hlow : low.toNat ≤ y + 0x80) (hhigh : y + 0x80 ≤ high.toNat) :
    piecesFrom (some ⟨bytes, value, left + 1, low, high⟩) (UInt8.ofNat (y + 0x80) :: bs) =
      piecesFrom (some ⟨bytes ++ [UInt8.ofNat (y + 0x80)], value * 64 + y, left, 0x80, 0xBF⟩)
        bs := by
  have hb : (UInt8.ofNat (y + 0x80)).toNat = y + 0x80 :=
    UInt8.toNat_ofNat_of_lt' (by rw [UInt8.size]; omega)
  rw [piecesFrom, if_pos (by simpa only [UInt8.le_iff_toNat_le, hb] using ⟨hlow, hhigh⟩), hb,
    Nat.add_sub_cancel]

/-- **The encoding of a character is that character again**, whatever follows it. -/
theorem piecesFrom_encodeChar (c : Char) (bs : List UInt8) :
    piecesFrom none (String.utf8EncodeChar c ++ bs) = .char c :: piecesFrom none bs := by
  have hc : Char.ofNat c.val.toNat = c := Char.ofNat_toNat c
  have hv : c.val.toNat < 0xD800 ∨ 0xDFFF < c.val.toNat ∧ c.val.toNat < 0x110000 := c.valid
  rw [String.utf8EncodeChar]
  generalize c.val.toNat = v at hc hv ⊢
  split_ifs with h1 h2 h3
  · rw [List.singleton_append, piecesFrom, first_one v (by omega), hc]
  · simp only [List.cons_append, List.nil_append]
    rw [Nat.mod_eq_of_lt (b := 0x20) (by omega),
      piecesFrom_inr (first_two (v / 64) (by omega) (by omega)),
      piecesFrom_last bs (by omega) (by simp) (by simp; omega),
      show v / 64 * 64 + v % 64 = v by omega, hc]
  · have hlow : (if v / 4096 = 0 then 0xA0 else 0x80 : UInt8).toNat ≤ v / 64 % 64 + 0x80 := by
      simp only [apply_ite UInt8.toNat, UInt8.reduceToNat]
      split_ifs <;> omega
    have hhigh : v / 64 % 64 + 0x80 ≤ (if v / 4096 = 13 then 0x9F else 0xBF : UInt8).toNat := by
      simp only [apply_ite UInt8.toNat, UInt8.reduceToNat]
      split_ifs <;> omega
    simp only [List.cons_append, List.nil_append]
    rw [Nat.mod_eq_of_lt (b := 0x10) (by omega), piecesFrom_inr (first_three (v / 4096) (by omega)),
      piecesFrom_more _ (by omega) hlow hhigh,
      piecesFrom_last bs (by omega) (by simp) (by simp; omega),
      show (v / 4096 * 64 + v / 64 % 64) * 64 + v % 64 = v by omega, hc]
  · have hlow : (if v / 262144 = 0 then 0x90 else 0x80 : UInt8).toNat ≤ v / 4096 % 64 + 0x80 := by
      simp only [apply_ite UInt8.toNat, UInt8.reduceToNat]
      split_ifs <;> omega
    have hhigh : v / 4096 % 64 + 0x80 ≤ (if v / 262144 = 4 then 0x8F else 0xBF : UInt8).toNat := by
      simp only [apply_ite UInt8.toNat, UInt8.reduceToNat]
      split_ifs <;> omega
    simp only [List.cons_append, List.nil_append]
    rw [Nat.mod_eq_of_lt (b := 0x08) (by omega),
      piecesFrom_inr (first_four (v / 262144) (by omega)), piecesFrom_more _ (by omega) hlow hhigh,
      piecesFrom_more _ (by omega) (by simp) (by simp; omega),
      piecesFrom_last bs (by omega) (by simp) (by simp; omega),
      show ((v / 262144 * 64 + v / 4096 % 64) * 64 + v / 64 % 64) * 64 + v % 64 = v by omega, hc]

theorem piecesFrom_flatMap_encodeChar (cs : List Char) :
    piecesFrom none (cs.flatMap String.utf8EncodeChar) = cs.map .char := by
  induction cs with
  | nil => rfl
  | cons c cs ih => rw [List.flatMap_cons, piecesFrom_encodeChar, ih, List.map_cons]

theorem chars?_map_char (cs : List Char) : chars? (cs.map .char) = some cs := by
  induction cs with
  | nil => rfl
  | cons c cs ih => rw [List.map_cons, chars?, ih, Option.map_some]

theorem decode?_encode (s : String) : decode? (encode s) = some s := by
  rw [decode?, pieces, encode, piecesFrom_flatMap_encodeChar, chars?_map_char, Option.map_some,
    String.ofList_toList]

/-- **Bytes are decoded just if they are the encoding of a text**, and to that text. -/
theorem decode?_eq_some_iff {bytes : List UInt8} {s : String} :
    decode? bytes = some s ↔ encode s = bytes :=
  ⟨encode_of_decode?, fun h => h ▸ decode?_encode s⟩

theorem encode_injective {s t : String} (h : encode s = encode t) : s = t := by
  have hs := decode?_encode s
  rw [h, decode?_encode] at hs
  exact (Option.some.inj hs).symm

/-- What is a text already is decoded to itself where other bytes are replaced. -/
theorem decodeLossy_encode (s : String) : decodeLossy (encode s) = s := by
  rw [decodeLossy, pieces, encode, piecesFrom_flatMap_encodeChar, List.map_map]
  show String.ofList (s.toList.map id) = s
  rw [List.map_id, String.ofList_toList]

/-! ### UTF-8 -/

def IsText (bytes : List UInt8) : Prop := ∃ s, encode s = bytes

theorem isText_iff {bytes : List UInt8} : IsText bytes ↔ ∃ s, decode? bytes = some s := by
  simp only [IsText, decode?_eq_some_iff]

theorem decode?_eq_none_iff {bytes : List UInt8} : decode? bytes = none ↔ ¬ IsText bytes := by
  rw [isText_iff, Option.eq_none_iff_forall_ne_some, not_exists]

/-- The same notion as that of the standard library. -/
theorem isText_iff_isValidUTF8 {bytes : List UInt8} :
    IsText bytes ↔ bytes.toByteArray.IsValidUTF8 := by
  constructor
  · rintro ⟨s, rfl⟩
    exact ⟨s.toList, rfl⟩
  · rintro ⟨cs, hcs⟩
    refine ⟨String.ofList cs, ?_⟩
    rw [encode, String.toList_ofList]
    exact (List.toByteArray_inj.mp hcs).symm

end Paging.Text.Utf8
