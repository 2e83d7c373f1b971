import Paging.Proofs.AppTable.Layout
import Paging.Text.Hexadecimal
import Paging.Text.Utf8

/-!
# Literals of the assembler

A literal stands between double quotes in one line.  A backslash and what follows it stand for one
character, or for a byte given by its number.  So a literal says what it shows just if it has no
backslash, and with one it says less than it shows (`literal?_plain`).
-/

namespace Paging.AppTable

open Text

/-- Characters that a literal may show as they are. -/
def IsPlain (cs : List Char) : Prop := ∀ c ∈ cs, c ≠ '"' ∧ c ≠ '\\' ∧ c ≠ '\n'

instance (cs : List Char) : Decidable (IsPlain cs) :=
  List.decidableBAll (fun c => c ≠ '"' ∧ c ≠ '\\' ∧ c ≠ '\n') cs

def bytes (cs : List Char) : List UInt8 := cs.flatMap String.utf8EncodeChar

/-! ### The reader -/

inductive Place
  | plain
  /-- After a backslash. -/
  | escape
  /-- In the number of a byte, where at most `left` digits follow. -/
  | octal (value left : Nat)
  | hexadecimal (value : Nat)
  deriving DecidableEq, Repr

namespace Place

/-- The byte that a number stands for if it ends here. -/
def pending : Place → List UInt8
  | octal value _ => [UInt8.ofNat value]
  | hexadecimal value => [UInt8.ofNat value]
  | _ => []

/-- The place after `c`, if `c` is a digit of a number.  An octal number may have the digits eight
and nine. -/
def more? : Place → Char → Option Place
  | octal value (left + 1), c =>
    if isDecimalDigit c then some (octal (value * 8 + (c.toNat - 0x30)) left) else none
  | hexadecimal value, c => (hexDigit? c).map fun d => hexadecimal (value * 16 + d)
  | _, _ => none

end Place

def escaped (c : Char) : Char :=
  if c = 'b' then '\x08'
  else if c = 'f' then '\x0c'
  else if c = 'n' then '\n'
  else if c = 'r' then '\r'
  else if c = 't' then '\t'
  else c

/-- What `c` stands for after a backslash, and the place after it. -/
def afterBackslash (c : Char) : List UInt8 × Place :=
  if isDecimalDigit c then ([], .octal (c.toNat - 0x30) 2)
  else if c = 'x' ∨ c = 'X' then ([], .hexadecimal 0)
  else (String.utf8EncodeChar (escaped c), .plain)

/-- What a literal stands for from some place on, and what follows its closing quote. -/
def literal? : Place → List Char → Option (List UInt8 × List Char)
  | _, [] => none
  | .escape, c :: cs =>
    (literal? (afterBackslash c).2 cs).map (Prod.map ((afterBackslash c).1 ++ ·) id)
  | p, c :: cs =>
    match p.more? c with
    | some q => literal? q cs
    | none =>
      if c = '"' then some (p.pending, cs)
      else if c = '\\' then (literal? .escape cs).map (Prod.map (p.pending ++ ·) id)
      else if c = '\n' then none
      else (literal? .plain cs).map (Prod.map (p.pending ++ String.utf8EncodeChar c ++ ·) id)

/-! ### What is read -/

theorem IsPlain.append {cs ds : List Char} (hcs : IsPlain cs) (hds : IsPlain ds) :
    IsPlain (cs ++ ds) :=
  List.forall_mem_append.mpr ⟨hcs, hds⟩

theorem IsPlain.mono {cs ds : List Char} (hds : IsPlain ds) (h : cs <:+: ds) : IsPlain cs :=
  fun c hc => hds c (h.mem hc)

theorem length_bytes_cons (c : Char) (cs : List Char) :
    (bytes (c :: cs)).length = (String.utf8EncodeChar c).length + (bytes cs).length := by
  rw [bytes, List.flatMap_cons, List.length_append]
  rfl

theorem length_bytes_mono {cs ds : List Char} (h : cs <:+: ds) :
    (bytes cs).length ≤ (bytes ds).length := by
  obtain ⟨front, back, rfl⟩ := h
  simp only [bytes, List.flatMap_append, List.length_append]
  omega

theorem literal?_append {cs : List Char} (h : IsPlain cs) (rest : List Char) :
    literal? .plain (cs ++ '"' :: rest) = some (bytes cs, rest) := by
  induction cs with
  | nil => rfl
  | cons c cs ih =>
    obtain ⟨⟨hquote, hback, hfeed⟩, hcs⟩ := List.forall_mem_cons.mp h
    rw [List.cons_append, literal?]
    · simp only [Place.more?, if_neg hquote, if_neg hback, if_neg hfeed, ih hcs]
      rfl
    · nofun

theorem length_pending_of_more? {p q : Place} {c : Char} (h : p.more? c = some q) :
    p.pending.length = 1 ∧ q.pending.length = 1 := by
  cases p with
  | plain => cases h
  | escape => cases h
  | octal value left =>
    cases left with
    | zero => cases h
    | succ left =>
      rw [Place.more?, Option.ite_none_right_eq_some] at h
      obtain ⟨_, ⟨⟩⟩ := h
      exact ⟨rfl, rfl⟩
  | hexadecimal value =>
    obtain ⟨d, _, rfl⟩ := Option.map_eq_some_iff.mp h
    exact ⟨rfl, rfl⟩

theorem length_encodeChar_pos (c : Char) : 0 < (String.utf8EncodeChar c).length := by
  rw [String.length_utf8EncodeChar]
  exact c.utf8Size_pos

/-- What follows a backslash stands for no more than it has. -/
theorem length_afterBackslash_le (c : Char) :
    (afterBackslash c).1.length + (afterBackslash c).2.pending.length ≤
      (String.utf8EncodeChar c).length := by
  have hpos := length_encodeChar_pos c
  rw [afterBackslash]
  split_ifs
  · exact hpos
  · exact hpos
  · rw [escaped]
    split_ifs
    · exact hpos
    · exact hpos
    · exact hpos
    · exact hpos
    · exact hpos
    · exact Nat.le_refl _

theorem literal?_cons {p : Place} {c : Char} {cs rest : List Char} {v : List UInt8}
    (h : literal? p (c :: cs) = some (v, rest)) :
    (c = '"' ∧ v = p.pending ∧ rest = cs) ∨
    ∃ bs q w, literal? q cs = some (w, rest) ∧ v = bs ++ w ∧
      bs.length + q.pending.length ≤ p.pending.length + (String.utf8EncodeChar c).length ∧
      (p = .plain → (q = .plain ∧ bs = String.utf8EncodeChar c ∧ IsPlain [c]) ∨
        (q = .escape ∧ bs = [] ∧ c = '\\')) := by
  by_cases hp : p = .escape
  · subst hp
    rw [literal?, Option.map_eq_some_iff] at h
    obtain ⟨⟨w, _⟩, hrest, ⟨⟩⟩ := h
    refine Or.inr ⟨_, _, w, hrest, rfl, ?_, nofun⟩
    exact Nat.le_trans (length_afterBackslash_le c) (Nat.le_add_left _ _)
  rw [literal?] at h
  · split at h
    · next q hmore =>
      obtain ⟨hp1, hq1⟩ := length_pending_of_more? hmore
      refine Or.inr ⟨[], q, v, h, rfl, ?_, ?_⟩
      · rw [hp1, hq1]
        exact Nat.le_add_right 1 _
      · rintro rfl
        cases hmore
    · split_ifs at h with hquote hback hfeed
      · obtain ⟨⟩ := h
        exact Or.inl ⟨hquote, rfl, rfl⟩
      · obtain ⟨⟨w, _⟩, hrest, ⟨⟩⟩ := Option.map_eq_some_iff.mp h
        refine Or.inr ⟨p.pending, .escape, w, hrest, rfl, Nat.add_le_add_left (Nat.zero_le _) _, ?_⟩
        rintro rfl
        exact Or.inr ⟨rfl, rfl, hback⟩
      · obtain ⟨⟨w, _⟩, hrest, ⟨⟩⟩ := Option.map_eq_some_iff.mp h
        refine Or.inr ⟨_, .plain, w, hrest, rfl, ?_, ?_⟩
        · rw [List.length_append]
          exact Nat.le_refl _
        · rintro rfl
          exact Or.inl ⟨rfl, rfl, List.forall_mem_singleton.mpr ⟨hquote, hback, hfeed⟩⟩
  · exact hp

/-- A literal stands for no more than it shows and what has been begun before it. -/
theorem length_of_literal? {p : Place} {cs rest : List Char} {v : List UInt8}
    (h : literal? p cs = some (v, rest)) :
    ∃ body, cs = body ++ '"' :: rest ∧ v.length ≤ p.pending.length + (bytes body).length := by
  induction cs generalizing p v with
  | nil => cases p <;> cases h
  | cons c cs ih =>
    rcases literal?_cons h with ⟨rfl, rfl, rfl⟩ | ⟨bs, q, w, hrest, rfl, hlength, _⟩
    · exact ⟨[], rfl, Nat.le_refl _⟩
    · obtain ⟨body, rfl, hbody⟩ := ih hrest
      refine ⟨c :: body, rfl, ?_⟩
      rw [length_bytes_cons, List.length_append]
      omega

/-- What a literal may stand for: a plain one for what it shows, and any other for less. -/
inductive StandsFor (body : List Char) : List UInt8 → Prop
  | plain (h : IsPlain body) : StandsFor body (bytes body)
  | shorter {v : List UInt8} (h : ¬ IsPlain body) (hlt : v.length < (bytes body).length) :
    StandsFor body v

/-- **A literal that is plain stands for what it shows, and one that is not for less.** -/
theorem literal?_plain {cs rest : List Char} {v : List UInt8}
    (h : literal? .plain cs = some (v, rest)) :
    ∃ body, cs = body ++ '"' :: rest ∧ StandsFor body v := by
  induction cs generalizing v with
  | nil => cases h
  | cons c cs ih =>
    rcases literal?_cons h with ⟨rfl, rfl, rfl⟩ | ⟨bs, q, w, hrest, rfl, _, hplain⟩
    · exact ⟨[], rfl, .plain (List.forall_mem_nil _)⟩
    rcases hplain rfl with ⟨rfl, rfl, hc⟩ | ⟨rfl, rfl, rfl⟩
    · obtain ⟨body, rfl, hbody⟩ := ih hrest
      refine ⟨c :: body, rfl, ?_⟩
      cases hbody with
      | plain hbody => exact .plain (hc.append hbody)
      | shorter hbody hlt =>
        refine .shorter (fun hall => hbody (List.forall_mem_of_forall_mem_cons hall)) ?_
        rw [length_bytes_cons, List.length_append]
        exact Nat.add_lt_add_left hlt _
    · obtain ⟨body, rfl, hbody⟩ := length_of_literal? hrest
      refine ⟨'\\' :: body, rfl, .shorter (fun hall => (hall _ List.mem_cons_self).2.1 rfl) ?_⟩
      have hle : w.length ≤ (bytes body).length := by simpa [Place.pending] using hbody
      rw [List.nil_append, length_bytes_cons]
      exact Nat.lt_of_le_of_lt hle (Nat.lt_add_of_pos_left (length_encodeChar_pos _))

/-! ### Between double quotes -/

theorem infix_quoted (cs : List Char) : cs <:+: quoted cs :=
  ⟨['"'], ['"'], rfl⟩

theorem quote_mem_of_quoted {cs ds : List Char} (h : quoted cs <:+: ds) : '"' ∈ ds :=
  h.mem List.mem_cons_self

theorem infix_of_append_left {A cs body : List Char} (hA : '"' ∉ A)
    (h : quoted body <:+: A ++ cs) : quoted body <:+: cs := by
  rcases List.infix_append_iff.mp h with h | h | ⟨front, back, heq, hfront, hback⟩
  · exact absurd (quote_mem_of_quoted h) hA
  · exact h
  · cases front with
    | nil =>
      rw [heq]
      exact hback.isInfix
    | cons c front =>
      have hc : '"' = c := (List.cons.inj heq).1
      exact absurd (hfront.mem (hc ▸ List.mem_cons_self)) hA

theorem infix_of_append_right {cs B body : List Char} (hB : '"' ∉ B)
    (h : quoted body <:+: cs ++ B) : quoted body <:+: cs := by
  rcases List.infix_append_iff.mp h with h | h | ⟨front, back, heq, hfront, hback⟩
  · exact h
  · exact absurd (quote_mem_of_quoted h) hB
  · by_cases hnil : back = []
    · rw [heq, hnil, List.append_nil]
      exact hfront.isInfix
    · have hlast : back.getLast? = some '"' := by
        rw [← List.getLast?_append_of_ne_nil front hnil, ← heq]
        exact List.getLast?_concat (l := '"' :: body)
      exact absurd (hback.mem (List.mem_of_getLast? hlast)) hB

theorem infix_of_quoted_infix_quoted {cs ds : List Char} (h : quoted cs <:+: quoted ds) :
    cs <:+: ds := by
  rcases List.infix_cons_iff.mp h with h | h
  · have hprefix : cs ++ ['"'] <+: ds ++ ['"'] := (List.cons_prefix_cons.mp h).2
    rcases List.prefix_concat_iff.mp hprefix with h | h
    · rw [List.append_left_inj] at h
      exact h ▸ List.infix_rfl
    · exact ((List.prefix_append cs ['"']).trans h).isInfix
  · rcases List.infix_concat_iff.mp h with h | h
    · rcases List.suffix_concat_iff.mp h with h | ⟨front, heq, hfront⟩
      · cases h
      · have hcs : '"' :: cs = front := List.append_cancel_right heq
        exact ((List.suffix_cons '"' cs).trans (hcs ▸ hfront)).isInfix
    · exact (infix_quoted cs).trans h

end Paging.AppTable
