import Mathlib.Data.List.TakeWhile
import Paging.Proofs.AppTable.Literal

/-!
# Statements of the assembler

An assembler takes each line for a statement, which may have labels in front.  `naming?` reads what
a line puts in.  `HasStatement` tells the lines that put something in by their parts, without the
reader, and `naming?_ne_none_iff` says that these are the ones.

So it can be said of names alone which of them make labels that hide a statement (`silent_iff`).
They are those in which such a statement stands behind a colon, with nothing but characters of
symbols ahead of it.
-/

namespace Paging.AppTable

open Text

/-! ### The reader -/

def isBlank (c : Char) : Bool := c == ' ' || c == '\t'

def isSymbolChar (c : Char) : Bool :=
  c.isAlphanum || c == '_' || c == '.' || c == '$' || 0x80 ≤ c.toNat

/-- What follows the label at the front of a line, which is a symbol and a colon. -/
def afterLabel? (line : List Char) : Option (List Char) :=
  let statement := line.dropWhile isBlank
  match statement.takeWhile isSymbolChar, statement.dropWhile isSymbolChar with
  | _ :: _, ':' :: rest => some rest
  | _, _ => none

theorem afterLabel?_suffix {line rest : List Char} (h : afterLabel? line = some rest) :
    ':' :: rest <:+ line := by
  rw [afterLabel?] at h
  split at h
  · next hrest =>
    obtain ⟨⟩ := h
    exact hrest ▸ (List.dropWhile_suffix _).trans (List.dropWhile_suffix _)
  · cases h

def afterLabels (line : List Char) : List Char :=
  match _h : afterLabel? line with
  | some rest => afterLabels rest
  | none => line
termination_by line.length
decreasing_by exact (afterLabel?_suffix ‹_›).length_le

inductive Directive
  | text
  | binary
  deriving DecidableEq, Repr

/-- A statement that puts in a text or a file. -/
structure Naming where
  directive : Directive
  /-- The text or the path of the file, if the operand is one literal. -/
  value : Option (List UInt8)
  deriving DecidableEq, Repr

/-- What an operand stands for that is one literal with blanks around it. -/
def operand? (cs : List Char) : Option (List UInt8) :=
  match cs.dropWhile isBlank with
  | '"' :: rest =>
    match literal? .plain rest with
    | some (value, rest) => if rest.all isBlank then some value else none
    | none => none
  | _ => none

def naming? (line : List Char) : Option Naming :=
  let statement := (afterLabels line).dropWhile isBlank
  let operand := statement.dropWhile isSymbolChar
  if statement.takeWhile isSymbolChar = ".string".toList then some ⟨.text, operand? operand⟩
  else if statement.takeWhile isSymbolChar = ".incbin".toList then some ⟨.binary, operand? operand⟩
  else none

theorem afterLabels_suffix (line : List Char) : afterLabels line <:+ line := by
  fun_induction afterLabels line with
  | case1 line rest h ih => exact ih.trans ((List.suffix_cons _ _).trans (afterLabel?_suffix h))
  | case2 => exact List.suffix_rfl

theorem afterLabels_of_none {line : List Char} (h : afterLabel? line = none) :
    afterLabels line = line := by
  rw [afterLabels]
  split
  · next h' => cases h.symm.trans h'
  · rfl

theorem afterLabels_of_some {line rest : List Char} (h : afterLabel? line = some rest) :
    afterLabels line = afterLabels rest := by
  rw [afterLabels]
  split
  · next h' =>
    cases h.symm.trans h'
    rfl
  · next h' => cases h.symm.trans h'

theorem operand?_quoted {cs : List Char} (h : IsPlain cs) :
    operand? (' ' :: quoted cs) = some (bytes cs) := by
  show (match literal? .plain (cs ++ ['"']) with
    | some (value, rest) => if rest.all isBlank then some value else none
    | none => none) = _
  rw [literal?_append h]
  rfl

/-! ### Lines that put something in -/

/-- A line that puts something in: a directive that does, with labels ahead of it perhaps, and
blanks ahead of all of them.  What follows the directive makes neither another symbol of it nor a
label. -/
inductive HasStatement : List Char → Prop
  | directive {blanks word rest : List Char} (hblanks : ∀ c ∈ blanks, isBlank c = true)
    (hword : word = ".string".toList ∨ word = ".incbin".toList)
    (hrest : ∀ c ∈ rest.head?, isSymbolChar c = false ∧ c ≠ ':') :
    HasStatement (blanks ++ (word ++ rest))
  | label {blanks symbol rest : List Char} (hblanks : ∀ c ∈ blanks, isBlank c = true)
    (hne : symbol ≠ []) (hsymbol : ∀ c ∈ symbol, isSymbolChar c = true) (h : HasStatement rest) :
    HasStatement (blanks ++ (symbol ++ ':' :: rest))

theorem isBlank_of_isSymbolChar {c : Char} (h : isSymbolChar c = true) : isBlank c = false := by
  apply Bool.eq_false_iff.mpr
  intro hblank
  rw [isBlank, Bool.or_eq_true, beq_iff_eq, beq_iff_eq] at hblank
  rcases hblank with rfl | rfl
  · exact absurd h (by decide)
  · exact absurd h (by decide)

section

variable {blanks symbol : List Char} (hblanks : ∀ c ∈ blanks, isBlank c = true)
  (hne : symbol ≠ []) (hsymbol : ∀ c ∈ symbol, isSymbolChar c = true)

include hblanks hne hsymbol

/-- The first symbol of a line and what follows it. -/
theorem parts_append {rest : List Char} (hrest : ∀ c ∈ rest.head?, isSymbolChar c = false) :
    ((blanks ++ (symbol ++ rest)).dropWhile isBlank).takeWhile isSymbolChar = symbol ∧
      ((blanks ++ (symbol ++ rest)).dropWhile isBlank).dropWhile isSymbolChar = rest := by
  have hstatement : (blanks ++ (symbol ++ rest)).dropWhile isBlank = symbol ++ rest := by
    obtain ⟨c, cs, rfl⟩ := List.exists_cons_of_ne_nil hne
    have hc : isBlank c = false := isBlank_of_isSymbolChar (hsymbol c List.mem_cons_self)
    rw [List.dropWhile_append_of_pos hblanks, List.cons_append, List.dropWhile_cons, hc,
      if_neg Bool.false_ne_true]
  rw [hstatement, List.takeWhile_append_of_pos hsymbol, List.dropWhile_append_of_pos hsymbol]
  cases rest with
  | nil => exact ⟨List.append_nil _, rfl⟩
  | cons c rest =>
    rw [List.takeWhile_cons, List.dropWhile_cons, hrest c rfl, if_neg Bool.false_ne_true,
      if_neg Bool.false_ne_true]
    exact ⟨List.append_nil _, rfl⟩

theorem afterLabel?_append (rest : List Char) :
    afterLabel? (blanks ++ (symbol ++ ':' :: rest)) = some rest := by
  have hcolon : ∀ c ∈ (':' :: rest).head?, isSymbolChar c = false := by
    rintro c ⟨⟩
    decide
  obtain ⟨htake, hdrop⟩ := parts_append hblanks hne hsymbol hcolon
  obtain ⟨c, cs, rfl⟩ := List.exists_cons_of_ne_nil hne
  rw [afterLabel?, htake, hdrop]
  rfl

end

/-- Every line has such parts, though perhaps no symbol at its front. -/
theorem exists_parts (line : List Char) :
    ∃ blanks symbol rest, line = blanks ++ (symbol ++ rest) ∧
      (∀ c ∈ blanks, isBlank c = true) ∧ (∀ c ∈ symbol, isSymbolChar c = true) ∧
      (∀ c ∈ rest.head?, isSymbolChar c = false) ∧
      (line.dropWhile isBlank).takeWhile isSymbolChar = symbol ∧
      (line.dropWhile isBlank).dropWhile isSymbolChar = rest := by
  refine ⟨line.takeWhile isBlank, _, _, ?_, fun c hc => List.mem_takeWhile_imp hc,
    fun c hc => List.mem_takeWhile_imp hc, fun c hc => ?_, rfl, rfl⟩
  · rw [List.takeWhile_append_dropWhile, List.takeWhile_append_dropWhile]
  · have hhead := List.head?_dropWhile_not isSymbolChar (line.dropWhile isBlank)
    rw [Option.mem_def.mp hc] at hhead
    simpa using hhead

theorem exists_label {line rest : List Char} (h : afterLabel? line = some rest) :
    ∃ blanks symbol, (∀ c ∈ blanks, isBlank c = true) ∧ symbol ≠ [] ∧
      (∀ c ∈ symbol, isSymbolChar c = true) ∧ line = blanks ++ (symbol ++ ':' :: rest) := by
  obtain ⟨blanks, symbol, after, hline, hblanks, hsymbol, -, htake, hdrop⟩ := exists_parts line
  rw [afterLabel?, htake, hdrop] at h
  split at h
  · cases h
    exact ⟨blanks, _, hblanks, List.cons_ne_nil _ _, hsymbol, hline⟩
  · cases h

theorem naming?_of_afterLabel? {line rest : List Char} (h : afterLabel? line = some rest) :
    naming? line = naming? rest := by
  rw [naming?, afterLabels_of_some h]
  rfl

theorem naming?_directive {blanks word rest : List Char} (hblanks : ∀ c ∈ blanks, isBlank c = true)
    (hword : word = ".string".toList ∨ word = ".incbin".toList)
    (hrest : ∀ c ∈ rest.head?, isSymbolChar c = false ∧ c ≠ ':') :
    naming? (blanks ++ (word ++ rest)) ≠ none := by
  have hsymbol : word ≠ [] ∧ ∀ c ∈ word, isSymbolChar c = true := by
    rcases hword with rfl | rfl
    · exact ⟨by decide, List.all_eq_true.mp (by decide)⟩
    · exact ⟨by decide, List.all_eq_true.mp (by decide)⟩
  obtain ⟨htake, hdrop⟩ := parts_append hblanks hsymbol.1 hsymbol.2 fun c hc => (hrest c hc).1
  have hlabel : afterLabel? (blanks ++ (word ++ rest)) = none := by
    rw [afterLabel?, htake, hdrop]
    split
    · exact absurd rfl (hrest ':' rfl).2
    · rfl
  rw [naming?, afterLabels_of_none hlabel, htake]
  rcases hword with rfl | rfl
  · nofun
  · nofun

theorem hasStatement_of_unlabelled {line : List Char} (hlabel : afterLabel? line = none)
    (h : naming? line ≠ none) : HasStatement line := by
  obtain ⟨blanks, symbol, rest, hline, hblanks, -, hrest, htake, hdrop⟩ := exists_parts line
  rw [naming?, afterLabels_of_none hlabel, htake] at h
  have hword : symbol = ".string".toList ∨ symbol = ".incbin".toList := by
    split_ifs at h with hstring hincbin
    · exact Or.inl hstring
    · exact Or.inr hincbin
    · exact absurd rfl h
  rw [hline]
  refine .directive hblanks hword fun c hc => ⟨hrest c hc, ?_⟩
  rintro rfl
  obtain ⟨rest, rfl⟩ := List.head?_eq_some_iff.mp hc
  rw [afterLabel?, htake, hdrop] at hlabel
  rcases hword with rfl | rfl
  · cases hlabel
  · cases hlabel

/-- **A line puts something in just if it has a statement that does.** -/
theorem naming?_ne_none_iff (line : List Char) : naming? line ≠ none ↔ HasStatement line := by
  constructor
  · intro h
    induction line using afterLabels.induct with
    | case1 line rest hlabel ih =>
      rw [naming?_of_afterLabel? hlabel] at h
      obtain ⟨blanks, symbol, hblanks, hne, hsymbol, rfl⟩ := exists_label hlabel
      exact .label hblanks hne hsymbol (ih h)
    | case2 line hlabel => exact hasStatement_of_unlabelled hlabel h
  · intro h
    induction h with
    | directive hblanks hword hrest => exact naming?_directive hblanks hword hrest
    | label hblanks hne hsymbol _ ih =>
      rw [naming?_of_afterLabel? (afterLabel?_append hblanks hne hsymbol _)]
      exact ih

/-! ### Labels made of names -/

/-- The lines of the labels of an application put in nothing. -/
def Silent (a : App) : Prop :=
  naming? (nameLabel a ++ ":").toList = none ∧ naming? (binaryLabel a ++ ":").toList = none

/-- A label made of the name ends within it, and a statement follows.  The last colon is the one
behind the name. -/
def HidesStatement (name : List Char) : Prop :=
  ∃ symbol rest, name = symbol ++ ':' :: rest ∧ (∀ c ∈ symbol, isSymbolChar c = true) ∧
    HasStatement (rest ++ [':'])

section

variable {front name : List Char} (hfront : front = ".str_".toList ∨ front = ".elf_".toList)

include hfront

theorem isSymbolChar_of_mem_front : ∀ c ∈ front, isSymbolChar c = true := by
  rcases hfront with rfl | rfl
  · exact List.all_eq_true.mp (by decide)
  · exact List.all_eq_true.mp (by decide)

/-- A line that begins with a label made of a name has no blanks ahead. -/
theorem eq_nil_of_append {blanks rest : List Char} (hblanks : ∀ c ∈ blanks, isBlank c = true)
    (hline : front ++ name = blanks ++ rest) : blanks = [] := by
  cases blanks with
  | nil => rfl
  | cons c blanks =>
    have hmem : c ∈ front := by
      rcases hfront with rfl | rfl
      · exact (List.cons.inj hline).1 ▸ List.mem_cons_self
      · exact (List.cons.inj hline).1 ▸ List.mem_cons_self
    have hblank := hblanks c List.mem_cons_self
    rw [isBlank_of_isSymbolChar (isSymbolChar_of_mem_front hfront c hmem)] at hblank
    exact absurd hblank Bool.false_ne_true

/-- Nor does it begin with a directive, as the fifth character tells. -/
theorem not_directive_of_append {word rest : List Char} (hline : front ++ name = word ++ rest) :
    ¬ (word = ".string".toList ∨ word = ".incbin".toList) := by
  intro hword
  have hfive : front = word.take 5 := by
    have htake := congrArg (List.take 5) hline
    rcases hfront with rfl | rfl <;> rcases hword with rfl | rfl <;> exact htake
  have hne : ∀ front ∈ [".str_".toList, ".elf_".toList],
      ∀ word ∈ [".string".toList, ".incbin".toList], front ≠ word.take 5 := by decide
  exact hne front (by simpa using hfront) word (by simpa using hword) hfive

/-- The first label of the line is made of the front and of characters of the name. -/
theorem exists_symbol_of_append {symbol rest : List Char}
    (hline : front ++ name = symbol ++ ':' :: rest) :
    ∃ own, symbol = front ++ own ∧ name = own ++ ':' :: rest := by
  rcases List.append_eq_append_iff.mp hline with h | ⟨tail, htail, hrest⟩
  · exact h
  · cases tail with
    | nil => exact ⟨[], by rw [htail, List.append_nil, List.append_nil], hrest.symm⟩
    | cons c tail =>
      have hmem : ':' ∈ front := by
        rw [htail, ← (List.cons.inj hrest).1]
        exact List.mem_append_right _ List.mem_cons_self
      exact absurd (isSymbolChar_of_mem_front hfront ':' hmem) (by decide)

theorem hidesStatement_of_hasStatement (h : HasStatement (front ++ (name ++ [':']))) :
    HidesStatement name := by
  generalize hline : front ++ (name ++ [':']) = line at h
  cases h with
  | directive hblanks hword hrest =>
    obtain rfl := eq_nil_of_append hfront hblanks hline
    exact absurd hword (not_directive_of_append hfront hline)
  | @label blanks symbol rest hblanks hne hsymbol hrest =>
    obtain rfl := eq_nil_of_append hfront hblanks hline
    obtain ⟨own, rfl, hname⟩ := exists_symbol_of_append hfront hline
    rcases List.eq_nil_or_concat' rest with rfl | ⟨rest, c, rfl⟩
    · have hnil : naming? [] = none := by decide +kernel
      exact absurd hnil ((naming?_ne_none_iff []).mpr hrest)
    · rw [← List.cons_append, ← List.append_assoc] at hname
      obtain ⟨rfl, hc⟩ := List.append_inj' hname rfl
      cases hc
      exact ⟨own, rest, rfl, fun c hc => hsymbol c (List.mem_append_right _ hc), hrest⟩

theorem hasStatement_of_hidesStatement (h : HidesStatement name) :
    HasStatement (front ++ (name ++ [':'])) := by
  obtain ⟨symbol, rest, rfl, hsymbol, hrest⟩ := h
  have hline : front ++ (symbol ++ ':' :: rest ++ [':']) =
      [] ++ (front ++ symbol ++ ':' :: (rest ++ [':'])) := by simp
  have hne : front ++ symbol ≠ [] := by
    rcases hfront with rfl | rfl
    · nofun
    · nofun
  have hsymbols := List.forall_mem_append.mpr ⟨isSymbolChar_of_mem_front hfront, hsymbol⟩
  rw [hline]
  exact .label (List.forall_mem_nil _) hne hsymbols hrest

theorem naming?_label_eq_none_iff :
    naming? (front ++ (name ++ [':'])) = none ↔ ¬ HidesStatement name := by
  rw [← not_iff_not, not_not, ← ne_eq, naming?_ne_none_iff]
  exact ⟨hidesStatement_of_hasStatement hfront, hasStatement_of_hidesStatement hfront⟩

end

/-- **The labels of an application put in nothing just if its name hides no statement.** -/
theorem silent_iff (a : App) : Silent a ↔ ¬ HidesStatement a.name.toList := by
  rw [Silent, toList_nameLine, toList_binaryLine, naming?_label_eq_none_iff (Or.inl rfl),
    naming?_label_eq_none_iff (Or.inr rfl), and_self]

/-- Without a colon in the name no statement follows a label. -/
theorem silent_of_colon_not_mem {a : App} (h : ':' ∉ a.name.toList) : Silent a := by
  rw [silent_iff]
  rintro ⟨symbol, rest, hname, -⟩
  rw [hname] at h
  exact h (List.mem_append_right _ List.mem_cons_self)

example : ¬ Silent ⟨"a: .string b", 1⟩ ∧ Silent ⟨"a: .string", 1⟩ := by
  rw [Silent, Silent]
  decide +kernel

end Paging.AppTable
