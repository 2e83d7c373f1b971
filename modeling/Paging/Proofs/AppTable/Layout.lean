import Mathlib.Data.List.Basic
import Paging.AppTable.Assembly
import Paging.Proofs.Text.Decimal

/-!
# The text of the table
-/

namespace Paging.AppTable

open Text

/-- Lines one below the other, each with a line feed at its end. -/
def text (ls : List String) : List Char := ls.flatMap fun l => l.toList ++ ['\n']

theorem text_append (ls ls' : List String) : text (ls ++ ls') = text ls ++ text ls' :=
  List.flatMap_append

theorem text_cons (l : String) (ls : List String) :
    text (l :: ls) = l.toList ++ '\n' :: text ls := by
  rw [text, List.flatMap_cons, List.append_assoc]
  rfl

/-- The lines of the text are those of its lines. -/
theorem splitOn_text (ls : List String) :
    (text ls).splitOn '\n' = (ls.flatMap fun l => l.toList.splitOn '\n') ++ [[]] := by
  induction ls with
  | nil => rfl
  | cons l ls ih =>
    rw [text_cons, List.splitOn_append_cons_self, ih, List.flatMap_cons, List.append_assoc]

theorem infix_of_mem_intercalate {p sep : List Char} {ls : List (List Char)} (h : p ∈ ls) :
    p <:+: sep.intercalate ls := by
  induction ls with
  | nil => cases h
  | cons q ls ih =>
    cases ls with
    | nil =>
      rw [List.intercalate_singleton]
      exact List.mem_singleton.mp h ▸ List.infix_rfl
    | cons r ls =>
      rw [List.intercalate_cons_cons]
      rcases List.mem_cons.mp h with rfl | h
      · rw [List.append_assoc]
        exact (List.prefix_append _ _).isInfix
      · exact (ih h).trans (List.suffix_append _ _).isInfix

theorem infix_of_mem_splitOn {p cs : List Char} {c : Char} (h : p ∈ cs.splitOn c) : p <:+: cs := by
  have hcs : [c].intercalate (cs.splitOn c) = cs := List.intercalate_splitOn c
  rw [← hcs]
  exact infix_of_mem_intercalate h

def quoted (cs : List Char) : List Char := '"' :: (cs ++ ['"'])

/-! ### Lines of the table -/

theorem toList_word (value : String) :
    (word value).toList = "    .quad ".toList ++ value.toList := String.toList_append

theorem toList_nameLine (a : App) :
    (nameLabel a ++ ":").toList = ".str_".toList ++ (a.name.toList ++ [':']) := by
  simp [nameLabel]

theorem toList_binaryLine (a : App) :
    (binaryLabel a ++ ":").toList = ".elf_".toList ++ (a.name.toList ++ [':']) := by
  simp [binaryLabel]

theorem toList_stringLine (s : String) :
    ("    .string \"" ++ s ++ "\"").toList = "    .string ".toList ++ quoted s.toList := by
  simp [quoted]

theorem toList_incbinLine (s : String) :
    ("    .incbin \"" ++ s ++ "\"").toList = "    .incbin ".toList ++ quoted s.toList := by
  simp [quoted]

/-- A line is always there, or it is there for some application. -/
theorem mem_lines {dir : String} {apps : List App} {l : String} (h : l ∈ lines dir apps) :
    l ∈ headLines ++ endLines ++ sectionLines ∨
      ∃ a ∈ apps, l ∈ entryLines a ∨ l ∈ dataLines dir a := by
  simp only [lines, List.mem_append, List.mem_flatMap] at h
  rcases h with (((h | ⟨a, ha, h⟩) | h) | h) | ⟨a, ha, h⟩
  · exact Or.inl (List.mem_append_left _ (List.mem_append_left _ h))
  · exact Or.inr ⟨a, ha, Or.inl h⟩
  · exact Or.inl (List.mem_append_left _ (List.mem_append_right _ h))
  · exact Or.inl (List.mem_append_right _ h)
  · exact Or.inr ⟨a, ha, Or.inr h⟩

/-- The path of a name has the characters of the directory and the name, and maybe a slash. -/
theorem forall_mem_joinPath {P : Char → Prop} {dir name : String} (hslash : P '/')
    (hdir : ∀ c ∈ dir.toList, P c) (hname : ∀ c ∈ name.toList, P c) :
    ∀ c ∈ (joinPath dir name).toList, P c := by
  rw [joinPath]
  split_ifs
  · exact hname
  · rw [String.toList_append]
    exact List.forall_mem_append.mpr ⟨hdir, hname⟩
  · rw [String.toList_append, String.toList_append]
    exact List.forall_mem_append.mpr
      ⟨List.forall_mem_append.mpr ⟨hdir, List.forall_mem_singleton.mpr hslash⟩, hname⟩

/-! ### The table -/

theorem toList_assembly (dir : String) (apps : List App) :
    (assembly dir apps).toList = text (lines dir apps) := by
  rw [assembly, String.toList_join, List.flatMap_map]
  simp only [String.toList_append]
  rfl

/-- The size of an application stands in one place, and all around it is the same for every size. -/
theorem exists_around_size (dir : String) (before after : List App) (name : String) :
    ∃ front back, ∀ size, (assembly dir (before ++ ⟨name, size⟩ :: after)).toList =
      front ++ (decimal size).toList ++ back := by
  refine ⟨text (headLines ++ before.flatMap entryLines ++
      ["", word (nameLabel ⟨name, 0⟩), word (binaryLabel ⟨name, 0⟩)]) ++ "    .quad ".toList,
    '\n' :: text (after.flatMap entryLines ++ endLines ++ sectionLines ++
      (before ++ ⟨name, 0⟩ :: after).flatMap (dataLines dir)), fun size => ?_⟩
  simp only [toList_assembly, lines, List.flatMap_append, List.flatMap_cons, text_append,
    entryLines, text_cons, word, String.toList_append, List.append_assoc, List.cons_append]
  rfl

theorem size_eq_of_assembly_eq {dir : String} {before after : List App} {name : String}
    {m n : Nat} (h : assembly dir (before ++ ⟨name, m⟩ :: after) =
      assembly dir (before ++ ⟨name, n⟩ :: after)) : m = n := by
  obtain ⟨front, back, htext⟩ := exists_around_size dir before after name
  have hlist := congrArg String.toList h
  rw [htext m, htext n, List.append_left_inj, List.append_right_inj] at hlist
  exact decimal_injective (String.toList_injective hlist)

theorem length_assembly_lt (dir : String) (before after : List App) (a : App) :
    (assembly dir (before ++ after)).toList.length <
      (assembly dir (before ++ a :: after)).toList.length := by
  simp only [toList_assembly, lines, List.flatMap_append, List.flatMap_cons, text_append,
    List.length_append]
  have : 0 < (text (entryLines a)).length := by
    rw [entryLines, text_cons]
    exact Nat.lt_of_lt_of_le Nat.one_pos (by simp)
  omega

end Paging.AppTable
