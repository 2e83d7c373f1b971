import Mathlib.Data.Finset.Max
import Paging.AppTable.Pack
import Paging.Proofs.AppTable.Reading
import Paging.Proofs.AppTable.Statement

/-!
# What an assembler reads in the table

Here it is asked which texts and which files the statements of the table put in (`namings`).

Names stand in the table as they are.  A name that is not plain cannot be what any literal stands
for: of the paths of such names the longest would have to be read from a literal that is longer
still, and lies in such a path itself (`isPlain_of_namings`).
-/

namespace Paging.AppTable

open Text

/-! ### Texts and files put in -/

/-- What the statements of a text put in, in order. -/
def namings (s : String) : List Naming := (s.toList.splitOn '\n').filterMap naming?

/-- What is to be put in for an application: its name, and the file of that name in `dir`. -/
def App.namings (dir : String) (a : App) : List Naming :=
  [⟨.text, some (Utf8.encode a.name)⟩, ⟨.binary, some (Utf8.encode (joinPath dir a.name))⟩]

/-! ### Literals in a line -/

theorem exists_literal_of_operand? {cs : List Char} {v : List UInt8} (h : operand? cs = some v) :
    ∃ body, quoted body <:+: cs ∧ StandsFor body v := by
  rw [operand?] at h
  split at h
  · next rest hrest =>
    split at h
    · next after hliteral =>
      rw [Option.ite_none_right_eq_some] at h
      obtain ⟨_, ⟨⟩⟩ := h
      obtain ⟨body, rfl, hbody⟩ := literal?_plain hliteral
      refine ⟨body, ?_, hbody⟩
      have hin : quoted body <:+: '"' :: (body ++ '"' :: after) := ⟨[], after, by simp [quoted]⟩
      rw [← hrest] at hin
      exact hin.trans (List.dropWhile_suffix _).isInfix
    · cases h
  · cases h

/-- What is put in is what some literal of the line stands for. -/
theorem exists_literal_of_naming? {line : List Char} {n : Naming} {v : List UInt8}
    (h : naming? line = some n) (hv : n.value = some v) :
    ∃ body, quoted body <:+: line ∧ StandsFor body v := by
  have hoperand : operand? (((afterLabels line).dropWhile isBlank).dropWhile isSymbolChar) =
      some v := by
    rw [naming?] at h
    split_ifs at h
    · obtain ⟨⟩ := h
      exact hv
    · obtain ⟨⟩ := h
      exact hv
  obtain ⟨body, hin, hbody⟩ := exists_literal_of_operand? hoperand
  have hsuffix := ((List.dropWhile_suffix isSymbolChar).trans
    (List.dropWhile_suffix isBlank)).trans (afterLabels_suffix line)
  exact ⟨body, hin.trans hsuffix.isInfix, hbody⟩

/-! ### Lines of the table -/

theorem naming?_string {name : String} (h : IsPlain name.toList) :
    naming? ("    .string \"" ++ name ++ "\"").toList = some ⟨.text, some (Utf8.encode name)⟩ := by
  have hlabel : afterLabel? ("    .string ".toList ++ quoted name.toList) = none := rfl
  rw [toList_stringLine, naming?, afterLabels_of_none hlabel]
  show some (Naming.mk .text (operand? (' ' :: quoted name.toList))) = _
  rw [operand?_quoted h]
  rfl

theorem naming?_incbin {path : String} (h : IsPlain path.toList) :
    naming? ("    .incbin \"" ++ path ++ "\"").toList =
      some ⟨.binary, some (Utf8.encode path)⟩ := by
  have hlabel : afterLabel? ("    .incbin ".toList ++ quoted path.toList) = none := rfl
  rw [toList_incbinLine, naming?, afterLabels_of_none hlabel]
  show some (Naming.mk .binary (operand? (' ' :: quoted path.toList))) = _
  rw [operand?_quoted h]
  rfl

theorem naming?_word (value : String) : naming? (word value).toList = none := by
  have hlabel : afterLabel? ("    .quad ".toList ++ value.toList) = none := rfl
  rw [toList_word, naming?, afterLabels_of_none hlabel]
  rfl

theorem isPlain_joinPath {dir name : String} (hdir : IsPlain dir.toList)
    (hname : IsPlain name.toList) : IsPlain (joinPath dir name).toList :=
  forall_mem_joinPath (by decide) hdir hname

theorem name_infix_joinPath (dir name : String) : name.toList <:+: (joinPath dir name).toList := by
  rw [joinPath]
  split_ifs
  · exact List.infix_rfl
  · rw [String.toList_append]
    exact (List.suffix_append _ _).isInfix
  · rw [String.toList_append]
    exact (List.suffix_append _ _).isInfix

/-- Statements of the table for plain names. -/
theorem filterMap_naming?_dataLines {dir : String} (hdir : IsPlain dir.toList) {a : App}
    (ha : IsPlain a.name.toList) :
    (dataLines dir a).filterMap (fun l => naming? l.toList) =
      (naming? (nameLabel a ++ ":").toList).toList ++ ⟨.text, some (Utf8.encode a.name)⟩ ::
        ((naming? (binaryLabel a ++ ":").toList).toList ++
          [⟨.binary, some (Utf8.encode (joinPath dir a.name))⟩]) := by
  have hblank : naming? "".toList = none := by decide +kernel
  have halign : naming? ".align 8".toList = none := by decide +kernel
  have hcons (l : String) (ls : List String) :
      (l :: ls).filterMap (fun l => naming? l.toList) =
        (naming? l.toList).toList ++ ls.filterMap (fun l => naming? l.toList) := by
    rw [List.filterMap_cons]
    cases naming? l.toList <;> rfl
  simp only [dataLines, hcons, hblank, halign, naming?_string ha,
    naming?_incbin (isPlain_joinPath hdir ha)]
  rfl

/-! ### Literals in the table -/

theorem infix_name_of_mem_entryLines {a : App} {l : String} {body : List Char}
    (hl : l ∈ entryLines a) (h : quoted body <:+: l.toList) : body <:+: a.name.toList := by
  simp only [entryLines, List.mem_cons, List.not_mem_nil, or_false] at hl
  rcases hl with rfl | rfl | rfl | rfl
  · cases quote_mem_of_quoted h
  · rw [toList_word, nameLabel, String.toList_append] at h
    have hin := infix_of_append_left (by decide) (infix_of_append_left (by decide) h)
    exact (infix_quoted body).trans hin
  · rw [toList_word, binaryLabel, String.toList_append] at h
    have hin := infix_of_append_left (by decide) (infix_of_append_left (by decide) h)
    exact (infix_quoted body).trans hin
  · rw [toList_word] at h
    cases isDecimalDigit_of_mem_decimal (quote_mem_of_quoted (infix_of_append_left (by decide) h))

theorem infix_joinPath_of_mem_dataLines {dir : String} {a : App} {l : String} {body : List Char}
    (hl : l ∈ dataLines dir a) (h : quoted body <:+: l.toList) :
    body <:+: (joinPath dir a.name).toList := by
  have hname := name_infix_joinPath dir a.name
  simp only [dataLines, List.mem_cons, List.not_mem_nil, or_false] at hl
  rcases hl with rfl | rfl | rfl | rfl | rfl | rfl
  · cases quote_mem_of_quoted h
  · rw [toList_nameLine] at h
    have hin := infix_of_append_right (by decide) (infix_of_append_left (by decide) h)
    exact ((infix_quoted body).trans hin).trans hname
  · rw [toList_stringLine] at h
    exact (infix_of_quoted_infix_quoted (infix_of_append_left (by decide) h)).trans hname
  · exact absurd (quote_mem_of_quoted h) (by decide)
  · rw [toList_binaryLine] at h
    have hin := infix_of_append_right (by decide) (infix_of_append_left (by decide) h)
    exact ((infix_quoted body).trans hin).trans hname
  · rw [toList_incbinLine] at h
    exact infix_of_quoted_infix_quoted (infix_of_append_left (by decide) h)

/-- Every literal lies in the path of some application. -/
theorem exists_app_of_mem_lines {dir : String} {apps : List App} {l : String} {body : List Char}
    (hl : l ∈ lines dir apps) (h : quoted body <:+: l.toList) :
    ∃ a ∈ apps, body <:+: (joinPath dir a.name).toList := by
  rcases mem_lines hl with hl | ⟨a, ha, hl | hl⟩
  · exact absurd (quote_mem_of_quoted h)
      ((by decide : ∀ l ∈ headLines ++ endLines ++ sectionLines, '"' ∉ l.toList) l hl)
  · exact ⟨a, ha, (infix_name_of_mem_entryLines hl h).trans (name_infix_joinPath dir a.name)⟩
  · exact ⟨a, ha, infix_joinPath_of_mem_dataLines hl h⟩

/-- What the table puts in is what some literal stands for that lies in the path of some
application. -/
theorem exists_app_of_mem_namings {dir : String} {apps : List App} {n : Naming} {v : List UInt8}
    (hn : n ∈ namings (assembly dir apps)) (hv : n.value = some v) :
    ∃ a ∈ apps, ∃ body, body <:+: (joinPath dir a.name).toList ∧ StandsFor body v := by
  obtain ⟨line, hline, hnaming⟩ := List.mem_filterMap.mp hn
  obtain ⟨body, hbody, hstands⟩ := exists_literal_of_naming? hnaming hv
  rw [toList_assembly, splitOn_text, List.mem_append, List.mem_singleton] at hline
  rcases hline with hline | rfl
  · obtain ⟨l, hl, hline⟩ := List.mem_flatMap.mp hline
    obtain ⟨a, ha, hin⟩ :=
      exists_app_of_mem_lines hl (hbody.trans (infix_of_mem_splitOn hline))
    exact ⟨a, ha, body, hin, hstands⟩
  · cases quote_mem_of_quoted hbody

/-! ### Names that are not plain -/

/-- **If the table puts in all that it should, every name is plain.** -/
theorem isPlain_of_namings {dir : String} (hdir : IsPlain dir.toList) {apps : List App}
    (h : namings (assembly dir apps) = apps.flatMap (App.namings dir)) :
    ∀ a ∈ apps, IsPlain a.name.toList := by
  by_contra hsome
  -- Of the names that are not plain, take one with the longest path.
  let size (a : App) : Nat := (bytes (joinPath dir a.name).toList).length
  obtain ⟨a, ha, hmax⟩ := (apps.toFinset.filter fun a => ¬ IsPlain a.name.toList).exists_max_image
    size (by simpa [Finset.Nonempty] using hsome)
  rw [Finset.mem_filter, List.mem_toFinset] at ha
  have hmem :
      ⟨.binary, some (Utf8.encode (joinPath dir a.name))⟩ ∈ namings (assembly dir apps) := by
    rw [h]
    exact List.mem_flatMap.mpr ⟨a, ha.1, by simp [App.namings]⟩
  obtain ⟨b, hb, body, hin, hstands⟩ := exists_app_of_mem_namings hmem rfl
  generalize hv : Utf8.encode (joinPath dir a.name) = v at hstands
  cases hstands with
  | plain hplain =>
    have hbody : joinPath dir a.name = String.ofList body := by
      refine Utf8.encode_injective (hv.trans ?_)
      rw [Utf8.encode, String.toList_ofList]
      rfl
    have hname := name_infix_joinPath dir a.name
    rw [hbody, String.toList_ofList] at hname
    exact ha.2 (hplain.mono hname)
  | shorter hbody hlt =>
    have hbad : ¬ IsPlain b.name.toList :=
      fun hb => hbody ((isPlain_joinPath hdir hb).mono hin)
    have hle : size b ≤ size a := hmax b (by simp [hb, hbad])
    have hbound := length_bytes_mono hin
    rw [← hv] at hlt
    exact absurd (Nat.lt_of_lt_of_le hlt (Nat.le_trans hbound hle)) (Nat.lt_irrefl _)

/-! ### Plain names -/

theorem IsPlain.isOneLine {s : String} (h : IsPlain s.toList) : IsOneLine s :=
  fun hmem => (h _ hmem).2.2 rfl

/-- What the table puts in for an application with a plain name. -/
theorem namings_assembly_of_isPlain {dir : String} (hdir : IsPlain dir.toList) {apps : List App}
    (h : ∀ a ∈ apps, IsPlain a.name.toList) :
    namings (assembly dir apps) = apps.flatMap fun a =>
      (naming? (nameLabel a ++ ":").toList).toList ++ ⟨.text, some (Utf8.encode a.name)⟩ ::
        ((naming? (binaryLabel a ++ ":").toList).toList ++
          [⟨.binary, some (Utf8.encode (joinPath dir a.name))⟩]) := by
  have hlines := isOneLine_of_mem_lines hdir.isOneLine fun a ha => (h a ha).isOneLine
  have hrest : [[]].filterMap naming? = [] := by decide +kernel
  have hhead : headLines.filterMap (fun l => naming? l.toList) = [] := by decide +kernel
  have hend : endLines.filterMap (fun l => naming? l.toList) = [] := by decide +kernel
  have hsection : sectionLines.filterMap (fun l => naming? l.toList) = [] := by decide +kernel
  have hentries : (apps.flatMap entryLines).filterMap (fun l => naming? l.toList) = [] := by
    rw [List.filterMap_flatMap, List.flatMap_eq_nil_iff]
    intro a _
    have hblank : naming? "".toList = none := by decide +kernel
    simp only [entryLines, List.filterMap_cons, hblank, naming?_word, List.filterMap_nil]
  rw [namings, toList_assembly, splitOn_text_of_isOneLine hlines, List.filterMap_append, hrest,
    List.append_nil, List.filterMap_map]
  show (lines dir apps).filterMap (fun l => naming? l.toList) = _
  rw [lines, List.filterMap_append, List.filterMap_append, List.filterMap_append,
    List.filterMap_append, hhead, hend, hsection, hentries, List.filterMap_flatMap]
  exact List.flatMap_congr fun a ha => filterMap_naming?_dataLines hdir (h a ha)

theorem isPlain_label {a : App} (h : IsPlain a.name.toList) :
    IsPlain (nameLabel a ++ ":").toList ∧ IsPlain (binaryLabel a ++ ":").toList := by
  simp only [nameLabel, binaryLabel, String.toList_append]
  exact ⟨IsPlain.append (IsPlain.append (by decide) h) (by decide),
    IsPlain.append (IsPlain.append (by decide) h) (by decide)⟩

/-- A line without quotes puts in nothing if all that is put in is a literal. -/
theorem naming?_eq_none_of_isPlain (dir : String) (apps : List App) {line : List Char}
    (hline : IsPlain line) (h : ∀ n ∈ naming? line, n ∈ apps.flatMap (App.namings dir)) :
    naming? line = none := by
  rw [Option.eq_none_iff_forall_ne_some]
  intro n hn
  obtain ⟨a, _, ha⟩ := List.mem_flatMap.mp (h n hn)
  have hvalue : ∃ v, n.value = some v := by
    simp only [App.namings, List.mem_cons, List.not_mem_nil, or_false] at ha
    rcases ha with rfl | rfl
    · exact ⟨_, rfl⟩
    · exact ⟨_, rfl⟩
  obtain ⟨v, hv⟩ := hvalue
  obtain ⟨body, hin, _⟩ := exists_literal_of_naming? hn hv
  exact (hline _ (quote_mem_of_quoted hin)).1 rfl

/-- **The table puts in the name and the binary of each application, and nothing else, just if
every name is plain and no label hides a statement.** -/
theorem namings_assembly_iff {dir : String} (hdir : IsPlain dir.toList) (apps : List App) :
    namings (assembly dir apps) = apps.flatMap (App.namings dir) ↔
      ∀ a ∈ apps, IsPlain a.name.toList ∧ Silent a := by
  constructor
  · intro h a ha
    have hplain := isPlain_of_namings hdir h
    rw [namings_assembly_of_isPlain hdir hplain] at h
    obtain ⟨hname, hbinary⟩ := isPlain_label (hplain a ha)
    refine ⟨hplain a ha, naming?_eq_none_of_isPlain dir apps hname fun n hn => ?_,
      naming?_eq_none_of_isPlain dir apps hbinary fun n hn => ?_⟩
    · rw [← h]
      exact List.mem_flatMap.mpr ⟨a, ha, List.mem_append_left _ (Option.mem_toList.mpr hn)⟩
    · rw [← h]
      refine List.mem_flatMap.mpr ⟨a, ha, List.mem_append_right _ (List.mem_cons_of_mem _ ?_)⟩
      exact List.mem_append_left _ (Option.mem_toList.mpr hn)
  · intro h
    rw [namings_assembly_of_isPlain hdir fun a ha => (h a ha).1]
    refine List.flatMap_congr fun a ha => ?_
    obtain ⟨hname, hbinary⟩ := (h a ha).2
    rw [hname, hbinary]
    rfl

/-- Names with blanks and with characters beyond ASCII are read as they are. -/
theorem namings_assembly_plain_names :
    IsPlain "apps".toList ∧
      namings (assembly "apps" [⟨"a b", 1⟩, ⟨"ä", 2⟩]) =
        [⟨"a b", 1⟩, ⟨"ä", 2⟩].flatMap (App.namings "apps") := by
  refine ⟨by decide, (namings_assembly_iff (by decide) _).mpr ?_⟩
  have hcolon : ∀ a ∈ [(⟨"a b", 1⟩ : App), ⟨"ä", 2⟩], ':' ∉ a.name.toList := by decide
  have hplain : ∀ a ∈ [(⟨"a b", 1⟩ : App), ⟨"ä", 2⟩], IsPlain a.name.toList := by decide
  exact fun a ha => ⟨hplain a ha, silent_of_colon_not_mem (hcolon a ha)⟩

/-- The directory `d` with one file, the name of which has a backslash in it. -/
def backslashApp : FileSystem :=
  ((FileSystem.empty [0x77]).put [[0x64], [0x77]] .directory).put
    [[0x61, 0x5C, 0x74, 0x62], [0x64], [0x77]] (.file [0])

/-- In the table the backslash and the letter after it are read as a tab. -/
theorem namings_backslashApp :
    collectAt backslashApp [0x64] = .ok [⟨"a\\tb", 1⟩] ∧
      namings (assembly "d" [⟨"a\\tb", 1⟩]) =
        [⟨.text, some [0x61, 0x09, 0x62]⟩, ⟨.binary, some [0x64, 0x2F, 0x61, 0x09, 0x62]⟩] ∧
      namings (assembly "d" [⟨"a\\tb", 1⟩]) ≠ [⟨"a\\tb", 1⟩].flatMap (App.namings "d") := by
  have hread : namings (assembly "d" [⟨"a\\tb", 1⟩]) =
      [⟨.text, some [0x61, 0x09, 0x62]⟩, ⟨.binary, some [0x64, 0x2F, 0x61, 0x09, 0x62]⟩] := by
    rw [namings, toList_assembly, splitOn_text_of_isOneLine
      (isOneLine_of_mem_lines (by decide) (by decide))]
    decide +kernel
  refine ⟨by decide +kernel, hread, ?_⟩
  rw [hread]
  decide

end Paging.AppTable
