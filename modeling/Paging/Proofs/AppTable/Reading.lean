import Mathlib.Data.List.Forall2
import Mathlib.Data.List.Nodup
import Paging.Proofs.AppTable.Join
import Paging.Proofs.AppTable.Layout
import Paging.Proofs.Text.OneLine

/-!
# Reading the table back

A reader that knows nothing of applications takes the text line by line for statements, those of the
table by three words each, and those of the section after it by the blocks they form.
-/

namespace Paging.AppTable

open Text

/-! ### Statements -/

inductive Statement
  | align (boundary : String)
  /-- What follows goes to another section. -/
  | inSection (name : String)
  | exported (symbol : String)
  | label (symbol : String)
  | word (value : String)
  /-- A text, as it stands between its quotes. -/
  | string (quoted : String)
  /-- The content of a file, with the path as it stands between its quotes. -/
  | binary (quoted : String)
  deriving DecidableEq, Repr

namespace Statement

def unquote? : List Char → Option String
  | '"' :: rest => if rest.getLast? = some '"' then some (String.ofList rest.dropLast) else none
  | _ => none

def directive? (name : List Char) (operand : List Char) : Option Statement :=
  if name = ".align".toList then some (.align (String.ofList operand))
  else if name = ".section".toList then some (.inSection (String.ofList operand))
  else if name = ".global".toList then some (.exported (String.ofList operand))
  else if name = ".quad".toList then some (.word (String.ofList operand))
  else if name = ".string".toList then (unquote? operand).map .string
  else if name = ".incbin".toList then (unquote? operand).map .binary
  else none

/-- What a line says.  A label stands at the start of its line with a colon at the end.  A directive
may be indented, and one blank parts it from its operand. -/
def ofLine? (line : List Char) : Option Statement :=
  if line.head? ≠ some ' ' ∧ line.getLast? = some ':' then
    some (.label (String.ofList line.dropLast))
  else
    let words := line.dropWhile (· = ' ')
    directive? (words.takeWhile (· ≠ ' ')) ((words.dropWhile (· ≠ ' ')).drop 1)

def label? : Statement → Option String
  | label symbol => some symbol
  | _ => none

end Statement

def statements (s : String) : List Statement := (s.toList.splitOn '\n').filterMap Statement.ofLine?

theorem ofLine?_word (value : String) :
    Statement.ofLine? (word value).toList = some (.word value) := by
  rw [toList_word, Statement.ofLine?, if_neg (by simp)]
  show some (Statement.word (String.ofList value.toList)) = _
  rw [String.ofList_toList]

theorem ofLine?_label {symbol : String} (h : symbol.toList.head? = some '.') :
    Statement.ofLine? (symbol ++ ":").toList = some (.label symbol) := by
  have hlist : (symbol ++ ":").toList = symbol.toList ++ [':'] := String.toList_append
  have hhead : (symbol.toList ++ [':']).head? = some '.' := by
    rw [List.head?_append, h]
    rfl
  rw [hlist, Statement.ofLine?, if_pos ⟨by simp [hhead], List.getLast?_concat⟩,
    List.dropLast_concat, String.ofList_toList]

theorem unquote?_quoted (t : String) : Statement.unquote? (quoted t.toList) = some t := by
  rw [quoted, Statement.unquote?, if_pos List.getLast?_concat, List.dropLast_concat,
    String.ofList_toList]

theorem ofLine?_string (t : String) :
    Statement.ofLine? ("    .string \"" ++ t ++ "\"").toList = some (.string t) := by
  rw [toList_stringLine, Statement.ofLine?, if_neg (by simp [quoted])]
  show (Statement.unquote? (quoted t.toList)).map _ = _
  rw [unquote?_quoted]
  rfl

theorem ofLine?_binary (path : String) :
    Statement.ofLine? ("    .incbin \"" ++ path ++ "\"").toList = some (.binary path) := by
  rw [toList_incbinLine, Statement.ofLine?, if_neg (by simp [quoted])]
  show (Statement.unquote? (quoted path.toList)).map _ = _
  rw [unquote?_quoted]
  rfl

/-! ### Lines -/

theorem splitOn_text_of_isOneLine {ls : List String} (h : ∀ l ∈ ls, IsOneLine l) :
    (text ls).splitOn '\n' = ls.map String.toList ++ [[]] := by
  have hsplit : (ls.flatMap fun l => l.toList.splitOn '\n') = ls.flatMap fun l => [l.toList] :=
    List.flatMap_congr fun l hl => List.splitOn_eq_singleton (h l hl)
  rw [splitOn_text, hsplit, List.map_eq_flatMap]

theorem isOneLine_decimal (n : Nat) : IsOneLine (decimal n) := by
  intro h
  cases isDecimalDigit_of_mem_decimal h

theorem isOneLine_joinPath {dir name : String} (hdir : IsOneLine dir) (hname : IsOneLine name) :
    IsOneLine (joinPath dir name) := by
  intro h
  exact forall_mem_joinPath (P := (· ≠ '\n')) (by decide) (fun c hc => ne_of_mem_of_not_mem hc hdir)
    (fun c hc => ne_of_mem_of_not_mem hc hname) _ h rfl

theorem isOneLine_of_mem_entryLines {a : App} (h : IsOneLine a.name) :
    ∀ l ∈ entryLines a, IsOneLine l := by
  have hword {value : String} (hvalue : IsOneLine value) : IsOneLine (word value) :=
    IsOneLine.append (by decide) hvalue
  simp only [entryLines, List.forall_mem_cons, List.not_mem_nil, false_implies, implies_true,
    and_true]
  exact ⟨by decide, hword (IsOneLine.append (by decide) h), hword (IsOneLine.append (by decide) h),
    hword (isOneLine_decimal a.size)⟩

theorem isOneLine_of_mem_dataLines {dir : String} (hdir : IsOneLine dir) {a : App}
    (h : IsOneLine a.name) : ∀ l ∈ dataLines dir a, IsOneLine l := by
  have hquoted {opening t : String} (ho : IsOneLine opening) (ht : IsOneLine t) :
      IsOneLine (opening ++ t ++ "\"") := (ho.append ht).append (by decide)
  have hlabel {opening : String} (ho : IsOneLine opening) : IsOneLine (opening ++ a.name ++ ":") :=
    (ho.append h).append (by decide)
  simp only [dataLines, List.forall_mem_cons, List.not_mem_nil, false_implies, implies_true,
    and_true]
  exact ⟨by decide, hlabel (by decide), hquoted (by decide) h, by decide, hlabel (by decide),
    hquoted (by decide) (isOneLine_joinPath hdir h)⟩

theorem isOneLine_of_mem_lines {dir : String} (hdir : IsOneLine dir) {apps : List App}
    (h : ∀ a ∈ apps, IsOneLine a.name) : ∀ l ∈ lines dir apps, IsOneLine l := by
  intro l hl
  rcases mem_lines hl with hl | ⟨a, ha, hl | hl⟩
  · exact (by decide : ∀ l ∈ headLines ++ endLines ++ sectionLines, IsOneLine l) l hl
  · exact isOneLine_of_mem_entryLines (h a ha) l hl
  · exact isOneLine_of_mem_dataLines hdir (h a ha) l hl

/-! ### Statements of the table -/

def entryStatements (a : App) : List Statement :=
  [.word (nameLabel a), .word (binaryLabel a), .word (decimal a.size)]

def dataStatements (dir : String) (a : App) : List Statement :=
  [.label (nameLabel a), .string a.name, .align "8", .label (binaryLabel a),
    .binary (joinPath dir a.name)]

theorem filterMap_entryLines (a : App) :
    (entryLines a).filterMap (fun l => Statement.ofLine? l.toList) = entryStatements a := by
  have hblank : Statement.ofLine? "".toList = none := rfl
  simp only [entryLines, List.filterMap_cons, hblank, ofLine?_word, List.filterMap_nil]
  rfl

theorem filterMap_dataLines (dir : String) (a : App) :
    (dataLines dir a).filterMap (fun l => Statement.ofLine? l.toList) = dataStatements dir a := by
  have hblank : Statement.ofLine? "".toList = none := rfl
  have halign : Statement.ofLine? ".align 8".toList = some (.align "8") := rfl
  have hname : (nameLabel a).toList.head? = some '.' := by simp [nameLabel]
  have hbinary : (binaryLabel a).toList.head? = some '.' := by simp [binaryLabel]
  simp only [dataLines, List.filterMap_cons, hblank, halign, ofLine?_label hname,
    ofLine?_label hbinary, ofLine?_string, ofLine?_binary, List.filterMap_nil]
  rfl

theorem statements_assembly {dir : String} (hdir : IsOneLine dir) {apps : List App}
    (h : ∀ a ∈ apps, IsOneLine a.name) :
    statements (assembly dir apps) =
      [.align "8", .inSection ".data", .exported "user_apps", .label "user_apps"] ++
        (apps.flatMap entryStatements ++ ([.word "0", .word "0", .word "0"] ++
          .inSection ".data.apps" :: apps.flatMap (dataStatements dir))) := by
  rw [statements, toList_assembly, splitOn_text_of_isOneLine (isOneLine_of_mem_lines hdir h),
    List.filterMap_append, List.filterMap_map]
  have hrest : [[]].filterMap Statement.ofLine? = [] := rfl
  simp only [lines, List.filterMap_append, List.filterMap_flatMap, Function.comp_def,
    filterMap_entryLines, filterMap_dataLines, hrest, List.append_nil, List.append_assoc]
  rfl

/-! ### The reader -/

/-- Three words of the table: where a name and a binary are, and a size. -/
structure Triple where
  name : String
  binary : String
  size : String
  deriving DecidableEq, Repr

def Triple.zero : Triple := ⟨"0", "0", "0"⟩

def Triple.app? (t : Triple) : Option App :=
  match t.name.toList.dropPrefix? ".str_".toList, ofDecimal? t.size with
  | some name, some size =>
    if t.binary.toList = ".elf_".toList ++ name then some ⟨String.ofList name, size⟩ else none
  | _, _ => none

/-- A name and a binary, each after its label. -/
structure Block where
  nameLabel : String
  name : String
  binaryLabel : String
  path : String
  deriving DecidableEq, Repr

structure Reading where
  triples : List Triple
  blocks : List Block
  deriving DecidableEq, Repr

def takeTriples : List Statement → List Triple × List Statement
  | .word a :: .word b :: .word c :: rest =>
    (⟨a, b, c⟩ :: (takeTriples rest).1, (takeTriples rest).2)
  | rest => ([], rest)

def takeBlocks : List Statement → List Block × List Statement
  | .label n :: .string s :: .align _ :: .label e :: .binary p :: rest =>
    (⟨n, s, e, p⟩ :: (takeBlocks rest).1, (takeBlocks rest).2)
  | rest => ([], rest)

/-- Reads the table under its label by threes, and the section after it by blocks up to the end. -/
def Reading.ofText? (s : String) : Option Reading :=
  match (statements s).dropWhile (· ≠ .label "user_apps") with
  | [] => none
  | _ :: rest =>
    match takeTriples rest with
    | (triples, .inSection ".data.apps" :: rest) =>
      match takeBlocks rest with
      | (blocks, []) => some ⟨triples, blocks⟩
      | _ => none
    | _ => none

def labels (s : String) : List String := (statements s).filterMap Statement.label?

/-! ### What is read -/

def App.triple (a : App) : Triple := ⟨nameLabel a, binaryLabel a, decimal a.size⟩

def App.block (dir : String) (a : App) : Block :=
  ⟨nameLabel a, a.name, binaryLabel a, joinPath dir a.name⟩

theorem takeTriples_flatMap (apps : List App) (rest : List Statement) :
    takeTriples (apps.flatMap entryStatements ++ rest) =
      (apps.map App.triple ++ (takeTriples rest).1, (takeTriples rest).2) := by
  induction apps with
  | nil => rfl
  | cons a apps ih =>
    show takeTriples (.word _ :: .word _ :: .word _ :: (apps.flatMap entryStatements ++ rest)) = _
    rw [takeTriples, ih]
    rfl

theorem takeBlocks_flatMap (dir : String) (apps : List App) :
    takeBlocks (apps.flatMap (dataStatements dir)) = (apps.map (App.block dir), []) := by
  induction apps with
  | nil => rfl
  | cons a apps ih =>
    show takeBlocks (.label _ :: .string _ :: .align _ :: .label _ :: .binary _ ::
      apps.flatMap (dataStatements dir)) = _
    rw [takeBlocks, ih]
    rfl

theorem ofText?_assembly {dir : String} (hdir : IsOneLine dir) {apps : List App}
    (h : ∀ a ∈ apps, IsOneLine a.name) :
    Reading.ofText? (assembly dir apps) =
      some ⟨apps.map App.triple ++ [.zero], apps.map (App.block dir)⟩ := by
  have hstart : (statements (assembly dir apps)).dropWhile (· ≠ .label "user_apps") =
      .label "user_apps" :: (apps.flatMap entryStatements ++
        ([.word "0", .word "0", .word "0"] ++
          .inSection ".data.apps" :: apps.flatMap (dataStatements dir))) := by
    rw [statements_assembly hdir h]
    rfl
  have htriples : takeTriples (apps.flatMap entryStatements ++
        ([.word "0", .word "0", .word "0"] ++
          .inSection ".data.apps" :: apps.flatMap (dataStatements dir))) =
      (apps.map App.triple ++ [.zero],
        .inSection ".data.apps" :: apps.flatMap (dataStatements dir)) :=
    takeTriples_flatMap apps _
  simp only [Reading.ofText?, hstart, htriples, takeBlocks_flatMap]

theorem app?_triple (a : App) : a.triple.app? = some a := by
  have hname : a.triple.name.toList.dropPrefix? ".str_".toList = some a.name.toList := by
    have hlist : a.triple.name.toList = ".str_".toList ++ a.name.toList := String.toList_append
    rw [hlist]
    exact List.dropPrefix?_append_of_beq _ (beq_self_eq_true _)
  have hsize : ofDecimal? a.triple.size = some a.size := ofDecimal?_decimal a.size
  have hbinary : a.triple.binary.toList = ".elf_".toList ++ a.name.toList := String.toList_append
  simp only [Triple.app?, hname, hsize]
  rw [if_pos hbinary, String.ofList_toList]

theorem triple_ne_zero (a : App) : a.triple ≠ .zero := by
  intro h
  have hread := app?_triple a
  rw [h] at hread
  cases hread

theorem mapM_app?_triple (apps : List App) :
    (apps.map App.triple).mapM Triple.app? = some apps := by
  induction apps with
  | nil => rfl
  | cons a apps ih =>
    rw [List.map_cons, List.mapM_cons, app?_triple, ih]
    rfl

/-! ### Labels -/

theorem labels_assembly {dir : String} (hdir : IsOneLine dir) {apps : List App}
    (h : ∀ a ∈ apps, IsOneLine a.name) :
    labels (assembly dir apps) =
      "user_apps" :: apps.flatMap fun a => [nameLabel a, binaryLabel a] := by
  rw [labels, statements_assembly hdir h]
  have hentries : (apps.flatMap entryStatements).filterMap Statement.label? = [] := by
    rw [List.filterMap_flatMap]
    exact List.flatMap_eq_nil_iff.mpr fun a _ => rfl
  have hdata : (apps.flatMap (dataStatements dir)).filterMap Statement.label? =
      apps.flatMap fun a => [nameLabel a, binaryLabel a] := List.filterMap_flatMap
  simp only [List.filterMap_append, hentries]
  exact congrArg ("user_apps" :: ·) hdata

theorem nameLabel_injective {a b : App} (h : nameLabel a = nameLabel b) : a.name = b.name :=
  (String.append_right_inj ".str_").mp h

theorem binaryLabel_injective {a b : App} (h : binaryLabel a = binaryLabel b) : a.name = b.name :=
  (String.append_right_inj ".elf_").mp h

theorem nameLabel_ne_binaryLabel (a b : App) : nameLabel a ≠ binaryLabel b := by
  intro h
  have hlist := congrArg String.toList h
  simp [nameLabel, binaryLabel] at hlist

/-- Under distinct names no label is set twice. -/
theorem nodup_labels {dir : String} (hdir : IsOneLine dir) {apps : List App}
    (h : ∀ a ∈ apps, IsOneLine a.name) (hnames : (apps.map App.name).Nodup) :
    (labels (assembly dir apps)).Nodup := by
  rw [labels_assembly hdir h, List.nodup_cons, List.nodup_flatMap]
  refine ⟨?_, fun a _ => by simp [nameLabel_ne_binaryLabel], ?_⟩
  · rw [List.mem_flatMap]
    rintro ⟨a, _, hmem⟩
    have hlists : "user_apps".toList = (nameLabel a).toList ∨
        "user_apps".toList = (binaryLabel a).toList := by
      rcases List.mem_pair.mp hmem with h | h
      · exact Or.inl (congrArg String.toList h)
      · exact Or.inr (congrArg String.toList h)
    simp [nameLabel, binaryLabel] at hlists
  · refine (List.pairwise_map.mp hnames).imp fun {a b} hne => ?_
    refine List.disjoint_left.mpr fun symbol ha hb => ?_
    rcases List.mem_pair.mp ha with rfl | rfl
    · rcases List.mem_pair.mp hb with hb | hb
      · exact hne (nameLabel_injective hb)
      · exact nameLabel_ne_binaryLabel a b hb
    · rcases List.mem_pair.mp hb with hb | hb
      · exact nameLabel_ne_binaryLabel b a hb.symm
      · exact hne (binaryLabel_injective hb)

/-- **The table can be read back.**  Its words by threes are those of the applications and three
zeros after them, and under each two of their labels stand the name and the binary of the same
application. -/
theorem assembly_read_back {dir : List UInt8} (hdir : IsOneLine (Utf8.decodeLossy dir))
    {apps : List App} (h : ∀ a ∈ apps, IsOneLine a.name) :
    ∃ r refs, Reading.ofText? (assembly (Utf8.decodeLossy dir) apps) = some r ∧
      r.triples = refs ++ [.zero] ∧ Triple.zero ∉ refs ∧ refs.mapM Triple.app? = some apps ∧
      List.Forall₂ (fun t b => b.nameLabel = t.name ∧ b.binaryLabel = t.binary) refs r.blocks ∧
      r.blocks.map Block.name = apps.map App.name ∧
      r.blocks.map Block.path =
        apps.map (fun a => Utf8.decodeLossy (Path.join dir (Utf8.encode a.name))) ∧
      (∀ others, (∀ a ∈ others, IsOneLine a.name) →
        assembly (Utf8.decodeLossy dir) others = assembly (Utf8.decodeLossy dir) apps →
          others = apps) ∧
      ((apps.map App.name).Nodup → ∀ t ∈ refs,
        (labels (assembly (Utf8.decodeLossy dir) apps)).count t.name = 1 ∧
          (labels (assembly (Utf8.decodeLossy dir) apps)).count t.binary = 1) := by
  refine ⟨_, apps.map App.triple, ofText?_assembly hdir h, rfl, ?_, mapM_app?_triple apps, ?_, ?_,
    ?_, ?_, ?_⟩
  · intro hmem
    obtain ⟨a, _, ha⟩ := List.mem_map.mp hmem
    exact triple_ne_zero a ha
  · rw [List.forall₂_map_left_iff, List.forall₂_map_right_iff, List.forall₂_same]
    exact fun a _ => ⟨rfl, rfl⟩
  · exact List.map_map
  · simp only [List.map_map, decodeLossy_join]
    rfl
  · intro others hothers heq
    have hread := ofText?_assembly hdir hothers
    rw [heq, ofText?_assembly hdir h, Option.some.injEq, Reading.mk.injEq,
      List.append_left_inj] at hread
    have happs := mapM_app?_triple others
    rw [← hread.1, mapM_app?_triple] at happs
    exact (Option.some.inj happs).symm
  · intro hnames t ht
    have hnodup := nodup_labels hdir h hnames
    obtain ⟨a, ha, rfl⟩ := List.mem_map.mp ht
    have hmem {symbol : String} (hs : symbol ∈ [nameLabel a, binaryLabel a]) :
        symbol ∈ labels (assembly (Utf8.decodeLossy dir) apps) := by
      rw [labels_assembly hdir h]
      exact List.mem_cons_of_mem _ (List.mem_flatMap.mpr ⟨a, ha, hs⟩)
    exact ⟨List.count_eq_one_of_mem hnodup (hmem List.mem_cons_self),
      List.count_eq_one_of_mem hnodup (hmem (by simp [App.triple]))⟩

/-- Names that look like a directive or a label, and the empty one, in a directory whose path is no
text. -/
theorem assembly_read_back_odd_names :
    IsOneLine (Utf8.decodeLossy [0x61, 0xFF]) ∧
      (∀ a ∈ ([⟨"", 0⟩, ⟨".quad 0", 7⟩, ⟨"/.elf_:", 18446744073709551615⟩] : List App),
        IsOneLine a.name) ∧
      ∃ r refs, Reading.ofText? (assembly (Utf8.decodeLossy [0x61, 0xFF])
          [⟨"", 0⟩, ⟨".quad 0", 7⟩, ⟨"/.elf_:", 18446744073709551615⟩]) = some r ∧
        r.triples = refs ++ [.zero] ∧
        refs.mapM Triple.app? = some [⟨"", 0⟩, ⟨".quad 0", 7⟩, ⟨"/.elf_:", 18446744073709551615⟩] ∧
        r.blocks.map Block.path = ["a\uFFFD/", "a\uFFFD/.quad 0", "/.elf_:"] := by
  have hdir : IsOneLine (Utf8.decodeLossy [0x61, 0xFF]) := by decide
  have hnames : ∀ a ∈ ([⟨"", 0⟩, ⟨".quad 0", 7⟩, ⟨"/.elf_:", 18446744073709551615⟩] : List App),
      IsOneLine a.name := by decide
  obtain ⟨r, refs, hread, htriples, _, hrefs, _, _, hpaths, _⟩ := assembly_read_back hdir hnames
  exact ⟨hdir, hnames, r, refs, hread, htriples, hrefs, hpaths.trans (by decide)⟩

end Paging.AppTable
