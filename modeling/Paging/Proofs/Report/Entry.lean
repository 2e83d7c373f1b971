import Paging.Proofs.Entry.Decoding
import Paging.Proofs.Entry.Letters
import Paging.Proofs.Report.Line
import Paging.Proofs.Text.Written
import Paging.Report

/-!
# Reports about entries, read back

A reader takes the detailed report of an entry line by line (`EntryReading.ofText?`).  The letters
and three of the numerals are the four fields of the entry, and put together they are the entry
(`EntryReading.joined?`).  What the report tells besides, the physical address and the kind, follows
from these (`EntryReading.Consistent`).  The first line stands in every report.  Alone it tells just
what the entry decodes to, so it is the same for entries that are `Entry.Alike`
(`mapping_eq_iff`).
-/

namespace Paging.Report

open Text

/-! ### The lines of a report -/

def mappingLine (m : Mapping) : String :=
  "Phys Addr: " ++ ("0x" ++ hexUpper m.physical.toNat ++ (", " ++ m.flags.text))

def kindLine (k : EntryKind) : String := "Kind: " ++ kind k

def softwareLine (n : UInt8) : String := "RSW: 0b" ++ binary 2 n.toNat

def pageNumberLine (n : UInt64) : String := "PPN field: " ++ ("0x" ++ hexUpper n.toNat)

def reservedLine (n : UInt16) : String := "Reserved: " ++ ("0x" ++ hexUpper n.toNat)

def entryLines (e : Entry) : List String :=
  [mappingLine e.decode, kindLine e.kind, softwareLine e.software, pageNumberLine e.pageNumber,
    reservedLine e.reserved]

theorem mapping_eq_ofLines (m : Mapping) : mapping m = ofLines [mappingLine m] := by
  have hmark : "Phys Addr: 0x" = "Phys Addr: " ++ "0x" := rfl
  unfold mapping ofLines mappingLine
  simp only [hmark, List.map_cons, List.map_nil, String.join_cons, String.join_nil,
    String.append_empty]
  simp only [String.append_assoc]

theorem report_eq_ofLines (e : Entry) : mapping e.decode ++ details e = ofLines (entryLines e) := by
  have hpage : "PPN field: 0x" = "PPN field: " ++ "0x" := rfl
  have hreserved : "Reserved: 0x" = "Reserved: " ++ "0x" := rfl
  rw [mapping_eq_ofLines]
  unfold details ofLines entryLines kindLine softwareLine pageNumberLine reservedLine
  simp only [hpage, hreserved, List.map_cons, List.map_nil, String.join_cons, String.join_nil,
    String.append_empty]
  simp only [String.append_assoc]

theorem isOneLine_mappingLine (m : Mapping) : IsOneLine (mappingLine m) := by
  have hdigits : IsOneLine (hexUpper m.physical.toNat) := (noControl_hexUpper _).isOneLine
  have hletters : IsOneLine m.flags.text := (noControl_flags _).isOneLine
  have hnumeral := IsOneLine.append (s := "0x") (by decide) hdigits
  exact IsOneLine.append (by decide) (hnumeral.append (IsOneLine.append (by decide) hletters))

theorem isOneLine_of_mem_entryLines {e : Entry} {l : String} (h : l ∈ entryLines e) :
    IsOneLine l := by
  have hkind : IsOneLine (kind e.kind) := by
    cases e.kind <;> decide
  have hsoftware : IsOneLine (binary 2 e.software.toNat) := (noControl_binary _ _).isOneLine
  have hpage : IsOneLine (hexUpper e.pageNumber.toNat) := (noControl_hexUpper _).isOneLine
  have hreserved : IsOneLine (hexUpper e.reserved.toNat) := (noControl_hexUpper _).isOneLine
  simp only [entryLines, List.mem_cons, List.not_mem_nil, or_false] at h
  rcases h with rfl | rfl | rfl | rfl | rfl
  · exact isOneLine_mappingLine e.decode
  · exact IsOneLine.append (by decide) hkind
  · exact IsOneLine.append (by decide) hsoftware
  · exact IsOneLine.append (by decide) (IsOneLine.append (by decide) hpage)
  · exact IsOneLine.append (by decide) (IsOneLine.append (by decide) hreserved)

/-! ### The first line -/

/-- What stands in the line about a mapping: a numeral and letters. -/
structure MappingReading where
  physical : String
  letters : String
  deriving DecidableEq, Repr

namespace MappingReading

def ofLine? (line : String) : Option MappingReading :=
  (after? "Phys Addr: " line).bind fun rest =>
    let (physical, rest) := cut (· ≠ ',') rest
    (after? ", " rest).map fun letters => ⟨physical, letters⟩

def ofMapping (m : Mapping) : MappingReading :=
  ⟨"0x" ++ hexUpper m.physical.toNat, m.flags.text⟩

theorem ne_comma_of_mem_hexUpper {n : Nat} {c : Char} (h : c ∈ ("0x" ++ hexUpper n).toList) :
    c ≠ ',' := by
  rintro rfl
  rw [toList_marked] at h
  rcases List.mem_cons.mp h with h | h
  · exact absurd h (by decide)
  rcases List.mem_cons.mp h with h | h
  · exact absurd h (by decide)
  · exact absurd (isHexDigit_of_mem_hexUpper h) (by decide)

theorem ofLine?_mappingLine (m : Mapping) : ofLine? (mappingLine m) = some (ofMapping m) := by
  have hcut : cut (· ≠ ',') ("0x" ++ hexUpper m.physical.toNat ++ (", " ++ m.flags.text)) =
      ("0x" ++ hexUpper m.physical.toNat, ", " ++ m.flags.text) := by
    apply cut_append
    · intro c hc
      exact decide_eq_true (ne_comma_of_mem_hexUpper hc)
    · intro c hc
      rw [String.toList_append] at hc
      cases hc
      decide
  simp only [ofLine?, mappingLine, after?_append, Option.bind_some, hcut, Option.map_some]
  rfl

theorem ofMapping_inj {m m' : Mapping} (h : ofMapping m = ofMapping m') : m = m' := by
  have hphysical : m.physical = m'.physical := by
    have hnumeral : "0x" ++ hexUpper m.physical.toNat = "0x" ++ hexUpper m'.physical.toNat :=
      congrArg MappingReading.physical h
    have hread := parseHex_hexUpper m.physical
    rw [hnumeral, parseHex_hexUpper] at hread
    exact (Except.ok.inj hread).symm
  have hflags : m.flags = m'.flags := by
    have hletters : m.flags.text = m'.flags.text := congrArg MappingReading.letters h
    have hread := Flags.ofText?_text m.flags
    rw [hletters, Flags.ofText?_text] at hread
    exact (Option.some.inj hread).symm
  exact congrArg₂ Mapping.mk hphysical hflags

end MappingReading

/-- **The first line tells the mapping.** -/
theorem mapping_injective {m m' : Mapping} (h : mapping m = mapping m') : m = m' := by
  have hline (m : Mapping) : lines? (mapping m) = some [mappingLine m] := by
    rw [mapping_eq_ofLines]
    apply lines?_ofLines
    intro l hl
    rw [List.mem_singleton.mp hl]
    exact isOneLine_mappingLine m
  have hsame : mappingLine m = mappingLine m' := by
    have hlines := hline m
    rw [h, hline m'] at hlines
    exact (List.singleton_inj.mp (Option.some.inj hlines)).symm
  apply MappingReading.ofMapping_inj
  apply Option.some.inj
  rw [← MappingReading.ofLine?_mappingLine, hsame, MappingReading.ofLine?_mappingLine]

/-- **The first line passes over four bits**: those that decoding passes over. -/
theorem mapping_eq_iff {x y : Entry} : mapping x.decode = mapping y.decode ↔ x.Alike y := by
  rw [← Entry.decode_eq_iff]
  constructor
  · exact mapping_injective
  · intro h
    rw [h]

/-! ### What a report tells -/

def impliedKind (letters : String) : String :=
  if 'V' ∉ letters.toList then "not valid"
  else if 'R' ∈ letters.toList ∨ 'W' ∈ letters.toList ∨ 'X' ∈ letters.toList then "leaf"
  else "branch"

theorem kind_eq_impliedKind (e : Entry) : kind e.kind = impliedKind e.flags.text := by
  have hv : 'V' ∈ e.flags.text.toList ↔ e.flags.has .valid := Flags.letter_mem_text_iff .valid
  have hr : 'R' ∈ e.flags.text.toList ↔ e.flags.has .readable := Flags.letter_mem_text_iff .readable
  have hw : 'W' ∈ e.flags.text.toList ↔ e.flags.has .writable := Flags.letter_mem_text_iff .writable
  have hx : 'X' ∈ e.flags.text.toList ↔ e.flags.has .executable :=
    Flags.letter_mem_text_iff .executable
  unfold impliedKind Entry.kind
  simp only [hv, hr, hw, hx, Bool.not_eq_true', Bool.or_eq_true, Bool.not_eq_true, or_assoc]
  split
  · rfl
  · split
    · rfl
    · rfl

/-- What stands in the detailed report of an entry, each numeral as a text. -/
structure EntryReading where
  mapping : MappingReading
  kind : String
  software : String
  pageNumber : String
  reserved : String
  deriving DecidableEq, Repr

namespace EntryReading

def ofLines? : List String → Option EntryReading
  | [first, second, third, fourth, fifth] => do
    let mapping ← MappingReading.ofLine? first
    let kind ← after? "Kind: " second
    let software ← after? "RSW: 0b" third
    let pageNumber ← after? "PPN field: " fourth
    let reserved ← after? "Reserved: " fifth
    return ⟨mapping, kind, software, pageNumber, reserved⟩
  | _ => none

def ofText? (s : String) : Option EntryReading := (lines? s).bind ofLines?

def joined? (r : EntryReading) : Option Entry := do
  let flags ← Flags.ofText? r.mapping.letters
  let software ← ofBinary? r.software
  let pageNumber ← (parseHex r.pageNumber).toOption
  let reserved ← (parseHex r.reserved).toOption
  return ⟨.ofNat (reserved.toNat * 2 ^ 54 + pageNumber.toNat * 2 ^ 10 + software * 2 ^ 8 +
    flags.bits.toNat)⟩

/-- The physical address is told twice, in the first line and by two of the fields, and the kind is
told by the letters once more. -/
structure Consistent (r : EntryReading) : Prop where
  physical : ∃ physical pageNumber reserved : UInt64,
    parseHex r.mapping.physical = .ok physical ∧ parseHex r.pageNumber = .ok pageNumber ∧
    parseHex r.reserved = .ok reserved ∧
    physical.toNat = pageNumber.toNat * 2 ^ 12 + reserved.toNat % 256 * 2 ^ 56
  software : r.software.length = 2 ∧ ∀ c ∈ r.software.toList, isBinaryDigit c = true
  kind : r.kind = impliedKind r.mapping.letters

def ofEntry (e : Entry) : EntryReading :=
  ⟨.ofMapping e.decode, Report.kind e.kind, binary 2 e.software.toNat,
    "0x" ++ hexUpper e.pageNumber.toNat, "0x" ++ hexUpper e.reserved.toNat⟩

theorem ofLines?_entryLines (e : Entry) : ofLines? (entryLines e) = some (ofEntry e) := by
  simp only [ofLines?, entryLines, MappingReading.ofLine?_mappingLine, kindLine, softwareLine,
    pageNumberLine, reservedLine, after?_append, Option.bind_eq_bind, Option.bind_some]
  rfl

theorem ofText?_report (e : Entry) : ofText? (Report.mapping e.decode ++ details e) =
    some (ofEntry e) := by
  have hlines : lines? (ofLines (entryLines e)) = some (entryLines e) :=
    lines?_ofLines fun l hl => isOneLine_of_mem_entryLines hl
  rw [report_eq_ofLines, ofText?, hlines, Option.bind_some, ofLines?_entryLines]

/-- A field of 16 bits is read as a number of 64 bits. -/
theorem parseHex_reserved (e : Entry) :
    parseHex ("0x" ++ hexUpper e.reserved.toNat) = .ok e.reserved.toUInt64 := by
  rw [← UInt16.toNat_toUInt64]
  exact parseHex_hexUpper _

/-- **The fields that are read are the entry.** -/
theorem joined?_ofEntry (e : Entry) : (ofEntry e).joined? = some e := by
  unfold joined? ofEntry MappingReading.ofMapping
  simp only [Flags.ofText?_text, ofBinary?_binary, parseHex_hexUpper, parseHex_reserved,
    Except.toOption, Option.bind_eq_bind, Option.bind_some]
  have hbits : e.reserved.toUInt64.toNat * 2 ^ 54 + e.pageNumber.toNat * 2 ^ 10 +
      e.software.toNat * 2 ^ 8 + e.decode.flags.bits.toNat = e.bits.toNat := by
    rw [UInt16.toNat_toUInt64]
    exact e.toNat_bits.symm
  rw [hbits, UInt64.ofNat_toNat]
  rfl

theorem consistent_ofEntry (e : Entry) : (ofEntry e).Consistent where
  physical := by
    refine ⟨e.physical, e.pageNumber, e.reserved.toUInt64, parseHex_hexUpper _,
      parseHex_hexUpper _, parseHex_reserved e, ?_⟩
    rw [UInt16.toNat_toUInt64, e.toNat_physical_eq_fields]
    exact Nat.add_comm _ _
  software := by
    have hlt : e.software.toNat < 2 ^ 2 := by
      rw [e.toNat_software]
      exact Nat.mod_lt _ (by decide)
    have hsize : e.software.toNat.size ≤ 2 := Nat.size_le.mpr hlt
    refine ⟨?_, fun c hc => isBinaryDigit_of_mem_binary hc⟩
    show (binary 2 e.software.toNat).length = 2
    rw [length_binary (by decide)]
    exact Nat.max_eq_left hsize
  kind := kind_eq_impliedKind e

end EntryReading

def entryOf? (s : String) : Option Entry := (EntryReading.ofText? s).bind EntryReading.joined?

theorem entryOf?_report (e : Entry) : entryOf? (mapping e.decode ++ details e) = some e := by
  rw [entryOf?, EntryReading.ofText?_report, Option.bind_some, EntryReading.joined?_ofEntry]

/-- **A detailed report determines the entry.**  It is read back as the entry, so no two reports are
the same, and what it tells twice agrees.  The first line alone is the same for two entries just if
these agree on all bits but 63, 62, 9 and 8. -/
theorem entry_report_read_back :
    (∀ e : Entry, entryOf? (mapping e.decode ++ details e) = some e) ∧
    (∀ x y : Entry, mapping x.decode ++ details x = mapping y.decode ++ details y ↔ x = y) ∧
    (∀ e : Entry, ∃ r, EntryReading.ofText? (mapping e.decode ++ details e) = some r ∧
      r.Consistent) ∧
    ∀ x y : Entry, mapping x.decode = mapping y.decode ↔ x.Alike y := by
  refine ⟨entryOf?_report, ?_, ?_, fun x y => mapping_eq_iff⟩
  · intro x y
    constructor
    · intro h
      apply Option.some.inj
      rw [← entryOf?_report, h, entryOf?_report]
    · intro h
      rw [h]
  · intro e
    exact ⟨_, EntryReading.ofText?_report e, EntryReading.consistent_ofEntry e⟩

end Paging.Report
