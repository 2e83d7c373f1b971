import Paging.Proofs.Address.Canonical
import Paging.Proofs.Report.Line
import Paging.Proofs.Text.Written
import Paging.Report

/-!
# Reports about addresses, read back

A reader takes the report of an address line by line for numerals, as texts
(`AddressReading.ofText?`).  What these stand for is asked of the readers of numbers alone
(`AddressReading.Tells`): the address in hexadecimal and each field in decimal and in binary.  So no
two reports are the same.  Where the fields are those of the address, the binary numerals fit
together without a gap, and one after the other they are the low bits of the address
(`AddressReading.Tells.binary`).
-/

namespace Paging.Report

open Text

/-! ### The lines of a report -/

def addressLine (a : Address) : String := "Virtual Address: 0x" ++ hexUpper a.bits.toNat

def fieldLine (name : String) (width : Nat) (n : UInt16) : String :=
  name ++ ": " ++ (decimal n.toNat ++ (" (0b" ++ (binary width n.toNat ++ ")")))

theorem field_eq_fieldLine (name : String) (width : Nat) (n : UInt16) :
    field name width n = fieldLine name width n ++ "\n" := by
  have hclosing : ")\n" = ")" ++ "\n" := rfl
  rw [field, fieldLine, hclosing]
  simp only [String.append_assoc]

theorem address_eq_ofLines (a : Address) (v : PageIndices) :
    address a v = ofLines [addressLine a, fieldLine "VPN[2]" 9 v.vpn2, fieldLine "VPN[1]" 9 v.vpn1,
      fieldLine "VPN[0]" 9 v.vpn0, fieldLine "Page Offset" 12 v.offset] := by
  unfold address ofLines addressLine
  simp only [field_eq_fieldLine, List.map_cons, List.map_nil, String.join_cons, String.join_nil,
    String.append_empty]
  simp only [String.append_assoc]

theorem after?_addressLine (a : Address) :
    after? "Virtual Address: " (addressLine a) = some ("0x" ++ hexUpper a.bits.toNat) := by
  have hline : addressLine a = "Virtual Address: " ++ ("0x" ++ hexUpper a.bits.toNat) := by
    rw [← String.append_assoc]
    rfl
  rw [hline, after?_append]

theorem isOneLine_addressLine (a : Address) : IsOneLine (addressLine a) := by
  have hdigits : NoControl (hexUpper a.bits.toNat) := noControl_hexUpper _
  exact IsOneLine.append (by decide) hdigits.isOneLine

theorem isOneLine_fieldLine {name : String} (hname : IsOneLine name) (width : Nat) (n : UInt16) :
    IsOneLine (fieldLine name width n) := by
  have hdecimal : IsOneLine (decimal n.toNat) := (noControl_decimal _).isOneLine
  have hbinary : IsOneLine (binary width n.toNat) := (noControl_binary _ _).isOneLine
  have hclosed := hbinary.append (t := ")") (by decide)
  exact (hname.append (by decide)).append (hdecimal.append (IsOneLine.append (by decide) hclosed))

/-! ### Two numerals for one field -/

structure Numerals where
  decimal : String
  binary : String
  deriving DecidableEq, Repr

namespace Numerals

def ofLine? (name line : String) : Option Numerals :=
  (after? (name ++ ": ") line).bind fun rest =>
    let (decimal, rest) := cut isDecimalDigit rest
    (after? " (0b" rest).bind fun rest =>
      let (binary, rest) := cut isBinaryDigit rest
      if rest = ")" then some ⟨decimal, binary⟩ else none

/-- Both stand for the number, and the binary one has a digit for each of its bits, but no fewer
than `width`. -/
structure Tells (x : Numerals) (width n : Nat) : Prop where
  decimal : ofDecimal? x.decimal = some n
  binary : ofBinary? x.binary = some n
  length : x.binary.length = max width n.size

theorem ofLine?_fieldLine (name : String) (width : Nat) (n : UInt16) :
    ofLine? name (fieldLine name width n) =
      some ⟨Text.decimal n.toNat, Text.binary width n.toNat⟩ := by
  have hdecimal : cut isDecimalDigit
      (Text.decimal n.toNat ++ (" (0b" ++ (Text.binary width n.toNat ++ ")"))) =
        (Text.decimal n.toNat, " (0b" ++ (Text.binary width n.toNat ++ ")")) := by
    apply cut_append
    · exact fun c hc => isDecimalDigit_of_mem_decimal hc
    · intro c hc
      rw [String.toList_append] at hc
      cases hc
      decide
  have hbinary : cut isBinaryDigit (Text.binary width n.toNat ++ ")") =
      (Text.binary width n.toNat, ")") := by
    apply cut_append
    · exact fun c hc => isBinaryDigit_of_mem_binary hc
    · intro c hc
      cases hc
      decide
  simp only [ofLine?, fieldLine, after?_append, Option.bind_some, hdecimal, hbinary, if_true]

theorem tells_written {width : Nat} (h : 0 < width) (n : Nat) :
    Tells ⟨Text.decimal n, Text.binary width n⟩ width n where
  decimal := ofDecimal?_decimal n
  binary := ofBinary?_binary width n
  length := length_binary h n

theorem Tells.unique {x : Numerals} {width m n : Nat} (hm : x.Tells width m)
    (hn : x.Tells width n) : m = n :=
  Option.some.inj (hm.decimal.symm.trans hn.decimal)

/-- A number that fits the width has as many digits as that. -/
theorem Tells.length_eq {x : Numerals} {width n : Nat} (h : x.Tells width n) (hn : n < 2 ^ width) :
    x.binary.length = width := by
  have hsize : n.size ≤ width := Nat.size_le.mpr hn
  rw [h.length]
  omega

end Numerals

/-! ### What a report tells -/

/-- What stands in the report of an address: a numeral for the address and two for each field. -/
structure AddressReading where
  address : String
  vpn2 : Numerals
  vpn1 : Numerals
  vpn0 : Numerals
  offset : Numerals
  deriving DecidableEq, Repr

namespace AddressReading

def ofLines? : List String → Option AddressReading
  | [first, second, third, fourth, fifth] => do
    let address ← after? "Virtual Address: " first
    let vpn2 ← Numerals.ofLine? "VPN[2]" second
    let vpn1 ← Numerals.ofLine? "VPN[1]" third
    let vpn0 ← Numerals.ofLine? "VPN[0]" fourth
    let offset ← Numerals.ofLine? "Page Offset" fifth
    return ⟨address, vpn2, vpn1, vpn0, offset⟩
  | _ => none

def ofText? (s : String) : Option AddressReading := (lines? s).bind ofLines?

/-- The numerals stand for the address and for the fields. -/
structure Tells (r : AddressReading) (a : Address) (v : PageIndices) : Prop where
  address : parseHex r.address = .ok a.bits
  vpn2 : r.vpn2.Tells 9 v.vpn2.toNat
  vpn1 : r.vpn1.Tells 9 v.vpn1.toNat
  vpn0 : r.vpn0.Tells 9 v.vpn0.toNat
  offset : r.offset.Tells 12 v.offset.toNat

def binary (r : AddressReading) : String :=
  r.vpn2.binary ++ r.vpn1.binary ++ r.vpn0.binary ++ r.offset.binary

theorem Tells.unique {r : AddressReading} {a b : Address} {v w : PageIndices} (h : r.Tells a v)
    (h' : r.Tells b w) : a = b ∧ v = w := by
  have hbits : a.bits = b.bits := Except.ok.inj (h.address.symm.trans h'.address)
  refine ⟨Address.toNat_inj.mp (congrArg UInt64.toNat hbits), ?_⟩
  exact PageIndices.ext_toNat (h.vpn2.unique h'.vpn2) (h.vpn1.unique h'.vpn1)
    (h.vpn0.unique h'.vpn0) (h.offset.unique h'.offset)

/-- **Fields that fit are told side by side**: their binary numerals are one for the low bits. -/
theorem Tells.binary {r : AddressReading} {a : Address} {v : PageIndices} (h : r.Tells a v)
    (hv : v.Fits) : r.binary.length = 39 ∧ ofBinary? r.binary = some v.lowBits.toNat := by
  have h2 : r.vpn2.binary.length = 9 := h.vpn2.length_eq hv.vpn2
  have h1 : r.vpn1.binary.length = 9 := h.vpn1.length_eq hv.vpn1
  have h0 : r.vpn0.binary.length = 9 := h.vpn0.length_eq hv.vpn0
  have ho : r.offset.binary.length = 12 := h.offset.length_eq hv.offset
  constructor
  · simp only [AddressReading.binary, String.length_append, h2, h1, h0, ho]
  · have htwo := ofBinary?_append h.vpn2.binary h.vpn1.binary
    have hthree := ofBinary?_append htwo h.vpn0.binary
    have hall := ofBinary?_append hthree h.offset.binary
    rw [AddressReading.binary, hall, h1, h0, ho, hv.toNat_lowBits]
    apply congrArg some
    omega

end AddressReading

theorem lines?_address (a : Address) (v : PageIndices) :
    lines? (address a v) = some [addressLine a, fieldLine "VPN[2]" 9 v.vpn2,
      fieldLine "VPN[1]" 9 v.vpn1, fieldLine "VPN[0]" 9 v.vpn0,
      fieldLine "Page Offset" 12 v.offset] := by
  rw [address_eq_ofLines]
  apply lines?_ofLines
  simp only [List.forall_mem_cons, List.not_mem_nil, false_implies, implies_true, and_true]
  exact ⟨isOneLine_addressLine a, isOneLine_fieldLine (by decide) 9 _,
    isOneLine_fieldLine (by decide) 9 _, isOneLine_fieldLine (by decide) 9 _,
    isOneLine_fieldLine (by decide) 12 _⟩

/-- **The report of an address is read back.** -/
theorem exists_reading_address (a : Address) (v : PageIndices) :
    ∃ ls r, lines? (address a v) = some ls ∧ ls.length = 5 ∧ AddressReading.ofLines? ls = some r ∧
      r.Tells a v := by
  refine ⟨_, ⟨"0x" ++ hexUpper a.bits.toNat, ⟨decimal v.vpn2.toNat, binary 9 v.vpn2.toNat⟩,
    ⟨decimal v.vpn1.toNat, binary 9 v.vpn1.toNat⟩, ⟨decimal v.vpn0.toNat, binary 9 v.vpn0.toNat⟩,
    ⟨decimal v.offset.toNat, binary 12 v.offset.toNat⟩⟩, lines?_address a v, rfl, ?_, ?_⟩
  · simp only [AddressReading.ofLines?, after?_addressLine, Numerals.ofLine?_fieldLine,
      Option.bind_eq_bind, Option.bind_some]
    rfl
  · exact ⟨parseHex_hexUpper a.bits, Numerals.tells_written (by decide) _,
      Numerals.tells_written (by decide) _, Numerals.tells_written (by decide) _,
      Numerals.tells_written (by decide) _⟩

theorem ofText?_address (a : Address) (v : PageIndices) :
    ∃ r, AddressReading.ofText? (address a v) = some r ∧ r.Tells a v := by
  obtain ⟨ls, r, hls, -, hr, htells⟩ := exists_reading_address a v
  refine ⟨r, ?_, htells⟩
  rw [AddressReading.ofText?, hls]
  exact hr

theorem address_injective {a b : Address} {v w : PageIndices} (h : address a v = address b w) :
    a = b ∧ v = w := by
  obtain ⟨r, hr, htells⟩ := ofText?_address a v
  obtain ⟨r', hr', htells'⟩ := ofText?_address b w
  have hsame : r = r' := Option.some.inj (by rw [← hr, h, hr'])
  subst hsame
  exact htells.unique htells'

/-- **A report tells the address and its fields, and nothing gets lost.**  It is five lines, whose
numerals stand for the address and for each field twice, whether or not a field fits its part of an
address.  So no two reports are the same.  Where the fields are those of the address, the binary
numerals make up one of 39 digits for the low bits. -/
theorem address_report_read_back :
    (∀ (a : Address) (v : PageIndices), ∃ ls r, lines? (address a v) = some ls ∧ ls.length = 5 ∧
      AddressReading.ofLines? ls = some r ∧ r.Tells a v) ∧
    (∀ (a b : Address) (v w : PageIndices), address a v = address b w ↔ a = b ∧ v = w) ∧
    ∀ a : Address, ∃ r, AddressReading.ofText? (address a a.indices) = some r ∧
      r.Tells a a.indices ∧ r.binary.length = 39 ∧
        ofBinary? r.binary = some (a.bits.toNat % 2 ^ 39) := by
  refine ⟨exists_reading_address, ?_, ?_⟩
  · intro a b v w
    constructor
    · exact address_injective
    · rintro ⟨rfl, rfl⟩
      rfl
  · intro a
    obtain ⟨r, hr, htells⟩ := ofText?_address a a.indices
    obtain ⟨hlength, hvalue⟩ := htells.binary a.fits_indices
    rw [Address.toNat_lowBits_indices] at hvalue
    exact ⟨r, hr, htells, hlength, hvalue⟩

-- A field that does not fit has more digits than the width.
example :
    Numerals.ofLine? "VPN[0]" "VPN[0]: 1023 (0b1111111111)" = some ⟨"1023", "1111111111"⟩ := by
  decide +kernel

end Paging.Report
