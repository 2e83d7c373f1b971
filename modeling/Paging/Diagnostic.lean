import Paging.Entry
import Paging.Text.Quoted

/-!
# Diagnostic forms

The form in which the log names a value: its type, and its fields in braces or parentheses.
-/

namespace Paging.Diagnostic

open Text

/-- A type name and named fields. -/
def record (name : String) (fields : List (String × String)) : String :=
  name ++ " \x7b " ++ ", ".intercalate (fields.map fun f => f.1 ++ ": " ++ f.2) ++ " \x7d"

/-- A type name and its one value. -/
def wrapped (name value : String) : String := name ++ "(" ++ value ++ ")"

def bool (b : Bool) : String := if b then "true" else "false"

def address (a : Address) : String := wrapped "VirtualAddress" (decimal a.bits.toNat)

def indices (v : PageIndices) : String :=
  record "Vpns"
    [("vpn2", decimal v.vpn2.toNat), ("vpn1", decimal v.vpn1.toNat),
     ("vpn0", decimal v.vpn0.toNat), ("offset", decimal v.offset.toNat)]

def flags (f : Flags) : String := wrapped "Flags" f.text

def entry (e : Entry) : String := wrapped "PageTableEntry" (decimal e.bits.toNat)

def mapping (m : Mapping) : String :=
  record "DecodedPte" [("ppn", decimal m.physical.toNat), ("flags", flags m.flags)]

def kind : EntryKind → String
  | .notValid => "NotValid"
  | .leaf => "Leaf"
  | .branch => "Branch"

def strictness : Strictness → String
  | .oneSided => "OneSided"
  | .strict => "Strict"

def fault : Fault → String
  | .noDigits => "Empty"
  | .badDigit c => wrapped "InvalidDigit" (quotedChar c)
  | .tooLarge => "OutOfRange"
  | .nonCanonical => "NonCanonical"

end Paging.Diagnostic
