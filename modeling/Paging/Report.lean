import Paging.Entry

/-!
# Reports

What is told to the reader about an address or an entry, in lines that each end in a line feed.
-/

namespace Paging.Report

open Text

/-- One line: a number after its name, in decimal and in binary with at least `width` digits. -/
def field (name : String) (width : Nat) (n : UInt16) : String :=
  name ++ ": " ++ decimal n.toNat ++ " (0b" ++ binary width n.toNat ++ ")\n"

def address (a : Address) (v : PageIndices) : String :=
  "Virtual Address: 0x" ++ hexUpper a.bits.toNat ++ "\n"
    ++ field "VPN[2]" 9 v.vpn2
    ++ field "VPN[1]" 9 v.vpn1
    ++ field "VPN[0]" 9 v.vpn0
    ++ field "Page Offset" 12 v.offset

def mapping (m : Mapping) : String :=
  "Phys Addr: 0x" ++ hexUpper m.physical.toNat ++ ", " ++ m.flags.text ++ "\n"

def kind : EntryKind → String
  | .notValid => "not valid"
  | .leaf => "leaf"
  | .branch => "branch"

def details (e : Entry) : String :=
  "Kind: " ++ kind e.kind ++ "\n"
    ++ "RSW: 0b" ++ binary 2 e.software.toNat ++ "\n"
    ++ "PPN field: 0x" ++ hexUpper e.pageNumber.toNat ++ "\n"
    ++ "Reserved: 0x" ++ hexUpper e.reserved.toNat ++ "\n"

end Paging.Report
