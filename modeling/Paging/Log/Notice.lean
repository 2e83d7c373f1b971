import Paging.Diagnostic
import Paging.Log.Record

/-!
# What is put on record

One function for each kind of record, from what the record tells.
-/

namespace Paging.Log

open Text

def starting (s : Strictness) : Record :=
  ⟨.debug, .command, "starting", [("canonicality", Diagnostic.strictness s)]⟩

def checking (a : Address) : Record :=
  ⟨.debug, .address,
    "bit 38 set in 0x" ++ hexLower a.bits.toNat ++ ", checking bits 63:39", []⟩

def decomposed (a : Address) (v : PageIndices) : Record :=
  ⟨.debug, .dialogue, "decomposed",
    [("address", Diagnostic.address a), ("vpns", Diagnostic.indices v)]⟩

def decoded (e : Entry) : Record :=
  ⟨.debug, .dialogue, "decoded", [("entry", Diagnostic.entry e)]⟩

def rejected (input : String) (f : Fault) : Record :=
  ⟨.info, .dialogue, "rejected input",
    [("input", quotedText input), ("error", f.message)]⟩

def skipped (path : String) : Record :=
  ⟨.debug, .packing, "skipping non-file", [("path", path)]⟩

def found (name : String) (size : Nat) : Record :=
  ⟨.debug, .packing, "found application", [("name", name), ("size", decimal size)]⟩

def wroteTable (apps : Nat) (out : String) : Record :=
  ⟨.info, .packing, "wrote application table", [("apps", decimal apps), ("out", out)]⟩

/-- What the check of an address puts on record: only bit 38 makes it look at the bits above. -/
def ofCheck (a : Address) : List Record := if a.signBit then [checking a] else []

end Paging.Log
