import Paging.Log.Notice
import Paging.Report
import Paging.Text.Hexadecimal

/-!
# Answers to a line

What is told about an address or an entry that someone has typed, and what is put on record.
-/

namespace Paging.Dialogue

structure Answer where
  records : List Log.Record
  text : String
  deriving DecidableEq, Repr

namespace Answer

def refusal (line : String) (f : Fault) : Answer :=
  ⟨[Log.rejected line f], "Invalid input: " ++ f.message ++ "\n"⟩

/-- Puts more on record ahead of what an answer has. -/
def after (records : List Log.Record) (a : Answer) : Answer := ⟨records ++ a.records, a.text⟩

def toAddress (s : Strictness) (line : String) : Answer :=
  match Text.parseHex line with
  | .error f => refusal line f
  | .ok n =>
    let a : Address := ⟨n⟩
    match a.split s with
    | .error f => (refusal line f).after (Log.ofCheck a)
    | .ok v => ⟨Log.ofCheck a ++ [Log.decomposed a v], Report.address a v⟩

def toEntry (line : String) : Answer :=
  match Text.parseHex line with
  | .error f => refusal line f
  | .ok n =>
    let e : Entry := ⟨n⟩
    ⟨[Log.decoded e], Report.mapping e.decode⟩

end Answer

end Paging.Dialogue
