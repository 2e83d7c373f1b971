/-!
# Log records
-/

namespace Paging.Log

/-- How much a record matters, the most important first. -/
inductive Level
  | error
  | warn
  | info
  | debug
  | trace
  deriving DecidableEq, Repr

namespace Level

/-- From 1 for what matters most to 5. -/
def rank : Level → Nat
  | error => 1
  | warn => 2
  | info => 3
  | debug => 4
  | trace => 5

def name : Level → String
  | error => "ERROR"
  | warn => "WARN"
  | info => "INFO"
  | debug => "DEBUG"
  | trace => "TRACE"

end Level

/-- The part of the program that speaks. -/
inductive Origin
  | command
  | address
  | dialogue
  | packing
  deriving DecidableEq, Repr

namespace Origin

/-- How a record tells where it comes from. -/
def shown : Origin → String
  | command => "sv39ctl"
  | address => "sv39::addr"
  | dialogue => "sv39ctl::shell"
  | packing => "sv39ctl::pack"

/-- The path that targets of filters are compared with.  The command itself is named `sv39ctl` and
nothing more, and so it is shown.  But when it runs, a filter for `sv39ctl::` lets its record pass
as well, so the name is taken with the two colons here.  Only targets that begin with them tell the
difference. -/
def path : Origin → String
  | command => "sv39ctl::"
  | o => o.shown

/-- Names of fields that every record from there has and does not show. -/
def hiddenFields : Origin → List String
  | address => ["log.target", "log.module_path", "log.file", "log.line"]
  | _ => []

end Origin

structure Record where
  level : Level
  origin : Origin
  message : String
  /-- Names and values told beside the message. -/
  fields : List (String × String)
  deriving DecidableEq, Repr

namespace Record

/-- The record in one line. -/
def line (r : Record) : String :=
  r.level.name ++ " " ++ r.origin.shown ++ ": "
    ++ " ".intercalate (r.message :: r.fields.map fun f => f.1 ++ "=" ++ f.2)

/-- The names of all fields, of which the message is one. -/
def fieldNames (r : Record) : List String :=
  "message" :: r.fields.map Prod.fst ++ r.origin.hiddenFields

end Record

end Paging.Log
