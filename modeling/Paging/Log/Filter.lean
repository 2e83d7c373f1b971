import Paging.Log.Directive

/-!
# Log filters

A filter is a list of directives with commas between them.  The directive that decides on a record
is the one with the longest target with which the path of the record's origin begins; of two with
the same target one that asks for a field goes before one that does not.  A directive without a
target decides where none has such a target.

So an `EnvFilter` decides in a program without spans.  When a record was made is left out, and how
its line is coloured.
-/

namespace Paging.Log

abbrev Filter := List Directive

namespace Directive

/-- Whether the directive is about a record.  No record lies in a span, and patterns for values are
for the fields of spans alone. -/
def covers (d : Directive) (r : Record) : Bool :=
  d.span.isNone
    && d.target.all (fun t => t.toList.isPrefixOf r.origin.path.toList)
    && d.field.all (fun f => f.value.isNone && r.fieldNames.contains f.name)

/-- How closely the directive says what it is about, by its target. -/
def closeness (d : Directive) : Nat :=
  match d.target with
  | none => 0
  | some t => t.length + 1

/-- Whether the fields that two directives ask for stand in the order of their names.  To ask for
none comes first. -/
def fieldsInOrder (earlier later : Directive) : Bool :=
  match earlier.field, later.field with
  | none, _ => true
  | some _, none => false
  | some f, some g => f.name ≤ g.name

/-- Whether of two directives about one record the second decides rather than the first.  Among
equals it is the later one. -/
def yields (earlier later : Directive) : Bool :=
  earlier.closeness < later.closeness
    || (earlier.closeness == later.closeness && earlier.fieldsInOrder later)

/-- The closer of two directives. -/
def closer (earlier : Option Directive) (later : Directive) : Option Directive :=
  match earlier with
  | none => some later
  | some d => if d.yields later then some later else some d

end Directive

namespace Filter

/-- The filter that a text spells.  Nothing between two commas is no directive. -/
def parse (text : String) : Except FilterError Filter :=
  ((text.toList.splitOn ',').filter (· ≠ [])).mapM Directive.parse

/-- The directive that decides on a record. -/
def decisive? (f : Filter) (r : Record) : Option Directive :=
  (f.filter (Directive.covers · r)).foldl Directive.closer none

/-- Whether a record passes.  One on which no directive decides does not. -/
def allows (f : Filter) (r : Record) : Bool :=
  match decisive? f r with
  | none => false
  | some d => r.level.rank ≤ d.limit

/-- The lines of the records that pass. -/
def lines (f : Filter) (records : List Record) : List String :=
  (records.filter (allows f)).map Record.line

end Filter

end Paging.Log
