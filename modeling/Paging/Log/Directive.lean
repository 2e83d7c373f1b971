import Paging.Log.Record
import Paging.Text.Pattern.Validity
import Paging.Text.Position

/-!
# Directives of log filters

A directive names a target, a level or both, with an equals sign between them: `sv39=debug`,
`warn`, `sv39::addr`.  After the target, or in place of it, brackets may hold the name of a span
and, in braces, a field that a record must have, perhaps with a pattern for its value.

Where the parts of a directive lie is found out without the white space around it, but the parts
are taken from the same positions of the whole text.  So white space at the front shifts them all,
and at the back it belongs to the level or the target.

These are the directives of the `EnvFilter` of tracing-subscriber 0.3, with patterns for values
(`Text.Pattern`) where it takes them.
-/

namespace Paging.Log

/-- Why a text is no filter. -/
inductive FilterError
  | malformed
  /-- A part begins or ends inside a character. -/
  | cut
  deriving DecidableEq, Repr

/-- A field that a record must have. -/
structure FieldMatch where
  name : String
  /-- The pattern for its value. -/
  value : Option String
  deriving DecidableEq, Repr

structure Directive where
  /-- With what the paths of origins begin that it is about, or everything. -/
  target : Option String
  /-- The span that a record must lie in. -/
  span : Option String
  field : Option FieldMatch
  /-- The greatest rank of a level that it lets pass. -/
  limit : Nat
  deriving DecidableEq, Repr

/-! ## Levels -/

namespace Level

def lower (cs : List Char) : String := String.ofList (cs.map Char.toLower)

/-- The limit that one digit or several spell, after an optional plus sign. -/
def numericLimit? (cs : List Char) : Option Nat :=
  let ds := if cs.head? = some '+' then cs.tail else cs
  if ds ≠ [] ∧ ds.all Char.isDigit then
    let n := ds.foldl (fun n c => n * 10 + (c.toNat - '0'.toNat)) 0
    if n ≤ 5 then some n else none
  else none

/-- The limit that the name of a level spells, in any case. -/
def namedLimit? (cs : List Char) : Option Nat :=
  match lower cs with
  | "off" => some 0
  | "error" => some 1
  | "warn" => some 2
  | "info" => some 3
  | "debug" => some 4
  | "trace" => some 5
  | _ => none

def limit? (cs : List Char) : Option Nat := (numericLimit? cs).or (namedLimit? cs)

/-- The limit that lets everything pass. -/
def unlimited : Nat := trace.rank

end Level

/-! ## Fields -/

namespace FieldMatch

/-- Whether `cs` spells a number that is not negative, with a point or an exponent perhaps. -/
def isNumber (cs : List Char) : Bool :=
  let isExponent (r : List Char) : Bool := r ≠ [] && r.all Char.isDigit
  let part :=
    match cs.dropWhile Char.isDigit with
    | '.' :: r => r
    | _ => []
  let rest :=
    match cs.dropWhile Char.isDigit with
    | '.' :: r => r.dropWhile Char.isDigit
    | r => r
  (cs.takeWhile Char.isDigit ++ part.takeWhile Char.isDigit ≠ []) &&
    match rest with
    | [] => true
    | e :: '+' :: r => (e == 'e' || e == 'E') && isExponent r
    | e :: '-' :: r => (e == 'e' || e == 'E') && isExponent r
    | e :: r => (e == 'e' || e == 'E') && isExponent r

/-- Whether a value is a number or else a pattern.  Of numbers only those with a plus sign are no
patterns as well. -/
def isValue : List Char → Bool
  | '+' :: cs => isNumber cs || Level.lower cs ∈ ["inf", "infinity", "nan"]
  | cs => Text.Pattern.isPattern cs

/-- A name, and after an equals sign a value. -/
def parse? (cs : List Char) : Option FieldMatch :=
  let name := String.ofList (cs.takeWhile (· ≠ '='))
  match cs.dropWhile (· ≠ '=') with
  | [] => if cs = [] then none else some ⟨name, none⟩
  | _ :: rest =>
    let value := rest.takeWhile (· ≠ '=')
    if isValue value then some ⟨name, some (String.ofList value)⟩ else none

end FieldMatch

/-! ## Directives -/

namespace Directive

/-- Whether a directive may begin with `c`, but for an opening bracket. -/
def mayBegin (c : Char) : Bool := Text.isAlphanumeric c || c == '-' || c == ':' || c == '_'

/-- What lies between two positions of the whole text. -/
def part (whole : List Char) (start stop : Nat) : Except FilterError (List Char) :=
  match Text.part? start stop whole with
  | some cs => .ok cs
  | none => .error .cut

/-- The limit that the whole text spells from a position on.  Nothing lets everything pass. -/
def limitFrom (whole : List Char) (start : Nat) : Except FilterError Nat :=
  (part whole start (Text.byteLength whole)).bind fun cs =>
    if cs = [] then .ok Level.unlimited
    else
      match Level.limit? cs with
      | some n => .ok n
      | none => .error .malformed

/-- What follows the brackets: nothing, or an equals sign and a level. -/
def afterBrackets (whole : List Char) (d : Directive) (position : Nat) :
    List Char → Except FilterError Directive
  | [] => .ok d
  | '=' :: _ => (limitFrom whole (position + 1)).map fun n => { d with limit := n }
  | _ => .error .malformed

/-- What follows the brace: a field, the closing brace and the closing bracket. -/
def afterBrace (whole : List Char) (d : Directive) (position : Nat) (rest : List Char) :
    Except FilterError Directive :=
  let stop := position + Text.byteLength (rest.takeWhile (· ≠ '\x7d'))
  match rest.dropWhile (· ≠ '\x7d') with
  | [] => .error .malformed
  | _ :: rest =>
    (part whole position stop).bind fun cs =>
      match FieldMatch.parse? cs, rest with
      | some f, ']' :: rest => afterBrackets whole { d with field := some f } (stop + 2) rest
      | _, _ => .error .malformed

/-- What follows the opening bracket: the name of a span, and the closing bracket or a brace. -/
def afterBracket (whole : List Char) (target : Option String) (position : Nat)
    (rest : List Char) : Except FilterError Directive :=
  let inName (c : Char) : Bool := c ≠ ']' && c ≠ '\x7b'
  let stop := position + Text.byteLength (rest.takeWhile inName)
  match rest.dropWhile inName with
  | [] => .error .malformed
  | c :: rest =>
    (part whole position stop).bind fun cs =>
      let name := String.ofList cs
      if c = ']' then
        afterBrackets whole ⟨target, some name, none, Level.unlimited⟩ (stop + 1) rest
      else
        let span := if cs = [] then none else some name
        afterBrace whole ⟨target, span, none, Level.unlimited⟩ (stop + 1) rest

/-- A level or a target alone. -/
def alone (whole : List Char) : Directive :=
  match Level.limit? whole with
  | some n => ⟨none, none, none, n⟩
  | none => ⟨some (String.ofList whole), none, none, Level.unlimited⟩

/-- A directive that begins with a target or a level, given without white space around it. -/
def named (whole trimmed : List Char) : Except FilterError Directive :=
  let inName (c : Char) : Bool := c ≠ '=' && c ≠ '['
  let stop := Text.byteLength (trimmed.takeWhile inName)
  match trimmed.dropWhile inName with
  | [] => .ok (alone whole)
  | c :: rest =>
    (part whole 0 stop).bind fun cs =>
      let target := some (String.ofList cs)
      if c = '[' then afterBracket whole target (stop + 1) rest
      else (limitFrom whole (stop + 1)).map fun n => ⟨target, none, none, n⟩

def parse (whole : List Char) : Except FilterError Directive :=
  match Text.trim whole with
  | [] => .error .malformed
  | c :: rest =>
    if c = '[' then afterBracket whole none 1 rest
    else if mayBegin c then named whole (c :: rest)
    else .error .malformed

end Directive

end Paging.Log
