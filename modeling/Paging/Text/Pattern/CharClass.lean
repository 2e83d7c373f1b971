import Paging.Text.Pattern.Piece

/-!
# Classes of characters

A class lists characters, ranges, named classes and further classes between brackets.  The signs
`&&`, `--` and `~~` in it intersect, subtract or tell apart what stands ahead of them and what
follows.  `readClass` finds where a class ends and how deep its parts lie in it, as regex-syntax
counts them.
-/

namespace Paging.Text.Pattern

/-- How deep what is put together from parts goes, by the depths of the parts.  One part alone is
not put together from anything. -/
def joinedDepth : List Nat → Nat
  | [] => 0
  | [d] => d
  | ds => ds.foldl max 0 + 1

/-- A class of which the end has not been read. -/
structure OpenClass where
  /-- The depth of what stands ahead of the last operator. -/
  operand : Option Nat
  /-- The depths of the items since then, the last first. -/
  items : List Nat
  /-- Whether no item has been read but hyphens. -/
  atHead : Bool
  deriving DecidableEq, Repr

namespace OpenClass

def start : OpenClass := ⟨none, [], true⟩

def add (k : OpenClass) (depth : Nat) : OpenClass := ⟨k.operand, depth :: k.items, false⟩

def addHyphen (k : OpenClass) : OpenClass := { k with items := 0 :: k.items }

/-- The depth of what has been read. -/
def depth (k : OpenClass) : Nat :=
  match k.operand with
  | none => joinedDepth k.items
  | some d => max d (joinedDepth k.items) + 1

def operate (k : OpenClass) : OpenClass := ⟨some k.depth, [], false⟩

end OpenClass

/-! ## Items -/

def classNames : List String :=
  ["alnum", "alpha", "ascii", "blank", "cntrl", "digit", "graph", "lower", "print", "punct",
    "space", "upper", "word", "xdigit"]

/-- Whether a named class is complemented, and what follows it.  Its bracket has been read. -/
def namedClass? : List Char → Option (Bool × List Char)
  | ':' :: cs =>
    let negated := cs.head? = some '^'
    let cs := if negated then cs.tail else cs
    match cs.dropWhile (· ≠ ':') with
    | ':' :: ']' :: rest =>
      if classNames.contains (String.ofList (cs.takeWhile (· ≠ ':'))) then some (negated, rest)
      else none
    | _ => none
  | _ => none

/-- Whether a class may be complemented.  That of a class of bytes has bytes that are no characters
by themselves. -/
def mayNegate (s : Settings) (negated : Bool) : Bool := !(negated && s.bytewise)

/-- Whether a named class may stand in a class. -/
def fitsNamed (s : Settings) (negated : Bool) : Bool :=
  mayNegate s negated && (s.bytewise || !s.caseless)

/-- What follows the bracket and the sign of the complement, if the class may have it. -/
def readHead (s : Settings) (cs : List Char) : Option (List Char) :=
  match s.skip cs with
  | '^' :: rest => if mayNegate s true then some rest else none
  | rest => some rest

/-- What follows a character or a range.  A hyphen ahead of another or of the end makes no range. -/
def readItem (s : Settings) (cs : List Char) : Option (List Char) :=
  (readPiece s cs).bind fun (p, rest) =>
    let after := (s.skip rest).tail
    if (s.skip rest).head? = some '-' ∧ s.ahead after ≠ some ']' ∧ s.ahead after ≠ some '-' then
      (readPiece s (s.skip after)).bind fun (q, rest) => if p.bound s q then some rest else none
    else if p.fitsClass s then some (s.skip rest)
    else none

/-! ## Whole classes -/

/-- How deep the outermost class goes, and what follows it, from the open classes around the
innermost one. -/
def readClassFrom (s : Settings) : Nat → List OpenClass → OpenClass → List Char →
    Option (Nat × List Char)
  | 0, _, _, _ => none
  | fuel + 1, outer, k, cs =>
    match s.skip cs with
    | [] => none
    | c :: cs =>
      if c = '-' ∧ k.atHead then
        if (Piece.literal c false).fitsClass s then readClassFrom s fuel outer k.addHyphen cs
        else none
      else if c = '[' then
        match namedClass? cs with
        | some (negated, rest) =>
          if fitsNamed s negated then readClassFrom s fuel outer (k.add 0) rest else none
        | none =>
          (readHead s cs).bind fun rest => readClassFrom s fuel (k :: outer) .start rest
      else if c = ']' ∧ ¬ (k.atHead ∧ k.items = []) then
        match outer with
        | [] => some (k.depth + 1, cs)
        | k' :: outer => readClassFrom s fuel outer (k'.add (k.depth + 1)) cs
      else if ['&', '-', '~'].contains c ∧ cs.head? = some c then
        readClassFrom s fuel outer k.operate cs.tail
      else if c = ']' then
        if (Piece.literal c false).fitsClass s then readClassFrom s fuel outer (k.add 0) cs
        else none
      else (readItem s (c :: cs)).bind fun rest => readClassFrom s fuel outer (k.add 0) rest

/-- How deep a class goes, and what follows it.  Its bracket has been read.  Each step reads a
character at least. -/
def readClass (s : Settings) (cs : List Char) : Option (Nat × List Char) :=
  (readHead s cs).bind (readClassFrom s (cs.length + 1) [] .start)

end Paging.Text.Pattern
