import Paging.Text.Pattern.CharClass
import Paging.Text.Unicode.Alphanumeric

/-!
# Texts that are patterns

A pattern describes texts by alternatives, groups, classes of characters, repetition and escapes.
`isPattern` says whether a text is one.  Its parts may lie in each other up to a limit.  No text is
asked about that has a closing brace, so that counts of repetition and the other forms in braces
are no patterns.

The syntax is that of regex-syntax 0.8 and the limit its own.  What a pattern may ask for is what
regex-automata can search for without tables of Unicode, which is what `EnvFilter` has it do.  What
a pattern matches is left out, as no record has a value that one is for.
-/

namespace Paging.Text.Pattern

/-- A part of a pattern. -/
structure Item where
  depth : Nat
  /-- Whether it can be repeated, which a change of settings cannot. -/
  repeatable : Bool
  deriving DecidableEq, Repr

/-- A group of which the end has not been read. -/
structure OpenGroup where
  /-- The depths of the alternatives that have been read. -/
  alternatives : List Nat
  /-- The items of the one that is being read, the last first. -/
  items : List Item
  /-- The settings that hold again after the group. -/
  outside : Settings
  deriving DecidableEq, Repr

namespace OpenGroup

def start (outside : Settings) : OpenGroup := ⟨[], [], outside⟩

def add (g : OpenGroup) (i : Item) : OpenGroup := { g with items := i :: g.items }

def alternative (g : OpenGroup) : Nat := joinedDepth (g.items.map Item.depth)

def divide (g : OpenGroup) : OpenGroup :=
  { g with alternatives := g.alternative :: g.alternatives, items := [] }

/-- The depth of what has been read. -/
def depth (g : OpenGroup) : Nat := joinedDepth (g.alternative :: g.alternatives)

/-- The group with its last item repeated. -/
def repeated? (g : OpenGroup) : Option OpenGroup :=
  match g.items with
  | [] => none
  | i :: items =>
    if i.repeatable then some { g with items := ⟨i.depth + 1, true⟩ :: items } else none

end OpenGroup

/-- A place in a pattern. -/
structure Place where
  settings : Settings
  /-- The innermost group, or the whole pattern. -/
  group : OpenGroup
  /-- The groups around it, the innermost first. -/
  outer : List OpenGroup
  /-- The names that groups have been given. -/
  names : List (List Char)
  deriving DecidableEq, Repr

namespace Place

def start : Place := ⟨.standard, .start .standard, [], []⟩

def add (p : Place) (depth : Nat) : Place := { p with group := p.group.add ⟨depth, true⟩ }

/-! ## Groups -/

def openGroup (p : Place) (inside : Settings) : Place :=
  { p with settings := inside, group := .start p.settings, outer := p.group :: p.outer }

def closeGroup? (p : Place) : Option Place :=
  match p.outer with
  | [] => none
  | g :: outer =>
    some { p with
      settings := p.group.outside
      group := g.add ⟨p.group.depth + 1, true⟩
      outer := outer }

def isName : List Char → Bool
  | [] => false
  | c :: cs =>
    (c == '_' || isAlphabetic c)
      && cs.all fun c => ['_', '.', '[', ']'].contains c || isAlphanumeric c

/-- Opens a group after its name, which no other group may have. -/
def readName (p : Place) (cs : List Char) : Option (Place × List Char) :=
  let name := cs.takeWhile (· ≠ '>')
  match cs.dropWhile (· ≠ '>') with
  | [] => none
  | _ :: rest =>
    if isName name ∧ name ∉ p.names then
      some ({ p with names := name :: p.names }.openGroup p.settings, rest)
    else none

/-- Changes settings, for the rest of the group or in a group of their own. -/
def readLetters (p : Place) (cs : List Char) : Option (Place × List Char) :=
  let isLetter (c : Char) : Bool := c ≠ ':' && c ≠ ')'
  let letters := cs.takeWhile isLetter
  let changed := p.settings.change letters
  match cs.dropWhile isLetter with
  | [] => none
  | c :: rest =>
    if !Settings.areLetters letters then none
    else if c = ':' then some (p.openGroup changed, rest)
    else if letters = [] then none
    else some ({ p with settings := changed, group := p.group.add ⟨0, false⟩ }, rest)

/-- What follows an opening parenthesis. -/
def readOpening (p : Place) (cs : List Char) : Option (Place × List Char) :=
  match p.settings.skip cs with
  | '?' :: 'P' :: '<' :: rest => p.readName rest
  | '?' :: '<' :: rest => p.readName rest
  | '?' :: rest => p.readLetters rest
  | rest => some (p.openGroup p.settings, rest)

/-! ## Items -/

/-- Repeats the last item.  A question mark right after that is part of the sign. -/
def readRepetition (p : Place) (cs : List Char) : Option (Place × List Char) :=
  p.group.repeated?.map fun g =>
    ({ p with group := g }, if cs.head? = some '?' then cs.tail else cs)

def addPiece? (p : Place) (piece : Piece) : Option Place :=
  if piece.fits p.settings then some (p.add 0) else none

/-- The place after what begins with `c`. -/
def step (p : Place) (c : Char) (cs : List Char) : Option (Place × List Char) :=
  match c with
  | '(' => p.readOpening cs
  | ')' => p.closeGroup?.map (·, cs)
  | '|' => some ({ p with group := p.group.divide }, cs)
  | '[' => (readClass p.settings cs).map fun (depth, rest) => (p.add depth, rest)
  | '*' => p.readRepetition cs
  | '+' => p.readRepetition cs
  | '?' => p.readRepetition cs
  | '\x7b' => none
  | '.' => if p.settings.bytewise then none else some (p.add 0, cs)
  | '^' => some (p.add 0, cs)
  | '$' => some (p.add 0, cs)
  | '\\' => (readEscape p.settings cs).bind fun (piece, rest) => (p.addPiece? piece).map (·, rest)
  | c => (p.addPiece? (.literal c false)).map (·, cs)

/-- The place at the end.  Each step reads a character at least. -/
def readFrom : Nat → Place → List Char → Option Place
  | 0, _, _ => none
  | fuel + 1, p, cs =>
    match p.settings.skip cs with
    | [] => some p
    | c :: cs => (p.step c cs).bind fun (p, rest) => readFrom fuel p rest

end Place

/-- How deep the parts of a pattern may lie in each other. -/
def greatestDepth : Nat := 250

def isPattern (cs : List Char) : Bool :=
  match Place.readFrom (cs.length + 1) .start cs with
  | none => false
  | some p => p.outer.isEmpty && decide (p.group.depth ≤ greatestDepth)

end Paging.Text.Pattern
