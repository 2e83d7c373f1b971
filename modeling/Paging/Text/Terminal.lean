/-!
# Text without terminal control

`plain` takes out of a text what a terminal would act on instead of showing: control characters,
but for the blank ones, and sequences.  A sequence begins with the escape character, and what
follows it says how far it goes: one character, parameters up to a final byte, or a string up to
its terminator.  A sequence that the text breaks off in is taken out as far as it goes.

A blank control character is shown even in the midst of a sequence without a string.  Then the text
goes on being shown up to the next control character, and only with that does the sequence go on.

This is how anstream strips a text for an output that is no terminal.
-/

namespace Paging.Text.Terminal

/-- Where in a sequence one is. -/
inductive State
  | ground
  /-- After the escape character. -/
  | escape
  /-- After the escape character and intermediate bytes. -/
  | intermediate
  /-- Among the parameters of a control sequence. -/
  | parameters
  /-- At the head of a device control string. -/
  | deviceHead
  | deviceParameters
  | deviceIntermediate
  /-- In a string that ends with its terminator alone. -/
  | string
  /-- In a command to the operating system, which ends with the bell. -/
  | command
  deriving DecidableEq, Repr

/-! ## Characters -/

def isControl (c : Char) : Bool := c.toNat < 0x20 || c.toNat == 0x7F

/-- The control characters that are shown. -/
def isBlank (c : Char) : Bool := c == '\t' || c == '\n' || c == '\r' || c == '\x0c'

def isShown (c : Char) : Bool := !isControl c || isBlank c

/-- Whether `c` ends any sequence at once. -/
def cancels (c : Char) : Bool := c == '\x18' || c == '\x1a'

/-- Whether the code point of `c` lies in a range. -/
def between (low high : Nat) (c : Char) : Bool := low ≤ c.toNat && c.toNat ≤ high

/-- The byte that terminates a string, also where it stands inside the encoding of a character. -/
def terminator : UInt8 := 0x9C

def terminates (c : Char) : Bool := (String.utf8EncodeChar c).contains terminator

/-! ## Sequences -/

namespace State

/-- The state after a character that follows the escape character and is no control. -/
def afterEscape (c : Char) : State :=
  if c = '[' then parameters
  else if c = ']' then command
  else if c = 'P' then deviceHead
  else if c = 'X' ∨ c = '^' ∨ c = '_' then string
  else if between 0x20 0x2F c then intermediate
  else if between 0x30 0x7E c then ground
  else escape

/-- The state after `c`. -/
def next (s : State) (c : Char) : State :=
  if c = '\x1b' then escape
  else if cancels c then ground
  else
    match s with
    | ground => ground
    | escape => afterEscape c
    | intermediate => if between 0x30 0x7E c then ground else intermediate
    | parameters => if between 0x40 0x7E c then ground else parameters
    | deviceHead =>
      if between 0x40 0x7E c then string
      else if between 0x30 0x3F c then deviceParameters
      else if between 0x20 0x2F c then deviceIntermediate
      else deviceHead
    | deviceParameters =>
      if between 0x3C 0x7E c then string
      else if between 0x20 0x2F c then deviceIntermediate
      else deviceParameters
    | deviceIntermediate => if between 0x30 0x7E c then string else deviceIntermediate
    | string => if terminates c then ground else string
    | command => if c = '\x07' then ground else command

/-- Whether `c` is shown where the sequence has come to. -/
def shows (s : State) (c : Char) : Bool :=
  match s with
  | ground => isShown c
  | escape => isBlank c
  | intermediate => isBlank c
  | parameters => isBlank c
  | _ => false

end State

/-! ## Texts -/

/-- A place in a text.  While text is being shown, the sequence stands still until it ends. -/
structure Place where
  state : State
  showing : Bool
  deriving DecidableEq, Repr

/-- The place after `c`, and whether `c` is shown. -/
def Place.step (p : Place) (c : Char) : Place × Bool :=
  if p.showing then
    if isShown c then (⟨if 0x80 ≤ c.toNat then .ground else p.state, true⟩, true)
    else (⟨p.state.next c, false⟩, false)
  else (⟨p.state.next c, p.state.shows c⟩, p.state.shows c)

def plainFrom : Place → List Char → List Char
  | _, [] => []
  | p, c :: cs =>
    let after := p.step c
    if after.2 then c :: plainFrom after.1 cs else plainFrom after.1 cs

def plain (s : String) : String := String.ofList (plainFrom ⟨.ground, false⟩ s.toList)

end Paging.Text.Terminal
