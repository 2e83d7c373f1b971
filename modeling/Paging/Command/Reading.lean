import Paging.Command.Argument
import Paging.Text.Hexadecimal

/-!
# Reading arguments

The words of one level, before or after the subcommand, are read from left to right.  A value that
stands in a word of its own is held until the next parameter comes up or the words end, and only
then is it checked.  So of two faults the one further to the right may be told.

This is how clap 4 reads arguments.  Here they are texts, so arguments that are not UTF-8 are left
out.  Of help it is told that it is asked for, and not how its pages read.
-/

namespace Paging.Command

/-! ## What has been given -/

/-- The parameters given at one level. -/
structure Given where
  log : Option String
  strict : Bool
  verbose : Bool
  dir : Option String
  out : Option String
  operand : Option UInt64
  deriving DecidableEq, Repr

namespace Given

def nothing : Given := ⟨none, false, false, none, none, none⟩

def has (g : Given) : Parameter → Bool
  | .log => g.log.isSome
  | .strict => g.strict
  | .help => false
  | .verbose => g.verbose
  | .dir => g.dir.isSome
  | .out => g.out.isSome
  | .address => g.operand.isSome
  | .entry => g.operand.isSome

/-- The value of a path parameter, which may not be empty. -/
def path (p : Parameter) (value : String) : Except Refusal String :=
  if value = "" then .error (.error (.missingValue p)) else .ok value

/-- The number that an operand spells. -/
def number (p : Parameter) (value : String) : Except Refusal UInt64 :=
  match Text.parseHex value with
  | .ok n => .ok n
  | .error f => .error (.error (.invalidValue value p f.message))

/-- Notes a parameter with its value, which a flag does without. -/
def set (g : Given) (p : Parameter) (value : String) : Except Refusal Given :=
  if g.has p then .error (.error (.repeated p))
  else
    match p with
    | .log => .ok { g with log := some value }
    | .strict => .ok { g with strict := true }
    | .help => .error .help
    | .verbose => .ok { g with verbose := true }
    | .dir => (path p value).map fun v => { g with dir := some v }
    | .out => (path p value).map fun v => { g with out := some v }
    | .address => (number p value).map fun n => { g with operand := some n }
    | .entry => (number p value).map fun n => { g with operand := some n }

end Given

/-! ## Reading word by word -/

structure Reading where
  given : Given
  /-- A parameter that has come up but is not noted yet, with its value if that has come up too. -/
  held : Option (Parameter × Option String)
  /-- The operand, until it comes up. -/
  operand : Option Parameter
  /-- Whether every word stands for itself. -/
  separated : Bool
  deriving DecidableEq, Repr

namespace Reading

def start (level : Option Subcommand) : Reading :=
  ⟨.nothing, none, Subcommand.operand level, false⟩

/-- Whether the next word is the value of an option. -/
def awaitsValue (r : Reading) : Bool :=
  !r.separated && (match r.held with
    | some (_, none) => true
    | _ => false)

/-- Notes what is held. -/
def settle (r : Reading) : Except Refusal Reading :=
  match r.held with
  | none => .ok r
  | some (p, none) => .error (.error (.missingValue p))
  | some (p, some value) => (r.given.set p value).map fun g => { r with given := g, held := none }

/-- Notes a parameter at once. -/
def note (r : Reading) (p : Parameter) (value : String) : Except Refusal Reading :=
  r.settle.bind fun r => (r.given.set p value).map fun g => { r with given := g }

/-- Holds a parameter, with its value if there is one. -/
def hold (r : Reading) (p : Parameter) (value : Option String) : Except Refusal Reading :=
  r.settle.map fun r => { r with held := some (p, value) }

/-- Reads an option given by its name. -/
def long (level : Option Subcommand) (r : Reading) (name : String) (value : Option String) :
    Except Refusal Reading :=
  match (Subcommand.options level).find? (·.long? == some name) with
  | none => .error (.error (.unexpected ("--" ++ name)))
  | some p =>
    match p.takesValue, value with
    | true, some v => r.note p v
    | true, none => r.hold p none
    | false, some v => .error (.error (.superfluousValue v p))
    | false, none => r.note p ""

/-- Reads flags given by letters. -/
def short (level : Option Subcommand) : List Char → Reading → Except Refusal Reading
  | [], r => .ok r
  | c :: cs, r =>
    match (Subcommand.options level).find? (·.short? == some c) with
    | none => .error (.error (.unexpected (String.ofList ['-', c])))
    | some p => (r.note p "").bind (short level cs)

/-- What is wrong with a word for which there is no use. -/
def useless (level : Option Subcommand) (r : Reading) (word : String) : ArgumentError :=
  match level with
  | some _ => .unexpected word
  | none =>
    if r.separated ∧ ((Subcommand.ofName? word).isSome ∨ word = Subcommand.helpName) then
      .unexpected word
    else .unknownSubcommand word

/-- Reads a word that is no option: the value of one, or the operand. -/
def word (level : Option Subcommand) (r : Reading) (text : String) : Except Refusal Reading :=
  match r.awaitsValue, r.held, r.operand with
  | true, some (p, _), _ => .ok { r with held := some (p, some text) }
  | _, _, some p => (r.hold p (some text)).map fun r => { r with operand := none }
  | _, _, none => .error (.error (r.useless level text))

def token (level : Option Subcommand) (r : Reading) : Token → Except Refusal Reading
  | .separator => .ok { r with separated := true }
  | .long name value => r.long level name value
  | .short letters => short level letters r
  | .word text => r.word level text

/-- Reads one word. -/
def step (level : Option Subcommand) (r : Reading) (text : String) : Except Refusal Reading :=
  r.token level (if r.separated then .word text else .of text)

/-- Reads all words of a level that has no subcommands. -/
def all (level : Option Subcommand) : List String → Reading → Except Refusal Reading
  | [], r => .ok r
  | s :: rest, r => (r.step level s).bind (all level rest)

/-- What is answered to the words after the one that asks for help: help, if they are at most the
name of a subcommand. -/
def helpOn : List String → Refusal
  | [] => .help
  | s :: rest =>
    if (Subcommand.ofName? s).isSome ∨ s = Subcommand.helpName then
      match rest with
      | [] => .help
      | t :: _ => .error (.unknownSubcommand t)
    else .error (.unknownSubcommand s)

/-- Reads words up to a subcommand.  Gives it with the words after it. -/
def upToSubcommand :
    List String → Reading → Except Refusal (Reading × Option (Subcommand × List String))
  | [], r => .ok (r, none)
  | s :: rest, r =>
    if r.separated || r.awaitsValue then (r.step none s).bind (upToSubcommand rest)
    else if s = Subcommand.helpName then .error (helpOn rest)
    else
      match Subcommand.ofName? s with
      | some c => .ok (r, some (c, rest))
      | none => (r.step none s).bind (upToSubcommand rest)

end Reading

end Paging.Command
