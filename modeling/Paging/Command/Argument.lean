import Paging.Fault
import Paging.Text.Terminal

/-!
# Arguments

What may be given on the command line, and what may be wrong with it.  Words and faults are as
clap 4 documents them.  Of a fault only the first line is told, and the advice and the usage below
it are left out.
-/

namespace Paging.Command

open Text.Terminal (plain)

/-! ## Parameters -/

/-- What arguments give. -/
inductive Parameter
  | log
  | strict
  | help
  | verbose
  | dir
  | out
  | address
  | entry
  deriving DecidableEq, Repr

namespace Parameter

/-- How a parameter is shown. -/
def shown : Parameter → String
  | log => "--log <LOG>"
  | strict => "--strict"
  | help => "--help"
  | verbose => "--verbose"
  | dir => "--dir <DIR>"
  | out => "--out <OUT>"
  | address => "<ADDRESS>"
  | entry => "<ENTRY>"

/-- The name after two dashes. -/
def long? : Parameter → Option String
  | log => some "log"
  | strict => some "strict"
  | help => some "help"
  | verbose => some "verbose"
  | dir => some "dir"
  | out => some "out"
  | address => none
  | entry => none

/-- The letter after one dash. -/
def short? : Parameter → Option Char
  | help => some 'h'
  | verbose => some 'v'
  | _ => none

/-- Whether a value goes with it. -/
def takesValue : Parameter → Bool
  | log => true
  | dir => true
  | out => true
  | address => true
  | entry => true
  | strict => false
  | help => false
  | verbose => false

end Parameter

/-! ## Subcommands -/

inductive Subcommand
  | address
  | entry
  | dialogue
  | pack
  deriving DecidableEq, Repr

namespace Subcommand

def all : List Subcommand := [address, entry, dialogue, pack]

def name : Subcommand → String
  | address => "vaddr"
  | entry => "pte"
  | dialogue => "shell"
  | pack => "pack"

def ofName? (s : String) : Option Subcommand := all.find? (·.name == s)

/-- The word that asks for help in place of a subcommand. -/
def helpName : String := "help"

/-- The options that are known after a subcommand, or before any. -/
def options : Option Subcommand → List Parameter
  | none => [.log, .strict, .help]
  | some address => [.log, .strict, .help]
  | some entry => [.log, .strict, .help, .verbose]
  | some dialogue => [.log, .strict, .help]
  | some pack => [.log, .strict, .help, .dir, .out]

/-- The one parameter that is given without a name. -/
def operand : Option Subcommand → Option Parameter
  | some address => some .address
  | some entry => some .entry
  | _ => none

end Subcommand

/-! ## Errors -/

inductive ArgumentError
  | invalidValue (value : String) (parameter : Parameter) (reason : String)
  | missingOperand
  | unexpected (argument : String)
  | unknownSubcommand (name : String)
  | missingValue (parameter : Parameter)
  | repeated (parameter : Parameter)
  /-- A value given to a parameter that takes none. -/
  | superfluousValue (value : String) (parameter : Parameter)
  deriving DecidableEq, Repr

/-- What is said of an error.  Words of the command line are told without terminal control. -/
def ArgumentError.message : ArgumentError → String
  | invalidValue value p reason =>
    "invalid value '" ++ plain value ++ "' for '" ++ p.shown ++ "': " ++ reason
  | missingOperand => "the following required arguments were not provided:"
  | unexpected argument => "unexpected argument '" ++ plain argument ++ "' found"
  | unknownSubcommand name => "unrecognized subcommand '" ++ plain name ++ "'"
  | missingValue p => "a value is required for '" ++ p.shown ++ "' but none was supplied"
  | repeated p => "the argument '" ++ p.shown ++ "' cannot be used multiple times"
  | superfluousValue value p =>
    "unexpected value '" ++ plain value ++ "' for '" ++ p.shown
      ++ "' found; no more were expected"

/-- Why no run comes of the arguments. -/
inductive Refusal
  | error (e : ArgumentError)
  /-- Help was asked for. -/
  | help
  deriving DecidableEq, Repr

/-! ## Words of the command line -/

inductive Token
  /-- Two dashes alone, after which every word stands for itself. -/
  | separator
  | long (name : String) (value : Option String)
  | short (letters : List Char)
  | word (text : String)
  deriving DecidableEq, Repr

def Token.of (text : String) : Token :=
  match text.toList with
  | ['-', '-'] => .separator
  | '-' :: '-' :: cs =>
    let name := String.ofList (cs.takeWhile (· ≠ '='))
    match cs.dropWhile (· ≠ '=') with
    | [] => .long name none
    | _ :: value => .long name (some (String.ofList value))
  | '-' :: c :: cs => .short (c :: cs)
  | _ => .word text

end Paging.Command
