import Paging.Dialogue.Answer
import Paging.Text.Utf8

/-!
# The dialogue

The program asks for an action, then for an address or an entry, answers, and asks again.  It
reads a line after each question.  `script` says what it does in order, for the lines that its
input holds.
-/

namespace Paging.Dialogue

/-! ## Questions -/

inductive Question
  | action
  | address
  | entry
  deriving DecidableEq, Repr

def Question.text : Question → String
  | action => "Action: \n\t1. Check Sv39 VAddr \n\t2. Explain PTE\n> "
  | address =>
    "Enter a RISC-V Sv39 virtual address (in hexadecimal, e.g., 0x123456789): "
  | entry => "Enter a 64-bit Sv39 PTE in hexadecimal (e.g., 0x123456789ABCDEF): "

/-! ## Steps -/

inductive Step
  | write (text : String)
  | flush
  /-- Takes a line of the input, or nothing at its end. -/
  | read (line : List UInt8)
  | note (record : Log.Record)
  deriving DecidableEq, Repr

/-- How a dialogue ends when nothing hinders its output. -/
inductive Ending
  | finished
  /-- The last line read is not UTF-8. -/
  | notText
  deriving DecidableEq, Repr

structure Script where
  steps : List Step
  ending : Ending
  deriving DecidableEq, Repr

namespace Script

/-- A script with more steps ahead of it. -/
def after (steps : List Step) (t : Script) : Script := ⟨steps ++ t.steps, t.ending⟩

/-- All that is written. -/
def text (t : Script) : String :=
  String.join (t.steps.filterMap fun
    | .write text => some text
    | _ => none)

/-- All that is put on record. -/
def records (t : Script) : List Log.Record :=
  t.steps.filterMap fun
    | .note r => some r
    | _ => none

end Script

/-! ## What is done -/

def Answer.steps (a : Answer) : List Step := a.records.map .note ++ [.write a.text]

def Question.steps (q : Question) : List Step := [.write q.text, .flush]

/-- What is done on a reply to a question, given without the white space around it, and what is
asked next, unless that was the end. -/
def Question.reply (s : Strictness) : Question → String → List Step × Option Question
  | action, reply =>
    if reply ∈ ["q", "quit", "exit"] then ([], none)
    else if reply = "2" then ([], some entry)
    else ([], some address)
  | address, reply => ((Answer.toAddress s reply).steps, some action)
  | entry, reply => ((Answer.toEntry reply).steps, some action)

/-- The dialogue from a question on, with the lines that are left.  Where a line is wanted and none
is left, it reads nothing and ends with a line feed. -/
def script (s : Strictness) : Question → List (List UInt8) → Script
  | q, [] => ⟨q.steps ++ [.read [], .write "\n"], .finished⟩
  | q, line :: lines =>
    let asked := q.steps ++ [.read line]
    match Text.Utf8.decode? line with
    | none => ⟨asked, .notText⟩
    | some t =>
      match q.reply s (Text.trimmed t) with
      | (steps, none) => ⟨asked ++ steps, .finished⟩
      | (steps, some q') => (script s q' lines).after (asked ++ steps)

end Paging.Dialogue
