import Paging.Dialogue.Script
import Paging.Text.Lines

/-!
# Sessions

A session plays the dialogue on some input and an output that may take only so many bytes.  The
first write that does not fit is cut off there and ends the session.
-/

namespace Paging.Dialogue

inductive Failure
  | notText
  | outputClosed
  deriving DecidableEq, Repr

def Failure.message : Failure → String
  | notText => "stream did not contain valid UTF-8"
  | outputClosed => "output closed"

/-! ## Playing steps -/

/-- What playing some steps leaves behind. -/
structure Played where
  /-- What was written, cut at each flush. -/
  segments : List (List UInt8)
  /-- The lines that were read. -/
  taken : List (List UInt8)
  /-- Whether all steps were played. -/
  completed : Bool
  deriving DecidableEq, Repr

namespace Played

/-- Bytes written ahead of everything else. -/
def write (bytes : List UInt8) (p : Played) : Played :=
  match p.segments with
  | [] => { p with segments := [bytes] }
  | s :: ss => { p with segments := (bytes ++ s) :: ss }

def flush (p : Played) : Played := { p with segments := [] :: p.segments }

def read (line : List UInt8) (p : Played) : Played := { p with taken := line :: p.taken }

end Played

/-- Plays steps while the output has room for so many bytes, or for any number of them. -/
def play : Option Nat → List Step → Played
  | _, [] => ⟨[[]], [], true⟩
  | room, .flush :: steps => (play room steps).flush
  | room, .read line :: steps => (play room steps).read line
  | room, .note _ :: steps => play room steps
  | none, .write text :: steps => (play none steps).write (Text.Utf8.encode text)
  | some room, .write text :: steps =>
    let bytes := Text.Utf8.encode text
    if bytes.length ≤ room then (play (some (room - bytes.length)) steps).write bytes
    else ⟨[bytes.take room], [], false⟩

/-! ## Sessions -/

/-- How a dialogue ends on an output that takes everything. -/
def Script.result (t : Script) : Except Failure Unit :=
  match t.ending with
  | .finished => .ok ()
  | .notText => .error .notText

structure Session where
  segments : List (List UInt8)
  /-- What of the input was not read. -/
  rest : List UInt8
  result : Except Failure Unit
  deriving Repr

namespace Session

/-- All that was written. -/
def written (p : Session) : List UInt8 := p.segments.flatten

/-- How many bytes of the input were not read. -/
def unread (p : Session) : Nat := p.rest.length

end Session

def Script.session (t : Script) (room : Option Nat) (input : List UInt8) : Session :=
  let p := play room t.steps
  { segments := p.segments
    rest := input.drop p.taken.flatten.length
    result := if p.completed then t.result else .error .outputClosed }

/-- The script of a whole session. -/
def scriptOf (s : Strictness) (input : List UInt8) : Script := script s .action (Text.lines input)

def session (s : Strictness) (room : Option Nat) (input : List UInt8) : Session :=
  (scriptOf s input).session room input

end Paging.Dialogue
