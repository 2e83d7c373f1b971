import Paging.Command.Run

/-!
# The command

Carries out on the terminal and on real files what `Command.run` says: the dialogue line by line,
and packing with a directory listing and one write.  No pages of help come with it, so a call for
help is answered with a blank one.
-/

namespace Paging.Main

open Command

/-- Writes a log line. -/
def report (f : Log.Filter) (records : List Log.Record) : IO Unit :=
  (Log.Filter.lines f records).forM fun line => IO.eprintln line

/-- Tells of a failure of an operation. -/
def fail (message : String) : IO UInt32 := do
  IO.eprintln (failureLine message)
  return 1

/-! ## The dialogue -/

/-- The bytes of the next line. -/
partial def nextLine (input : IO.FS.Stream) (soFar : Array UInt8) : IO (List UInt8) := do
  let bytes ← input.read 1
  match bytes.data.toList with
  | [] => return soFar.toList
  | b :: _ => if b = 0x0A then return (soFar.push b).toList else nextLine input (soFar.push b)

def play (f : Log.Filter) (output : IO.FS.Stream) : Dialogue.Step → IO Unit
  | .write text => output.putStr text
  | .flush => output.flush
  | .read _ => return ()
  | .note record => report f [record]

partial def converse (f : Log.Filter) (s : Strictness) (q : Dialogue.Question) : IO UInt32 := do
  let output ← IO.getStdout
  q.steps.forM (play f output)
  let line ← nextLine (← IO.getStdin) #[]
  if line = [] then
    output.putStr "\n"
    return 0
  match Text.Utf8.decode? line with
  | none => fail Dialogue.Failure.notText.message
  | some t =>
    let (steps, next) := q.reply s (Text.trimmed t)
    steps.forM (play f output)
    match next with
    | none => return 0
    | some q' => converse f s q'

/-! ## Packing -/

/-- The names in a directory, with the sizes of the files. -/
def listing (dir : String) : IO (List (FileName × Option Nat)) := do
  let real ← IO.FS.realPath dir
  if ← real.isDir then
    let entries ← (← real.readDir).toList.mapM fun e => do
      let data ← e.path.symlinkMetadata
      let size := match data.type with
        | .file => some data.byteSize.toNat
        | _ => none
      return (Text.Utf8.encode e.fileName, size)
    return FileSystem.byName entries
  else return []

def packApps (f : Log.Filter) (dir out : String) : IO UInt32 := do
  match ← (listing dir).toBaseIO with
  | .error _ => fail (AppTable.PackError.listing dir .noEntry).message
  | .ok entries =>
    let found := AppTable.findingsOf entries
    report f (AppTable.Finding.records dir found)
    match AppTable.Finding.apps found with
    | .error e => fail e.message
    | .ok apps =>
      match ← (IO.FS.writeFile out (AppTable.assembly dir apps)).toBaseIO with
      | .error _ => fail (AppTable.PackError.writing out .noEntry).message
      | .ok _ =>
        report f [Log.wroteTable apps.length out]
        return 0

/-! ## Everything else -/

def showOutcome (o : Outcome) : IO UInt32 := do
  o.log.forM fun line => IO.eprintln line
  IO.print o.stdout
  o.error.forM fun line => IO.eprintln line
  return UInt32.ofNat o.code

end Paging.Main

open Paging Paging.Command Paging.Main in
def main (args : List String) : IO UInt32 := do
  let env : Environment := ⟨← IO.getEnv "SV39_LOG", ← IO.getEnv "SV39_STRICT"⟩
  let accepted := match interpret args env with
    | .error _ => none
    | .ok (settings, request) =>
      (Log.Filter.parse settings.log).toOption.map fun f => (f, settings.strictness, request)
  match accepted with
  | some (f, s, .dialogue) =>
    report f [Log.starting s]
    converse f s .action
  | some (f, s, .pack dir out) =>
    report f [Log.starting s]
    packApps f dir out
  | _ => showOutcome (run args env [] (.empty []))
