import Paging.AppTable.Assembly
import Paging.FileSystem.Access
import Paging.Log.Notice

/-!
# Packing the applications of a directory

The applications are the files that lie directly in a directory, but for those whose name begins
with a dot.  `collect` lists them by the bytes of their names, and `pack` writes the table of them
to a file.  The directory is read to the end before anything is written.
-/

namespace Paging.AppTable

open Text

inductive PackError
  /-- The directory could not be read. -/
  | listing (dir : String) (cause : PathError)
  /-- The name of a file is not UTF-8. -/
  | name (bytes : FileName)
  | writing (out : String) (cause : PathError)
  deriving DecidableEq, Repr

namespace PackError

def message : PackError → String
  | listing dir _ => "failed to list " ++ dir
  | name bytes => "non UTF-8 file name " ++ quotedBytes bytes
  | writing out _ => "failed to write " ++ out

/-- What lies behind an error, from the outside in. -/
def causes : PackError → List String
  | listing dir cause =>
    ["IO error for operation on " ++ dir ++ ": " ++ cause.message, cause.message]
  | name _ => []
  | writing _ cause => [cause.message]

end PackError

/-! ## The applications of a directory -/

/-- Whether a name is a text that begins with a dot. -/
def isHidden (name : FileName) : Bool :=
  match Utf8.decode? name with
  | some t => t.toList.head? == some '.'
  | none => false

/-- What packing says about one thing in a directory. -/
inductive Finding
  | skipped (name : FileName)
  | app (app : App)
  /-- A file whose name is not UTF-8. -/
  | unnamed (name : FileName)
  deriving DecidableEq, Repr

namespace Finding

/-- What is found under a name, from the size of what lies there if it is a file. -/
def of (name : FileName) : Option Nat → Finding
  | some size =>
    match Utf8.decode? name with
    | some t => app ⟨t, size⟩
    | none => unnamed name
  | none => skipped name

/-- The applications found, unless some name is not UTF-8. -/
def apps : List Finding → Except PackError (List App)
  | [] => .ok []
  | .skipped _ :: rest => apps rest
  | .app a :: rest => (apps rest).map (a :: ·)
  | .unnamed name :: _ => .error (.name name)

/-- What is put on record about findings in `dir`, up to a name that is not UTF-8. -/
def records (dir : String) : List Finding → List Log.Record
  | [] => []
  | .skipped name :: rest =>
    Log.skipped (joinPath dir (Utf8.decodeLossy name)) :: records dir rest
  | .app a :: rest => Log.found a.name a.size :: records dir rest
  | .unnamed _ :: _ => []

end Finding

/-- What is found in a directory, by names and sizes. -/
def findingsOf (entries : List (FileName × Option Nat)) : List Finding :=
  (entries.filter fun e => !isHidden e.1).map fun e => .of e.1 e.2

/-- What is found in the directory at the end of a path, which need not be a text. -/
def findings (fs : FileSystem) (dir : List UInt8) : Except PackError (List Finding) :=
  match fs.list dir with
  | .error e => .error (.listing (Utf8.decodeLossy dir) e)
  | .ok entries => .ok (findingsOf (entries.map fun e => (e.1, e.2.size?)))

def collectAt (fs : FileSystem) (dir : List UInt8) : Except PackError (List App) :=
  (findings fs dir).bind Finding.apps

def collect (fs : FileSystem) (dir : String) : Except PackError (List App) :=
  collectAt fs (Utf8.encode dir)

/-! ## Packing -/

/-- What reads and changes a file system and may fail on the way.  What it has changed by then
stays changed. -/
abbrev Action := EStateM PackError FileSystem

namespace Action

/-- Lists the applications of a directory. -/
def collect (dir : List UInt8) : Action (List App) := fun fs =>
  match collectAt fs dir with
  | .ok apps => .ok apps fs
  | .error e => .error e fs

/-- Gives a file its content, through links, and makes it if there is none. -/
def write (out content : List UInt8) : Action Unit := fun fs =>
  match fs.write out content with
  | .ok fs' => .ok () fs'
  | .error e => .error (.writing (Utf8.decodeLossy out) e) fs

end Action

/-- The bytes of the table of applications in a directory, the path of which need not be a text. -/
def table (dir : List UInt8) (apps : List App) : List UInt8 :=
  Utf8.encode (assembly (Utf8.decodeLossy dir) apps)

/-- Writes the table of the applications in `dir` to `out`, and tells which they are. -/
def packing (dir out : List UInt8) : Action (List App) := do
  let apps ← Action.collect dir
  Action.write out (table dir apps)
  return apps

/-- The file system with the table of the applications in `dir` written to `out`. -/
def pack (fs : FileSystem) (dir out : String) : Except PackError FileSystem :=
  match packing (Utf8.encode dir) (Utf8.encode out) fs with
  | .ok _ fs' => .ok fs'
  | .error e _ => .error e

/-- What packing puts on record. -/
def packRecords (fs : FileSystem) (dir out : String) : List Log.Record :=
  let listed :=
    match findings fs (Utf8.encode dir) with
    | .error _ => []
    | .ok found => Finding.records dir found
  let written :=
    match packing (Utf8.encode dir) (Utf8.encode out) fs with
    | .ok apps _ => [Log.wroteTable apps.length out]
    | .error _ _ => []
  listed ++ written

end Paging.AppTable
