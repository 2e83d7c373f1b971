import Paging.FileSystem.Resolve

/-!
# Reading and writing by path

A directory is listed as walkdir 2 does it one level deep, when it is told to sort by name.  The
rest is as POSIX documents it.  Rights are left out: whatever is there can be read and written.
-/

namespace Paging.FileSystem

/-! ## Reading -/

/-- What lies directly in the directory at the end of a path, by the bytes of the names.  Anything
but a directory has nothing in it. -/
def list (fs : FileSystem) (path : List UInt8) : Except PathError (List (FileName × Node)) :=
  (fs.locate path).map fun loc =>
    if fs.isDirectory loc then byName (fs.children loc) else []

/-- The content of the file at the end of a path. -/
def read? (fs : FileSystem) (path : List UInt8) : Option (List UInt8) :=
  match fs.locate path with
  | .error _ => none
  | .ok loc =>
    match fs.node? loc with
    | some (.file content) => some content
    | _ => none

/-! ## Writing -/

/-- Where a file is written that is given by a path: at the end of it, through links, where
either a file or nothing lies. -/
def target (fs : FileSystem) (path : List UInt8) : Except PathError Location :=
  match fs.resolve .create path with
  | .error e => .error e
  | .ok (.vacant loc) => .ok loc
  | .ok (.found loc) =>
    match fs.node? loc with
    | some (.file _) => .ok loc
    | _ => .error .isDirectory

/-- Gives the file at the end of a path some content, and makes the file if there is none. -/
def write (fs : FileSystem) (path : List UInt8) (content : List UInt8) :
    Except PathError FileSystem :=
  (fs.target path).map fun loc => fs.put loc (.file content)

/-- The file system with a directory at the end of the parts, which is made if nothing lies there.
A link is only looked through, so that nothing is made where it leads. -/
def withDirectory (fs : FileSystem) (start : Location) (parts : List PathPart) :
    Except PathError FileSystem :=
  match fs.walk .inspect linkLimit start parts with
  | .error e => .error e
  | .ok (.vacant loc) => .ok (fs.put loc .directory)
  | .ok (.found _) =>
    match fs.walk .find linkLimit start parts with
    | .ok (.found loc) => if fs.isDirectory loc then .ok fs else .error .alreadyExists
    | .ok (.vacant _) => .error .alreadyExists
    | .error e => .error e

/-- Makes the directories that the parts so far lead to with one more part each, in order. -/
def makeFrom (start : Location) (soFar : List PathPart) :
    List PathPart → FileSystem → Except PathError FileSystem
  | [], fs => .ok fs
  | part :: rest, fs =>
    (fs.withDirectory start (soFar ++ [part])).bind (makeFrom start (soFar ++ [part]) rest)

/-- Makes the directory at the end of a path and those on the way to it, which are none if the path
is empty. -/
def makeDirectories (fs : FileSystem) (path : List UInt8) : Except PathError FileSystem :=
  match Path.parse? path with
  | none => .ok fs
  | some p => makeFrom (p.start fs.workingDirectory) [] p.parts fs

def makeLink (fs : FileSystem) (path target : List UInt8) : Except PathError FileSystem :=
  match fs.resolve .inspect path with
  | .error e => .error e
  | .ok (.found _) => .error .alreadyExists
  | .ok (.vacant loc) => .ok (fs.put loc (.link target))

/-- Takes away a file or a link. -/
def remove (fs : FileSystem) (path : List UInt8) : Except PathError FileSystem :=
  match fs.resolve .inspect path with
  | .error e => .error e
  | .ok (.vacant _) => .error .noEntry
  | .ok (.found loc) => if fs.isDirectory loc then .error .isDirectory else .ok (fs.erase loc)

end Paging.FileSystem
