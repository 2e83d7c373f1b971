import Paging.FileSystem.Path

/-!
# Where a path leads

A path is walked part by part, each from a directory.  A symbolic link on the way is replaced by
its target, at most `linkLimit` times in all.  What happens to a link at the end depends on what
the path is walked for.
-/

namespace Paging

inductive PathError
  | noEntry
  | notDirectory
  | isDirectory
  | alreadyExists
  | tooManyLinks
  deriving DecidableEq, Repr

def PathError.message : PathError → String
  | noEntry => "No such file or directory (os error 2)"
  | notDirectory => "Not a directory (os error 20)"
  | isDirectory => "Is a directory (os error 21)"
  | alreadyExists => "File exists (os error 17)"
  | tooManyLinks => "Too many levels of symbolic links (os error 40)"

/-- What a path is walked for. -/
inductive Purpose
  /-- For what lies at its end, through links. -/
  | find
  /-- For a link itself, if one lies at its end. -/
  | inspect
  /-- For a file to be written at its end, through links.  It must not end in a slash. -/
  | create
  deriving DecidableEq, Repr

/-- Where a path leads. -/
inductive Place
  | found (loc : Location)
  /-- Nothing lies there, but the directory around it exists. -/
  | vacant (loc : Location)
  deriving DecidableEq, Repr

namespace FileSystem

/-- Walks parts from a location up to the first link that has to be followed.  There `jump` goes
on from the directory of the link, with its target and the parts that are left. -/
def walkWith (fs : FileSystem) (purpose : Purpose)
    (jump : Location → List UInt8 → List PathPart → Except PathError Place) :
    Location → List PathPart → Except PathError Place
  | loc, [] => .ok (.found loc)
  | loc, part :: rest =>
    if fs.isDirectory loc then
      match part with
      | .here => walkWith fs purpose jump loc rest
      | .slash => walkWith fs purpose jump loc rest
      | .up => walkWith fs purpose jump loc.tail rest
      | .name n =>
        if purpose = .create ∧ rest = [.slash] then .error .isDirectory
        else
          match fs.node? (n :: loc) with
          | none => if rest = [] then .ok (.vacant (n :: loc)) else .error .noEntry
          | some (.link target) =>
            if purpose = .inspect ∧ rest = [] then .ok (.found (n :: loc))
            else jump loc target rest
          | some _ => walkWith fs purpose jump (n :: loc) rest
    else .error .notDirectory

/-- Walks parts from a location and follows so many links. -/
def walk (fs : FileSystem) (purpose : Purpose) :
    Nat → Location → List PathPart → Except PathError Place
  | 0 => fs.walkWith purpose fun _ _ _ => .error .tooManyLinks
  | links + 1 =>
    fs.walkWith purpose fun loc target rest =>
      match Path.parse? target with
      | none => .error .noEntry
      | some p => walk fs purpose links (p.start loc) (p.parts ++ rest)

/-- How many links are followed on one way. -/
def linkLimit : Nat := 40

def resolve (fs : FileSystem) (purpose : Purpose) (path : List UInt8) : Except PathError Place :=
  match Path.parse? path with
  | none => .error .noEntry
  | some p => fs.walk purpose linkLimit (p.start fs.workingDirectory) p.parts

/-- The location of what lies at the end of a path, through links. -/
def locate (fs : FileSystem) (path : List UInt8) : Except PathError Location :=
  match fs.resolve .find path with
  | .ok (.found loc) => .ok loc
  | .ok (.vacant _) => .error .noEntry
  | .error e => .error e

end FileSystem

end Paging
