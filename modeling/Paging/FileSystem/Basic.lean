/-!
# File systems

A file system knows for each location below its root what lies there: a directory, a file or a
symbolic link.  `node?` is the view of it that everything else is stated with; `put` and `erase`
change it at one location and leave all others alone.
-/

namespace Paging

/-- The bytes of a name, which need not be a text. -/
abbrev FileName := List UInt8

/-- The names that lead from the root to a place, the innermost first.  The root is `[]`. -/
abbrev Location := List FileName

inductive Node
  | directory
  | file (content : List UInt8)
  | link (target : List UInt8)
  deriving DecidableEq, Repr

/-- The length of a file. -/
def Node.size? : Node → Option Nat
  | file content => some content.length
  | directory => none
  | link _ => none

/-- What lies at each location but the root, which is a directory, and where relative paths
start. -/
structure FileSystem where
  entries : List (Location × Node)
  workingDirectory : Location
  distinct : (entries.map Prod.fst).Nodup

namespace FileSystem

/-- A file system with nothing but an empty working directory. -/
def empty (name : FileName) : FileSystem where
  entries := [([name], .directory)]
  workingDirectory := [name]
  distinct := by simp

def node? (fs : FileSystem) (loc : Location) : Option Node :=
  if loc = [] then some .directory else fs.entries.lookup loc

def isDirectory (fs : FileSystem) (loc : Location) : Bool := fs.node? loc == some .directory

/-- What lies directly in the directory at a location, in no particular order. -/
def children (fs : FileSystem) (loc : Location) : List (FileName × Node) :=
  fs.entries.filterMap fun
    | (name :: parent, node) => if parent = loc then some (name, node) else none
    | ([], _) => none

/-- Things under names, by the bytes of the names. -/
def byName {α : Type} (entries : List (FileName × α)) : List (FileName × α) :=
  entries.mergeSort fun a b => decide (a.1 ≤ b.1)

/-! ## Changes -/

/-- All entries but the one at a location. -/
def others (fs : FileSystem) (loc : Location) : List (Location × Node) :=
  fs.entries.filter (·.1 ≠ loc)

theorem others_distinct (fs : FileSystem) (loc : Location) :
    ((fs.others loc).map Prod.fst).Nodup :=
  fs.distinct.sublist (List.filter_sublist.map Prod.fst)

theorem not_mem_others (fs : FileSystem) (loc : Location) :
    loc ∉ (fs.others loc).map Prod.fst := by
  simp [others]

/-- Puts something at a location in place of what lies there. -/
def put (fs : FileSystem) (loc : Location) (node : Node) : FileSystem where
  entries := (loc, node) :: fs.others loc
  workingDirectory := fs.workingDirectory
  distinct := List.nodup_cons.mpr ⟨fs.not_mem_others loc, fs.others_distinct loc⟩

def erase (fs : FileSystem) (loc : Location) : FileSystem where
  entries := fs.others loc
  workingDirectory := fs.workingDirectory
  distinct := fs.others_distinct loc

end FileSystem

end Paging
