import Paging.Text.Numeral

/-!
# The application table in assembly

The table `user_apps` has three words for each application: where its name is, where its binary
is, and how long the binary is.  Three zero words end it.  The names and the binaries themselves
follow in a section of their own.
-/

namespace Paging.AppTable

structure App where
  name : String
  /-- The length of the binary in bytes. -/
  size : Nat
  deriving DecidableEq, Repr

/-- The path of `name` in `dir`.  A name that starts with a slash stands for itself, and a slash is
put in between only where `dir` is not empty and does not end in one. -/
def joinPath (dir name : String) : String :=
  if name.toList.head? = some '/' then name
  else if dir = "" ∨ dir.toList.getLast? = some '/' then dir ++ name
  else dir ++ "/" ++ name

/-! ## Lines -/

def nameLabel (app : App) : String := ".str_" ++ app.name

def binaryLabel (app : App) : String := ".elf_" ++ app.name

/-- One word of the table. -/
def word (value : String) : String := "    .quad " ++ value

def headLines : List String :=
  ["", "    .align 8", "    .section .data", "    .global user_apps", "user_apps:"]

/-- The words for one application. -/
def entryLines (app : App) : List String :=
  ["", word (nameLabel app), word (binaryLabel app), word (Text.decimal app.size)]

def endLines : List String := ["", word "0", word "0", word "0"]

def sectionLines : List String := ["", "    .section .data.apps"]

/-- The name and the binary of one application. -/
def dataLines (dir : String) (app : App) : List String :=
  ["", nameLabel app ++ ":", "    .string \"" ++ app.name ++ "\"", ".align 8",
    binaryLabel app ++ ":", "    .incbin \"" ++ joinPath dir app.name ++ "\""]

def lines (dir : String) (apps : List App) : List String :=
  headLines ++ apps.flatMap entryLines ++ endLines ++ sectionLines ++ apps.flatMap (dataLines dir)

/-- The whole table for applications that lie in `dir`. -/
def assembly (dir : String) (apps : List App) : String :=
  String.join ((lines dir apps).map (· ++ "\n"))

end Paging.AppTable
