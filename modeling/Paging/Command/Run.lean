import Paging.AppTable.Pack
import Paging.Command.Request
import Paging.Dialogue.Session
import Paging.Log.Filter

/-!
# Running a command

The arguments are dealt with first, then the log filter, and then the operation is carried out.
Each stage that fails keeps the later ones from happening.

Two things are left out.  How a page of help reads is up to the library that reads the arguments, so
the page is given from outside.  Arguments and variables of the environment are texts here, so one
that is not UTF-8 is none that a run can be given.
-/

namespace Paging.Command

/-! ## Operations -/

/-- What an operation does. -/
structure Effect where
  stdout : String
  /-- What it failed with. -/
  failure : Option String
  records : List Log.Record
  files : FileSystem

def checkAddress (s : Strictness) (a : Address) (fs : FileSystem) : Effect :=
  match a.split s with
  | .ok v => ⟨Report.address a v, none, Log.ofCheck a, fs⟩
  | .error f => ⟨"", some f.message, Log.ofCheck a, fs⟩

def explainEntry (e : Entry) (verbose : Bool) (fs : FileSystem) : Effect :=
  ⟨Report.mapping e.decode ++ (if verbose then Report.details e else ""), none, [], fs⟩

def converse (s : Strictness) (input : List UInt8) (fs : FileSystem) : Effect :=
  let t := Dialogue.scriptOf s input
  let failure :=
    match t.result with
    | .ok _ => none
    | .error f => some f.message
  ⟨t.text, failure, t.records, fs⟩

def packApps (dir out : String) (fs : FileSystem) : Effect :=
  let records := AppTable.packRecords fs dir out
  match AppTable.packing (Text.Utf8.encode dir) (Text.Utf8.encode out) fs with
  | .ok _ fs' => ⟨"", none, records, fs'⟩
  | .error e fs' => ⟨"", some e.message, records, fs'⟩

def Request.perform (s : Strictness) (input : List UInt8) (fs : FileSystem) : Request → Effect
  | address a => checkAddress s a fs
  | entry e verbose => explainEntry e verbose fs
  | dialogue => converse s input fs
  | pack dir out => packApps dir out fs

/-! ## Runs -/

/-- What a run of the command leaves behind. -/
structure Outcome where
  code : Nat
  stdout : String
  /-- The line that tells of an error. -/
  error : Option String
  /-- What has been put on record, as text. -/
  log : List String
  files : FileSystem

/-- The text up to its first line feed.  A line feed follows the text. -/
def firstLine (s : String) : String := String.ofList (s.toList.takeWhile (· ≠ '\n'))

/-- The lines of a text after the first. -/
def laterLines (s : String) : List String := (s.toList.splitOn '\n').tail.map String.ofList

namespace Outcome

/-- The first lines of the records. -/
def logLines (o : Outcome) : List String := o.log.map firstLine

/-- Whether a line begins like one that tells of an error. -/
def readsAsError (line : String) : Bool :=
  "error: ".toList.isPrefixOf line.toList || "Error: ".toList.isPrefixOf line.toList

/-- Of all lines told beside the output the first that reads like an error.  A record with a line
feed in it may have such a line, and records come first. -/
def errorLine? (o : Outcome) : Option String :=
  (o.log.flatMap laterLines ++ o.error.toList).find? readsAsError

end Outcome

/-- The line that tells of a failure once the arguments are accepted. -/
def failureLine (message : String) : String := firstLine ("Error: " ++ message)

/-- The line that tells of a fault in the arguments. -/
def argumentLine (e : ArgumentError) : String := firstLine ("error: " ++ e.message)

/-- The pages that answer calls for help.  The arguments say what help is about, and the values of
the environment are shown beside the options that they stand in for. -/
abbrev HelpPage := List String → Environment → String

def HelpPage.blank : HelpPage := fun _ _ => ""

def refuse (page : String) (fs : FileSystem) : Refusal → Outcome
  | .error e => ⟨2, "", some (argumentLine e), [], fs⟩
  | .help => ⟨0, page, none, [], fs⟩

/-- What comes of a text that is no filter.  Where a part of it is cut, the command breaks off
without a word on its error line. -/
def refuseFilter (fs : FileSystem) (text : String) : Log.FilterError → Outcome
  | .malformed =>
    ⟨1, "", some (failureLine ("invalid log filter \x60" ++ text ++ "\x60")), [], fs⟩
  | .cut => ⟨101, "", none, [], fs⟩

/-- Carries out a request, with what the filter lets pass for a log. -/
def carryOut (f : Log.Filter) (s : Strictness) (q : Request) (input : List UInt8)
    (fs : FileSystem) : Outcome :=
  let done := q.perform s input fs
  let log := Log.Filter.lines f (Log.starting s :: done.records)
  match done.failure with
  | none => ⟨0, done.stdout, none, log, done.files⟩
  | some message => ⟨1, done.stdout, some (failureLine message), log, done.files⟩

def run (args : List String) (env : Environment) (input : List UInt8) (fs : FileSystem)
    (help : HelpPage := .blank) : Outcome :=
  match interpret args env with
  | .error r => refuse (help args env) fs r
  | .ok (settings, request) =>
    match Log.Filter.parse settings.log with
    | .error e => refuseFilter fs settings.log e
    | .ok f => carryOut f settings.strictness request input fs

end Paging.Command
