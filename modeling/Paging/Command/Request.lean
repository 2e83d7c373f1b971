import Paging.Command.Reading
import Paging.Diagnostic

/-!
# Requests

What a command line and the environment ask for: an operation, and the settings for it.  The words
after the subcommand are dealt with to the end before those ahead of it.

What is given at one level and what at the other or in the environment goes together as clap 4
documents it for global arguments with a variable.  Variables that are not UTF-8 are left out.
-/

namespace Paging.Command

/-! ## Settings -/

structure Settings where
  /-- The text of the log filter. -/
  log : String
  strict : Bool
  deriving DecidableEq, Repr

namespace Settings

def standard : Settings := ⟨"warn", false⟩

def strictness (s : Settings) : Strictness := if s.strict then .strict else .oneSided

def diagnostic (s : Settings) : String :=
  Diagnostic.record "Config"
    [("log", Text.quotedText s.log), ("strict", Diagnostic.bool s.strict)]

end Settings

/-- The variables of the environment that hold settings. -/
structure Environment where
  log : Option String
  strict : Option String
  deriving DecidableEq, Repr

/-- The truth value that a word spells, in any case. -/
def truthOf? (word : String) : Option Bool :=
  let w := String.ofList (word.toList.map Char.toLower)
  if w ∈ ["y", "yes", "t", "true", "on", "1"] then some true
  else if w ∈ ["n", "no", "f", "false", "off", "0"] then some false
  else none

/-- Whether the environment asks for the strict check. -/
def Environment.asksStrict (env : Environment) : Except Refusal Bool :=
  match env.strict with
  | none => .ok false
  | some v =>
    match truthOf? v with
    | some b => .ok b
    | none => .error (.error (.invalidValue v .strict "value was not a boolean"))

/-! ## Requests -/

inductive Request
  | address (a : Address)
  | entry (e : Entry) (verbose : Bool)
  | dialogue
  | pack (dir out : String)
  deriving DecidableEq, Repr

/-- What is asked of a subcommand. -/
def requestOf (g : Given) : Subcommand → Except Refusal Request
  | .address =>
    match g.operand with
    | some n => .ok (.address ⟨n⟩)
    | none => .error (.error .missingOperand)
  | .entry =>
    match g.operand with
    | some n => .ok (.entry ⟨n⟩ g.verbose)
    | none => .error (.error .missingOperand)
  | .dialogue => .ok .dialogue
  | .pack => .ok (.pack (g.dir.getD "./user/target/stripped/") (g.out.getD "os/link_app.S"))

/-- Ends the reading of a level.  The environment is looked at where the level does not have the
flag itself. -/
def finish (env : Environment) (r : Reading) : Except Refusal Given :=
  r.settle.bind fun r =>
    if r.given.strict then .ok r.given
    else env.asksStrict.map fun _ => r.given

/-- The settings from what was given ahead of the subcommand, after it and in the environment.  An
argument outweighs the environment, and the one after the subcommand the one ahead of it. -/
def settings (env : Environment) (before after : Given) : Settings :=
  { log := ((after.log.or before.log).or env.log).getD Settings.standard.log
    strict := before.strict || after.strict || (env.asksStrict.toOption.getD false) }

/-- Reads the words after a subcommand. -/
def subcommandRequest (env : Environment) (c : Subcommand) (words : List String) :
    Except Refusal (Given × Request) :=
  (Reading.all (some c) words (.start (some c))).bind fun r =>
    (finish env r).bind fun g => (requestOf g c).map fun q => (g, q)

/-- What arguments and environment ask for.  No subcommand means the dialogue. -/
def interpret (args : List String) (env : Environment) : Except Refusal (Settings × Request) :=
  (Reading.upToSubcommand args (.start none)).bind fun (r, sub) =>
    match sub with
    | none => (finish env r).map fun g => (settings env g .nothing, .dialogue)
    | some (c, words) =>
      (subcommandRequest env c words).bind fun (g, q) =>
        (finish env r).map fun g' => (settings env g' g, q)

end Paging.Command
