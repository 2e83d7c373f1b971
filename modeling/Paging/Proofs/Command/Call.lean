import Paging.Command.Request
import Paging.Proofs.Dialogue.Subject

/-!
# Calls of a subcommand

The words of a call are a subcommand with the flag for the strict check ahead of it or after it,
and maybe a text that stands for itself.  Here they are read to the end: a call asks for what the
subcommand is for (`interpret_dialogue`, `interpret_subject`), and the check is strict if any flag
or the environment says so.
-/

namespace Paging.Dialogue.Subject

open Command

def subcommand : Subject → Subcommand
  | address => .address
  | entry => .entry

def parameter : Subject → Parameter
  | address => .address
  | entry => .entry

def request : Subject → UInt64 → Request
  | address, n => .address ⟨n⟩
  | entry, n => .entry ⟨n⟩ false

end Paging.Dialogue.Subject

namespace Paging.Command

open Dialogue (Subject)

/-! ### Words -/

def strictWords (flag : Bool) : List String := if flag then ["--strict"] else []

/-- A subcommand with the flag for the strict check ahead of it, after it or both. -/
def callWords (before after : Bool) (c : Subcommand) : List String :=
  strictWords before ++ c.name :: strictWords after

def Given.onlyStrict (flag : Bool) : Given := { Given.nothing with strict := flag }

def Given.withOperand (flag : Bool) (n : UInt64) : Given :=
  { Given.onlyStrict flag with operand := some n }

theorem upToSubcommand_words (before : Bool) (c : Subcommand) (words : List String) :
    Reading.upToSubcommand (strictWords before ++ c.name :: words) (.start none) =
      .ok (⟨.onlyStrict before, none, none, false⟩, some (c, words)) := by
  cases before <;> cases c <;> rfl

/-- After two dashes any text is held as the operand, also one that begins with a dash. -/
theorem all_operand (x : Subject) (after : Bool) (t : String) :
    Reading.all (some x.subcommand) (strictWords after ++ ["--", t]) (.start (some x.subcommand)) =
      .ok ⟨.onlyStrict after, some (x.parameter, some t), none, true⟩ := by
  cases x <;> cases after <;> rfl

theorem all_dialogue (after : Bool) :
    Reading.all (some .dialogue) (strictWords after) (.start (some .dialogue)) =
      .ok ⟨.onlyStrict after, none, none, false⟩ := by
  cases after <;> rfl

/-! ### What is given -/

theorem set_operand (x : Subject) (after : Bool) (t : String) :
    (Given.onlyStrict after).set x.parameter t =
      (Given.number x.parameter t).map (Given.withOperand after) := by
  cases x <;> rfl

theorem settle_operand (x : Subject) (after : Bool) (t : String) :
    Reading.settle ⟨.onlyStrict after, some (x.parameter, some t), none, true⟩ =
      (Given.number x.parameter t).map fun n => ⟨.withOperand after n, none, none, true⟩ := by
  rw [Reading.settle]
  dsimp only
  rw [set_operand]
  cases Given.number x.parameter t <;> rfl

theorem requestOf_operand (x : Subject) (after : Bool) (n : UInt64) :
    requestOf (.withOperand after n) x.subcommand = .ok (x.request n) := by
  cases x <;> rfl

section

variable {env : Environment} {b : Bool} (henv : env.asksStrict = .ok b)

include henv

theorem settings_onlyStrict (before after : Bool) {g : Given} (hlog : g.log = none)
    (hstrict : g.strict = after) :
    settings env (.onlyStrict before) g =
      ⟨env.log.getD Settings.standard.log, before || after || b⟩ := by
  rw [settings, hlog, hstrict, henv]
  rfl

/-- In an environment that can be read no level ends with a fault of its own. -/
theorem finish_eq_settle (r : Reading) : finish env r = r.settle.map Reading.given := by
  rw [finish]
  cases r.settle with
  | error e => rfl
  | ok r =>
    show (if r.given.strict then _ else _) = _
    rw [henv]
    split <;> rfl

/-! ### What is asked -/

/-- The words after a subcommand say what is asked, and the flag ahead of it only adds to that. -/
theorem interpret_call (before : Bool) (c : Subcommand) (words : List String) :
    interpret (strictWords before ++ c.name :: words) env =
      (subcommandRequest env c words).map fun p =>
        (settings env (.onlyStrict before) p.1, p.2) := by
  rw [interpret, upToSubcommand_words]
  show (subcommandRequest env c words).bind _ = _
  cases subcommandRequest env c words with
  | error e => rfl
  | ok p =>
    show (finish env _).map _ = _
    rw [finish_eq_settle henv]
    rfl

/-- **A call with a text asks about the number that the text spells**, if it spells one. -/
theorem interpret_subject (before after : Bool) (x : Subject) (t : String) :
    interpret (callWords before after x.subcommand ++ ["--", t]) env =
      (Given.number x.parameter t).map fun n =>
        (⟨env.log.getD Settings.standard.log, before || after || b⟩, x.request n) := by
  rw [callWords, List.append_assoc, List.cons_append, interpret_call henv, subcommandRequest,
    all_operand]
  show ((finish env _).bind _).map _ = _
  rw [finish_eq_settle henv, settle_operand]
  cases Given.number x.parameter t with
  | error e => rfl
  | ok n =>
    show ((requestOf (.withOperand after n) x.subcommand).map _).map _ = _
    rw [requestOf_operand]
    show Except.ok (settings env (.onlyStrict before) (.withOperand after n), x.request n) = _
    rw [settings_onlyStrict henv before after rfl rfl]
    rfl

theorem interpret_dialogue (before after : Bool) :
    interpret (callWords before after .dialogue) env =
      .ok (⟨env.log.getD Settings.standard.log, before || after || b⟩, .dialogue) := by
  rw [callWords, interpret_call henv, subcommandRequest, all_dialogue]
  show ((finish env _).bind _).map _ = _
  rw [finish_eq_settle henv]
  show Except.ok (settings env (.onlyStrict before) (.onlyStrict after), Request.dialogue) = _
  rw [settings_onlyStrict henv before after rfl rfl]

end

end Paging.Command
