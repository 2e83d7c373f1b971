import Paging.Proofs.Command.Call
import Paging.Proofs.Command.ErrorLine

/-!
# The dialogue and the subcommands agree

In the dialogue a text is a line, and a fault is part of the answer.  On the command line it is an
argument, and a fault of the text ends the command before it has begun, one of the address while it
runs.  Both ways come to the same result (`Subject.result`), so the answer is what the command
prints, or tells of the fault that the command tells of (`dialogue_agrees_with_subcommand`).
-/

namespace Paging.Command

open Text
open Dialogue (Question Subject session tell)

/-! ### What a request comes to -/

def recordsOf : Subject → UInt64 → List Log.Record
  | .address, n => Log.ofCheck ⟨n⟩
  | .entry, _ => []

/-- **A request prints the report or fails with the fault.** -/
theorem perform_request (s : Strictness) (x : Subject) (n : UInt64) (input : List UInt8)
    (fs : FileSystem) :
    (x.request n).perform s input fs =
      match x.report s n with
      | .ok r => ⟨r, none, recordsOf x n, fs⟩
      | .error f => ⟨"", some f.message, recordsOf x n, fs⟩ := by
  cases x with
  | address =>
    show checkAddress s ⟨n⟩ fs = _
    rw [checkAddress, Subject.report]
    cases Address.split s ⟨n⟩ <;> rfl
  | entry =>
    rw [Subject.report]
    show (⟨Report.mapping (Entry.decode ⟨n⟩) ++ "", none, [], fs⟩ : Effect) = _
    rw [String.append_empty]
    rfl

theorem isOneLine_of_mem_records (s : Strictness) (x : Subject) (n : UInt64) :
    ∀ r ∈ Log.starting s :: recordsOf x n, IsOneLine r.line := by
  intro r hr
  rcases List.mem_cons.mp hr with rfl | hr
  · exact Log.isOneLine_starting s
  · cases x with
    | address => exact Log.isOneLine_of_mem_ofCheck ⟨n⟩ r hr
    | entry => exact absurd hr List.not_mem_nil

section

variable {f : Log.Filter} {s : Strictness} {x : Subject} {n : UInt64} (input : List UInt8)
  (fs : FileSystem)

theorem carryOut_of_report_ok {r : String} (h : x.report s n = .ok r) :
    (carryOut f s (x.request n) input fs).code = 0 ∧
      (carryOut f s (x.request n) input fs).stdout = r := by
  rw [carryOut, perform_request, h]
  exact ⟨rfl, rfl⟩

theorem carryOut_of_report_error {fault : Fault} (h : x.report s n = .error fault) :
    (carryOut f s (x.request n) input fs).code = 1 ∧
      (carryOut f s (x.request n) input fs).stdout = "" ∧
      (carryOut f s (x.request n) input fs).errorLine? = some ("Error: " ++ fault.message) := by
  rw [carryOut, perform_request, h]
  have hlog := Log.isOneLine_of_mem_lines (f := f) (isOneLine_of_mem_records s x n)
  exact ⟨rfl, rfl, errorLine?_eq_some hlog (Or.inr rfl) (isOneLine_message fault) rfl⟩

end

theorem stdout_carryOut (f : Log.Filter) (s : Strictness) (q : Request) (input : List UInt8)
    (fs : FileSystem) : (carryOut f s q input fs).stdout = (q.perform s input fs).stdout := by
  rw [carryOut]
  split <;> rfl

/-- A text that is refused is told with the error, in the line that tells of it. -/
theorem errorLine?_refuse (page : String) (fs : FileSystem) {t : String} (ht : IsOneLine t)
    (p : Parameter) (fault : Fault) :
    (refuse page fs (.error (.invalidValue t p fault.message))).errorLine? =
      some ("error: " ++ (ArgumentError.invalidValue t p fault.message).message) := by
  have hshown : IsOneLine p.shown := by cases p <;> decide
  have hvalue :
      IsOneLine ("invalid value '" ++ Terminal.plain t ++ "' for '" ++ p.shown ++ "': ") :=
    (((IsOneLine.append (by decide) ht.plain).append (by decide)).append hshown).append (by decide)
  refine errorLine?_eq_some ?_ (Or.inl rfl) (hvalue.append (isOneLine_message fault)) rfl
  intro line hline
  exact absurd hline List.not_mem_nil

/-! ### Runs -/

section

variable {env : Environment} {b : Bool} (henv : env.asksStrict = .ok b) {f : Log.Filter}
  (hf : Log.Filter.parse (env.log.getD Settings.standard.log) = .ok f)

include henv hf

theorem run_subject (before after : Bool) (x : Subject) (t : String) (input : List UInt8)
    (fs : FileSystem) (help : HelpPage) :
    let args := callWords before after x.subcommand ++ ["--", t]
    run args env input fs help =
      match parseHex t with
      | .error fault =>
        refuse (help args env) fs (.error (.invalidValue t x.parameter fault.message))
      | .ok n =>
        carryOut f (if before || after || b then .strict else .oneSided) (x.request n) input
          fs := by
  intro args
  rw [run, interpret_subject henv, Given.number]
  cases parseHex t with
  | error fault => rfl
  | ok n =>
    dsimp only [Except.map]
    rw [hf]
    rfl

theorem stdout_run_dialogue (before after : Bool) (input : List UInt8) (fs : FileSystem)
    (help : HelpPage) :
    (run (callWords before after .dialogue) env input fs help).stdout =
      (Dialogue.scriptOf (if before || after || b then .strict else .oneSided) input).text := by
  rw [run, interpret_dialogue henv]
  dsimp only
  rw [hf]
  show (carryOut f _ .dialogue input fs).stdout = _
  rw [stdout_carryOut]
  rfl

end

/-! ### Agreement -/

/-- What the dialogue answers and what a command leaves behind tell the same. -/
structure Agrees (answer : String) (o : Outcome) : Prop where
  code_eq_zero_iff : o.code = 0 ↔ ¬ "Invalid input: ".toList <+: answer.toList
  stdout_eq : o.code = 0 → o.stdout = answer
  refused : o.code ≠ 0 → ∃ m head,
    answer = "Invalid input: " ++ m ++ "\n" ∧ o.stdout = "" ∧ o.errorLine? = some (head ++ m) ∧
      o.code = if m = Fault.nonCanonical.message then 1 else 2

theorem agrees_of_ok {r : String} {o : Outcome} (hr : ¬ "Invalid input: ".toList <+: r.toList)
    (hcode : o.code = 0) (hout : o.stdout = r) : Agrees (tell (.ok r)) o where
  code_eq_zero_iff := iff_of_true hcode hr
  stdout_eq := fun _ => hout
  refused := fun h => absurd hcode h

theorem agrees_of_error {fault : Fault} {head : String} {o : Outcome}
    (hcode : o.code = if fault = .nonCanonical then 1 else 2) (hout : o.stdout = "")
    (hline : o.errorLine? = some (head ++ fault.message)) : Agrees (tell (.error fault)) o := by
  have hne : o.code ≠ 0 := by
    rw [hcode]
    split_ifs <;> decide
  have hcode' : o.code = if fault.message = Fault.nonCanonical.message then 1 else 2 := by
    rw [hcode]
    by_cases hfault : fault = .nonCanonical
    · rw [if_pos hfault, if_pos (congrArg Fault.message hfault)]
    · rw [if_neg hfault, if_neg (Dialogue.message_ne_of_ne hfault)]
  refine ⟨iff_of_false hne (not_not_intro (Dialogue.prefix_tell_error fault)),
    fun h => absurd h hne, fun _ => ?_⟩
  exact ⟨fault.message, head, rfl, hout, hline, hcode'⟩

theorem agrees_refuse (page : String) (fs : FileSystem) {t : String} (ht : IsOneLine t)
    (p : Parameter)
    {fault : Fault} (hfault : fault ≠ .nonCanonical) :
    Agrees (tell (.error fault)) (refuse page fs (.error (.invalidValue t p fault.message))) := by
  have hline : (refuse page fs (.error (.invalidValue t p fault.message))).errorLine? =
      some ("error: " ++ ("invalid value '" ++ Terminal.plain t ++ "' for '" ++ p.shown ++ "': ")
        ++ fault.message) := by
    rw [errorLine?_refuse page fs ht, String.append_assoc]
    rfl
  exact agrees_of_error (if_neg hfault).symm rfl hline

theorem agrees_carryOut (f : Log.Filter) (s : Strictness) (x : Subject) (n : UInt64)
    (input : List UInt8) (fs : FileSystem) :
    Agrees (tell (x.report s n)) (carryOut f s (x.request n) input fs) := by
  cases hreport : x.report s n with
  | error fault =>
    obtain ⟨hcode, hout, hline⟩ := carryOut_of_report_error (f := f) input fs hreport
    refine agrees_of_error ?_ hout hline
    rw [hcode, Dialogue.eq_nonCanonical_of_report hreport, if_pos rfl]
  | ok r =>
    obtain ⟨hcode, hout⟩ := carryOut_of_report_ok (f := f) input fs hreport
    exact agrees_of_ok (Dialogue.not_prefix_report hreport) hcode hout

/-- **The dialogue and the subcommands agree**, whatever text they are asked about and however the
strict check is asked for.  A text that is no number is refused among the arguments. -/
theorem dialogue_agrees_with_subcommand (x : Subject) (before after : Bool) {env : Environment}
    {b : Bool} (henv : env.asksStrict = .ok b) {f : Log.Filter}
    (hf : Log.Filter.parse (env.log.getD Settings.standard.log) = .ok f) {t : String}
    (ht : IsOneLine t) (input : List UInt8) (fs : FileSystem) (help : HelpPage) :
    let s : Strictness := if before || after || b then .strict else .oneSided
    let dialogue := run (callWords before after .dialogue) env (x.typed t) fs help
    let once := run (callWords before after x.subcommand ++ ["--", t]) env input fs help
    ∃ answer : String,
      dialogue.stdout =
        Question.action.text ++ x.question.text ++ answer ++ Question.action.text ++ "\n" ∧
      (session s none (x.typed t)).segments =
        [Utf8.encode Question.action.text, Utf8.encode x.question.text,
          Utf8.encode answer ++ Utf8.encode Question.action.text, Utf8.encode "\n"] ∧
      Agrees answer once ∧
      ∀ fault, parseHex t = .error fault →
        once.code = 2 ∧ answer = "Invalid input: " ++ fault.message ++ "\n" ∧
          once.errorLine? =
            some ("error: " ++
              (ArgumentError.invalidValue t x.parameter fault.message).message) := by
  intro s dialogue once
  have hdialogue : dialogue.stdout = _ :=
    stdout_run_dialogue henv hf before after (x.typed t) fs help
  have honce : once = _ := run_subject henv hf before after x t input fs help
  refine ⟨tell (x.result s t), ?_, Dialogue.segments_typed s x ht, ?_⟩
  · rw [hdialogue]
    exact Dialogue.text_typed s x ht
  rw [honce, Subject.result]
  cases hparse : parseHex t with
  | error fault =>
    have hfault : fault ≠ .nonCanonical := by
      rintro rfl
      exact parseHex_ne_nonCanonical t hparse
    refine ⟨agrees_refuse _ fs ht x.parameter hfault, fun fault' h => ?_⟩
    have hsame : fault = fault' := Except.error.inj h
    rw [← hsame]
    exact ⟨rfl, rfl, errorLine?_refuse _ fs ht x.parameter fault⟩
  | ok n =>
    refine ⟨agrees_carryOut f s x n input fs, ?_⟩
    intro fault h
    cases h

/-- The upper bits of this address are no copies of bit 38, and each way tells so in its own. -/
theorem dialogue_agrees_on_uncopied_sign :
    Environment.asksStrict ⟨none, none⟩ = .ok false ∧
    Log.Filter.parse Settings.standard.log = .ok [⟨none, none, none, 2⟩] ∧
    IsOneLine "0x4000000000" ∧
    ∃ answer : String,
      (run (callWords false true .dialogue) ⟨none, none⟩ (Subject.address.typed "0x4000000000")
          (.empty [0x77])).stdout =
        Question.action.text ++ Question.address.text ++ answer ++ Question.action.text ++ "\n" ∧
      Agrees answer
        (run (callWords false true .address ++ ["--", "0x4000000000"]) ⟨none, none⟩ []
          (.empty [0x77])) := by
  have henv : Environment.asksStrict ⟨none, none⟩ = .ok false := rfl
  have hf : Log.Filter.parse Settings.standard.log = .ok [⟨none, none, none, 2⟩] := by rfl
  have ht : IsOneLine "0x4000000000" := by decide
  obtain ⟨answer, hstdout, _, hagrees, _⟩ :=
    dialogue_agrees_with_subcommand .address false true henv hf ht [] (.empty [0x77]) .blank
  exact ⟨henv, hf, ht, answer, hstdout, hagrees⟩

end Paging.Command
