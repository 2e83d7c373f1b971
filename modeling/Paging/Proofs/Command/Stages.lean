import Paging.Proofs.AppTable.Pack
import Paging.Proofs.Command.Acceptance
import Paging.Proofs.Dialogue.Output
import Paging.Command.Run

/-!
# The stages of a run

A run fails at the arguments, at the log filter or in its operation, and the first stage that fails
keeps the later ones from leaving anything behind.  What an operation comes to is told by what the
library does, without the run (`Request.ComesTo`), and a run that gets that far comes to the same
(`comesTo_perform`, `run_in_stages`).
-/

namespace Paging.Command

open Text
open Dialogue (session)

/-! ### Operations -/

/-- What an operation comes to: what it fails with if it does, the bytes that it writes to the
output and the files after it. -/
inductive Request.ComesTo (s : Strictness) (input : List UInt8) (fs : FileSystem) :
    Request → Option String → List UInt8 → FileSystem → Prop
  | split {a : Address} {v : PageIndices} (h : a.split s = .ok v) :
    ComesTo s input fs (.address a) none (Utf8.encode (Report.address a v)) fs
  | refused {a : Address} {f : Fault} (h : a.split s = .error f) :
    ComesTo s input fs (.address a) (some f.message) [] fs
  | explained (e : Entry) (verbose : Bool) :
    ComesTo s input fs (.entry e verbose) none
      (Utf8.encode (Report.mapping e.decode ++ if verbose then Report.details e else "")) fs
  | finished (h : (session s none input).result = .ok ()) :
    ComesTo s input fs .dialogue none (session s none input).written fs
  | brokenOff {f : Dialogue.Failure} (h : (session s none input).result = .error f) :
    ComesTo s input fs .dialogue (some f.message) (session s none input).written fs
  | packed {dir out : String} {fs' : FileSystem} (h : AppTable.pack fs dir out = .ok fs') :
    ComesTo s input fs (.pack dir out) none [] fs'
  | unpacked {dir out : String} {e : AppTable.PackError} (h : AppTable.pack fs dir out = .error e) :
    ComesTo s input fs (.pack dir out) (some e.message) [] fs

namespace Request

variable {s : Strictness} {input : List UInt8} {fs : FileSystem}

/-- An operation comes to one thing only. -/
theorem ComesTo.unique {q : Request} {failure failure' : Option String} {out out' : List UInt8}
    {fs₁ fs₂ : FileSystem} (h : q.ComesTo s input fs failure out fs₁)
    (h' : q.ComesTo s input fs failure' out' fs₂) :
    failure = failure' ∧ out = out' ∧ fs₁ = fs₂ := by
  cases h <;> cases h' <;> simp_all

end Request

theorem comesTo_address (s : Strictness) (input : List UInt8) (fs : FileSystem) (a : Address) :
    let done := checkAddress s a fs
    Request.ComesTo s input fs (.address a) done.failure (Utf8.encode done.stdout) done.files := by
  rw [checkAddress]
  cases h : a.split s with
  | ok v => exact .split h
  | error f => exact .refused h

theorem comesTo_dialogue (s : Strictness) (input : List UInt8) (fs : FileSystem) :
    let done := converse s input fs
    Request.ComesTo s input fs .dialogue done.failure (Utf8.encode done.stdout) done.files := by
  have hwritten : Utf8.encode (Dialogue.scriptOf s input).text =
      (session s none input).written := by
    rw [Dialogue.Script.encode_text, Dialogue.session_written]
  have hresult := Dialogue.session_result s input
  rw [converse]
  dsimp only
  rw [hwritten]
  cases h : (Dialogue.scriptOf s input).result with
  | ok _ => exact .finished (hresult.trans h)
  | error f => exact .brokenOff (hresult.trans h)

theorem comesTo_pack (s : Strictness) (input : List UInt8) (fs : FileSystem) (dir out : String) :
    let done := packApps dir out fs
    Request.ComesTo s input fs (.pack dir out) done.failure (Utf8.encode done.stdout)
      done.files := by
  let records := AppTable.packRecords fs dir out
  cases h : AppTable.packing (Utf8.encode dir) (Utf8.encode out) fs with
  | ok apps fs' =>
    have hdone : packApps dir out fs = ⟨"", none, records, fs'⟩ := by
      delta packApps
      rw [h]
    have hpack : AppTable.pack fs dir out = .ok fs' := by
      delta AppTable.pack
      rw [h]
    rw [hdone]
    exact .packed hpack
  | error e fs' =>
    have hdone : packApps dir out fs = ⟨"", some e.message, records, fs'⟩ := by
      delta packApps
      rw [h]
    have hpack : AppTable.pack fs dir out = .error e := by
      delta AppTable.pack
      rw [h]
    obtain ⟨rfl, -⟩ := AppTable.packing_eq_error_iff.mp h
    rw [hdone]
    exact .unpacked hpack

/-- **A request is performed as the library performs it.** -/
theorem comesTo_perform (s : Strictness) (q : Request) (input : List UInt8) (fs : FileSystem) :
    let done := q.perform s input fs
    q.ComesTo s input fs done.failure (Utf8.encode done.stdout) done.files := by
  cases q with
  | address a => exact comesTo_address s input fs a
  | entry e verbose => exact .explained e verbose
  | dialogue => exact comesTo_dialogue s input fs
  | pack dir out => exact comesTo_pack s input fs dir out

/-! ### Runs -/

structure LeavesNothing (fs : FileSystem) (o : Outcome) : Prop where
  stdout : o.stdout = ""
  log : o.log = []
  files : o.files = fs

/-- A page of help is shown, and nothing else is left behind. -/
structure ShowsHelp (page : String) (fs : FileSystem) (o : Outcome) : Prop where
  code : o.code = 0
  stdout : o.stdout = page
  error : o.error = none
  log : o.log = []
  files : o.files = fs

/-- The run is refused for a fault in the arguments, with nothing left behind. -/
structure RefusedWithError (fs : FileSystem) (o : Outcome) : Prop where
  code : o.code = 2
  nothing : LeavesNothing fs o
  error : ∃ e, o.error = some (argumentLine e)

theorem leavesNothing_refuse (page : String) (fs : FileSystem) (e : ArgumentError) :
    LeavesNothing fs (refuse page fs (.error e)) :=
  ⟨rfl, rfl, rfl⟩

section

variable {args : List String} {env : Environment} (input : List UInt8) (fs : FileSystem)
  (help : HelpPage)

theorem run_of_refusal {r : Refusal} (h : interpret args env = .error r) :
    run args env input fs help = refuse (help args env) fs r := by
  rw [run, h]

theorem showsHelp_of_interpret (h : interpret args env = .error .help) :
    ShowsHelp (help args env) fs (run args env input fs help) := by
  rw [run_of_refusal input fs help h]
  exact ⟨rfl, rfl, rfl, rfl, rfl⟩

theorem refusedWithError_of_interpret {e : ArgumentError}
    (h : interpret args env = .error (.error e)) :
    RefusedWithError fs (run args env input fs help) := by
  rw [run_of_refusal input fs help h]
  exact ⟨rfl, leavesNothing_refuse _ fs e, e, rfl⟩

theorem run_of_filterError {s : Settings} {q : Request} (h : interpret args env = .ok (s, q))
    {e : Log.FilterError} (he : Log.Filter.parse s.log = .error e) :
    run args env input fs help = refuseFilter fs s.log e := by
  rw [run, h]
  dsimp only
  rw [he]

theorem run_of_accepted {s : Settings} {q : Request} (h : interpret args env = .ok (s, q))
    {f : Log.Filter} (hf : Log.Filter.parse s.log = .ok f) :
    run args env input fs help = carryOut f s.strictness q input fs := by
  rw [run, h]
  dsimp only
  rw [hf]

end

theorem comesTo_carryOut (f : Log.Filter) (s : Strictness) (q : Request) (input : List UInt8)
    (fs : FileSystem) :
    let o := carryOut f s q input fs
    ∃ failure, q.ComesTo s input fs failure (Utf8.encode o.stdout) o.files ∧
      o.code = (if failure.isSome then 1 else 0) ∧ o.error = failure.map failureLine := by
  have hdone := comesTo_perform s q input fs
  refine ⟨(q.perform s input fs).failure, ?_⟩
  rw [carryOut]
  cases hfailure : (q.perform s input fs).failure with
  | none =>
    dsimp only at hdone ⊢
    rw [hfailure] at hdone
    exact ⟨hdone, rfl, rfl⟩
  | some m =>
    dsimp only at hdone ⊢
    rw [hfailure] at hdone
    exact ⟨hdone, rfl, rfl⟩

/-- **A run ends at the first stage that fails.**  Arguments that ask for help are answered with a
page of it.  Others that are not accepted are answered with status 2, and no filter is looked at.  A
filter that is none is answered with status 1, unless a part of it is cut.  Past that the operation
decides. -/
theorem run_in_stages (args : List String) (env : Environment) (input : List UInt8)
    (fs : FileSystem) (help : HelpPage) :
    let o := run args env input fs help
    (¬ Accepted args env ∧
      ((interpret args env = .error .help ∧ ShowsHelp (help args env) fs o) ∨
        ∃ e, interpret args env = .error (.error e) ∧ LeavesNothing fs o ∧ o.code = 2 ∧
          o.error = some (argumentLine e))) ∨
    Accepted args env ∧ ∃ s q, interpret args env = .ok (s, q) ∧
      match Log.Filter.parse s.log with
      | .error .malformed => LeavesNothing fs o ∧ o.code = 1 ∧
        o.error = some (failureLine ("invalid log filter \x60" ++ s.log ++ "\x60"))
      | .error .cut => LeavesNothing fs o ∧ o.code = 101 ∧ o.error = none
      | .ok _ => ∃ failure, q.ComesTo s.strictness input fs failure (Utf8.encode o.stdout) o.files ∧
        o.code = (if failure.isSome then 1 else 0) ∧ o.error = failure.map failureLine := by
  intro o
  have haccepted := exists_interpret_iff args env
  cases h : interpret args env with
  | error r =>
    have hnot : ¬ Accepted args env := by
      rw [← haccepted, h]
      rintro ⟨x, hx⟩
      cases hx
    refine Or.inl ⟨hnot, ?_⟩
    cases r with
    | help => exact Or.inl ⟨rfl, showsHelp_of_interpret input fs help h⟩
    | error e =>
      have ho : o = refuse (help args env) fs (.error e) := run_of_refusal input fs help h
      rw [ho]
      exact Or.inr ⟨e, rfl, leavesNothing_refuse _ fs e, rfl, rfl⟩
  | ok x =>
    obtain ⟨s, q⟩ := x
    refine Or.inr ⟨haccepted.mp ⟨_, h⟩, s, q, rfl, ?_⟩
    cases hfilter : Log.Filter.parse s.log with
    | error e =>
      have ho : o = refuseFilter fs s.log e := run_of_filterError input fs help h hfilter
      rw [ho]
      cases e with
      | malformed => exact ⟨⟨rfl, rfl, rfl⟩, rfl, rfl⟩
      | cut => exact ⟨⟨rfl, rfl, rfl⟩, rfl, rfl⟩
    | ok f =>
      have ho : o = carryOut f s.strictness q input fs := run_of_accepted input fs help h hfilter
      rw [ho]
      exact comesTo_carryOut f s.strictness q input fs

/-- The filter of these arguments is not told to be none: the run breaks off without a word. -/
theorem run_with_cut_filter :
    Accepted ["--log=\u2003[é]=debug", "vaddr", "1000"] ⟨none, none⟩ ∧
    Log.Filter.parse "\u2003[é]=debug" = .error .cut ∧
    (run ["--log=\u2003[é]=debug", "vaddr", "1000"] ⟨none, none⟩ [] (.empty [])).code = 101 ∧
    (run ["--log=\u2003[é]=debug", "vaddr", "1000"] ⟨none, none⟩ [] (.empty [])).error = none := by
  have hinterpret : interpret ["--log=\u2003[é]=debug", "vaddr", "1000"] ⟨none, none⟩ =
      .ok (⟨"\u2003[é]=debug", false⟩, .address ⟨0x1000⟩) := by decide +kernel
  have hfilter : Log.Filter.parse "\u2003[é]=debug" = .error .cut := by rfl
  have hrun := run_of_filterError [] (.empty []) .blank hinterpret hfilter
  refine ⟨(exists_interpret_iff _ _).mp ⟨_, hinterpret⟩, hfilter, ?_⟩
  rw [hrun]
  exact ⟨rfl, rfl⟩

end Paging.Command
