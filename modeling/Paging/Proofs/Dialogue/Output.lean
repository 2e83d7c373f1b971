import Paging.Proofs.Dialogue.Cut
import Paging.Proofs.Dialogue.Subject
import Paging.Proofs.Text.Control

/-!
# What a session shows

A session shows no control characters but those that break its lines, and it answers in whole lines:
five on an address, one on an entry and one on a refusal (`answers_tell`).  The input comes back in
one place, as the character that a refusal is about, and there it stands quoted
(`noControl_message`).  No reply makes the dialogue write anything else (`showsOnlyBreaks_reply`),
so no run of it does (`showsOnlyBreaks_script`).
-/

namespace Paging.Dialogue

open Text

/-! ### The lines of an answer -/

theorem isLines_field {name : String} (hname : NoControl name) (width : Nat) (n : UInt16) :
    IsLines 1 (Report.field name width n) := by
  have hclosing : ")\n" = ")" ++ "\n" := rfl
  rw [Report.field, hclosing, ← String.append_assoc]
  apply IsLines.one
  have hdecimal := (hname.append (t := ": ") (by decide)).append (noControl_decimal n.toNat)
  have hbinary :=
    (hdecimal.append (t := " (0b") (by decide)).append (noControl_binary width n.toNat)
  exact hbinary.append (by decide)

theorem isLines_address (a : Address) (v : PageIndices) : IsLines 5 (Report.address a v) := by
  have hbits : NoControl ("Virtual Address: 0x" ++ hexUpper a.bits.toNat) :=
    NoControl.append (by decide) (noControl_hexUpper _)
  have hvpn2 : IsLines 1 (Report.field "VPN[2]" 9 v.vpn2) := isLines_field (by decide) 9 v.vpn2
  have hvpn1 : IsLines 1 (Report.field "VPN[1]" 9 v.vpn1) := isLines_field (by decide) 9 v.vpn1
  have hvpn0 : IsLines 1 (Report.field "VPN[0]" 9 v.vpn0) := isLines_field (by decide) 9 v.vpn0
  have hoffset : IsLines 1 (Report.field "Page Offset" 12 v.offset) :=
    isLines_field (by decide) 12 v.offset
  unfold Report.address
  exact ((((IsLines.one hbits).append hvpn2).append hvpn1).append hvpn0).append hoffset

theorem isLine_mapping (m : Mapping) : IsLine "Phys Addr: 0x" (Report.mapping m) := by
  have hline : NoControl ("Phys Addr: 0x" ++ hexUpper m.physical.toNat ++ ", " ++ m.flags.text) :=
    ((NoControl.append (by decide) (noControl_hexUpper _)).append (by decide)).append
      (noControl_flags _)
  unfold Report.mapping
  constructor
  · exact IsLines.one hline
  · rw [String.append_assoc, String.append_assoc, String.append_assoc, String.toList_append]
    exact List.prefix_append _ _

/-- A refusal is one line, also where the line that is refused would move the cursor. -/
theorem isLine_refusal (f : Fault) : IsLine "Invalid input: " (tell (.error f)) where
  lines := IsLines.one (NoControl.append (by decide) (noControl_message f))
  starts := prefix_tell_error f

inductive Answers : Subject → Except Fault String → String → Prop
  | address {r : String} (h : IsLines 5 r) : Answers .address (.ok r) r
  | entry {r : String} (h : IsLine "Phys Addr: 0x" r) : Answers .entry (.ok r) r
  | refusal {x : Subject} {f : Fault} {t : String} (h : IsLine "Invalid input: " t) :
      Answers x (.error f) t

theorem Answers.onlyBreaks {x : Subject} {r : Except Fault String} {t : String}
    (h : Answers x r t) : OnlyBreaks t := by
  cases h with
  | address h => exact h.onlyBreaks
  | entry h => exact h.lines.onlyBreaks
  | refusal h => exact h.lines.onlyBreaks

theorem answers_report {s : Strictness} {x : Subject} {n : UInt64} {r : String}
    (h : x.report s n = .ok r) : Answers x (.ok r) r := by
  cases x with
  | address =>
    rw [Subject.report] at h
    cases hsplit : Address.split s ⟨n⟩ with
    | error f =>
      rw [hsplit] at h
      cases h
    | ok v =>
      rw [hsplit] at h
      cases h
      exact .address (isLines_address ⟨n⟩ v)
  | entry =>
    cases h
    exact .entry (isLine_mapping _)

/-- **Every answer is told in its lines.** -/
theorem answers_tell (s : Strictness) (x : Subject) (reply : String) :
    Answers x (x.result s reply) (tell (x.result s reply)) := by
  cases hresult : x.result s reply with
  | error f => exact .refusal (isLine_refusal f)
  | ok r =>
    rw [Subject.result] at hresult
    cases hparse : parseHex reply with
    | error f =>
      rw [hparse] at hresult
      cases hresult
    | ok n =>
      rw [hparse] at hresult
      exact answers_report hresult

/-! ### A whole run -/

def ShowsOnlyBreaks (steps : List Step) : Prop := ∀ t, .write t ∈ steps → OnlyBreaks t

theorem ShowsOnlyBreaks.append {xs ys : List Step} (hx : ShowsOnlyBreaks xs)
    (hy : ShowsOnlyBreaks ys) : ShowsOnlyBreaks (xs ++ ys) := by
  intro t ht
  rcases List.mem_append.mp ht with ht | ht
  · exact hx t ht
  · exact hy t ht

theorem showsOnlyBreaks_question (q : Question) : ShowsOnlyBreaks q.steps := by
  intro t ht
  have ht' : t = q.text := by simpa [Question.steps] using ht
  rw [ht']
  cases q <;> decide +kernel

theorem showsOnlyBreaks_answer (s : Strictness) (x : Subject) (reply : String) :
    ShowsOnlyBreaks (x.answer s reply).steps := by
  intro t ht
  have ht' : t = (x.answer s reply).text := by simpa [Answer.steps] using ht
  rw [ht', x.text_answer]
  exact (answers_tell s x reply).onlyBreaks

/-- No reply makes a question's answer show more. -/
theorem showsOnlyBreaks_reply (s : Strictness) (q : Question) (reply : String) :
    ShowsOnlyBreaks (q.reply s reply).1 := by
  cases q with
  | action =>
    rw [Question.reply]
    split_ifs
    all_goals
      intro t ht
      cases ht
  | address => exact showsOnlyBreaks_answer s .address reply
  | entry => exact showsOnlyBreaks_answer s .entry reply

/-- **No run of the dialogue shows more**, whatever lines it meets. -/
theorem showsOnlyBreaks_script (s : Strictness) (q : Question) (ls : List (List UInt8)) :
    ShowsOnlyBreaks (script s q ls).steps := by
  have hasked (q : Question) (line : List UInt8) : ShowsOnlyBreaks (q.steps ++ [.read line]) := by
    apply (showsOnlyBreaks_question q).append
    intro t ht
    simp at ht
  induction ls generalizing q with
  | nil =>
    have hend : ShowsOnlyBreaks [.write "\n"] := by
      intro t ht
      cases List.mem_singleton.mp ht
      decide
    have happend := (hasked q []).append hend
    rwa [List.append_assoc] at happend
  | cons line ls ih =>
    rw [script]
    cases Utf8.decode? line with
    | none => exact hasked q line
    | some t =>
      have hreply := showsOnlyBreaks_reply s q (trimmed t)
      have hstep := (hasked q line).append hreply
      dsimp only
      split
      · next steps he =>
        rw [he] at hstep
        exact hstep
      · next steps q' he =>
        rw [he] at hstep
        exact hstep.append (ih q')

/-! ### A session -/

theorem Script.encode_text (t : Script) : Utf8.encode t.text = t.steps.flatMap Step.bytes := by
  obtain ⟨steps, e⟩ := t
  induction steps with
  | nil => rfl
  | cons x steps ih =>
    cases x with
    | write text =>
      have hcons : Script.text ⟨.write text :: steps, e⟩ = text ++ Script.text ⟨steps, e⟩ :=
        String.join_cons
      rw [hcons, Utf8.encode_append, ih]
      rfl
    | flush => exact ih
    | read line => exact ih
    | note r => exact ih

theorem Script.onlyBreaks_text {t : Script} (h : ShowsOnlyBreaks t.steps) : OnlyBreaks t.text := by
  intro c hc
  rw [Script.text, String.toList_join] at hc
  obtain ⟨text, htext, hc⟩ := List.mem_flatMap.mp hc
  obtain ⟨x, hx, hsome⟩ := List.mem_filterMap.mp htext
  cases x with
  | write written =>
    cases hsome
    exact h text hx c hc
  | flush => cases hsome
  | read line => cases hsome
  | note r => cases hsome

/-- An output that takes only so much shows the beginning of what one without bound shows. -/
theorem session_written_prefix (s : Strictness) (room : Option Nat) (input : List UInt8) :
    (session s room input).written <+: (session s none input).written := by
  cases room with
  | none => exact List.prefix_rfl
  | some n =>
    have hcut : (session s (some n) input).written = _ := written_play_some _ n
    rw [hcut, session_written]
    exact List.take_prefix n _

/-- **No input makes a session show other control characters or more lines.**  All that it shows is
a text with tabulators and line feeds alone, on an output of any room a beginning of it.  Each line
that is about an address or an entry has an answer of five lines or of one, as `Answers` tells, and
after it comes the next question. -/
theorem session_onlyBreaks (s : Strictness) (input : List UInt8) :
    let ls := lines input
    let p := session s none input
    (∃ t, OnlyBreaks t ∧ p.written = Utf8.encode t ∧
      ∀ room, (session s room input).written <+: Utf8.encode t) ∧
    ∀ k l reply, ¬ Even k → ls[k]? = some l → Says l reply → k + 1 < p.segments.length →
      ∃ x t, questionAt ls k = x.question ∧ Answers x (x.result s reply) t ∧
        p.segments[k + 1]? = some (Utf8.encode t ++ Utf8.encode Question.action.text) := by
  intro ls p
  refine ⟨?_, ?_⟩
  · have hshown := showsOnlyBreaks_script s .action (lines input)
    have hwritten : p.written = Utf8.encode (scriptOf s input).text := by
      rw [Script.encode_text]
      exact session_written s input
    refine ⟨(scriptOf s input).text, Script.onlyBreaks_text hshown, hwritten, ?_⟩
    intro room
    rw [← hwritten]
    exact session_written_prefix s room input
  · intro k l reply hk hl hreply hlt
    obtain ⟨x, hq⟩ : ∃ x : Subject, questionAt ls k = x.question := exists_subject hk
    exact ⟨x, _, hq, answers_tell s x reply, segment_of_says hlt hq hl hreply⟩

/-- An escape sequence in place of an address. -/
theorem session_onlyBreaks_escape :
    let input := Utf8.encode "1\n\u001b[2J\n"
    Says (Utf8.encode "\u001b[2J\n") "\u001b[2J" ∧
    ∃ x t, x.question = .address ∧ Answers x (x.result .strict "\u001b[2J") t ∧
      (session .strict none input).segments[2]? =
        some (Utf8.encode t ++ Utf8.encode Question.action.text) := by
  intro input
  have hreply : Says (Utf8.encode "\u001b[2J\n") "\u001b[2J" := by decide +kernel
  have hasked : questionAt (lines input) 1 = .address := by decide +kernel
  obtain ⟨x, t, hq, hanswer⟩ := (session_onlyBreaks .strict input).2 1 _ _ (by decide)
    (by decide +kernel) hreply (by decide +kernel)
  exact ⟨hreply, x, t, hq.symm.trans hasked, hanswer⟩

end Paging.Dialogue
