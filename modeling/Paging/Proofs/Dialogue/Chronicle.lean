import Paging.Proofs.Address.Gap
import Paging.Proofs.Command.Stages

/-!
# The record of a session

What a session puts on record and what it shows are written by different parts of the dialogue.
They are told together here, line by line.  A line that is about an address or an entry has one
record of its outcome, and that goes with the answer (`exists_outcome`).  The record of a whole
session is what its lines have on record, one after the other (`records_of_last`), and no other line
has any.
-/

namespace Paging.Log

def rejection (line message : String) : Record :=
  ⟨.info, .dialogue, "rejected input", [("input", Text.quotedText line), ("error", message)]⟩

def signSet (n : UInt64) : Record :=
  ⟨.debug, .address, "bit 38 set in 0x" ++ Text.hexLower n.toNat ++ ", checking bits 63:39", []⟩

theorem rejection_inj {line m m' : String} : rejection line m = rejection line m' ↔ m = m' :=
  ⟨fun h => by simpa [rejection] using h, fun h => by rw [h]⟩

theorem ofCheck_eq (n : UInt64) :
    ofCheck ⟨n⟩ = if n.toNat.testBit 38 then [signSet n] else [] := by
  rw [ofCheck, Address.signBit_eq_testBit]
  rfl

/-- The records that a dialogue can make, and the one ahead of it. -/
inductive OfDialogue : Record → Prop
  | starting (s : Strictness) : OfDialogue (starting s)
  | checking (a : Address) : OfDialogue (checking a)
  | decomposed (a : Address) (v : PageIndices) : OfDialogue (decomposed a v)
  | decoded (e : Entry) : OfDialogue (decoded e)
  | rejected (line : String) (f : Fault) : OfDialogue (rejected line f)

theorem OfDialogue.rank_le {r : Record} (h : OfDialogue r) : r.level.rank ≤ Level.debug.rank := by
  cases h with
  | starting | checking | decomposed | decoded => exact Nat.le_refl _
  | rejected => exact Nat.le_succ _

/-- A filter that is a level lets pass what matters enough. -/
theorem Filter.allows_level {r : Record} {limit : Nat} (h : r.level.rank ≤ limit) :
    Filter.allows [⟨none, none, none, limit⟩] r = true :=
  decide_eq_true h

theorem Filter.lines_of_forall_allows {f : Filter} {rs : List Record}
    (h : ∀ r ∈ rs, f.allows r = true) : f.lines rs = rs.map Record.line := by
  rw [Filter.lines, List.filter_eq_self.mpr h]

end Paging.Log

namespace Paging.Dialogue

open Text

/-! ### One line -/

/-- What is on record about a text ahead of its outcome: that the address it spells has bit 38 set
and so is looked at further. -/
def checkRecords : Subject → String → List Log.Record
  | .address, reply =>
    match parseHex reply with
    | .ok n => if n.toNat.testBit 38 then [Log.signSet n] else []
    | .error _ => []
  | .entry, _ => []

def Subject.told : Subject → UInt64 → Log.Record
  | address, n => Log.decomposed ⟨n⟩ (Address.indices ⟨n⟩)
  | entry, n => Log.decoded ⟨n⟩

/-- A record goes with the answer to a reply: it tells of a refusal, with the same message, just if
the answer does, and else of the number on which the answer reports. -/
structure GoesWith (s : Strictness) (x : Subject) (reply answer : String) (r : Log.Record) :
    Prop where
  rejection_iff : ∀ m, r = Log.rejection reply m ↔ answer = "Invalid input: " ++ m ++ "\n"
  told : (¬ ∃ m, answer = "Invalid input: " ++ m ++ "\n") →
    ∃ n, parseHex reply = .ok n ∧ x.report s n = .ok answer ∧ r = x.told n

theorem tell_error_inj {f : Fault} {m : String} :
    tell (.error f) = "Invalid input: " ++ m ++ "\n" ↔ f.message = m := by
  have htell : tell (.error f) = "Invalid input: " ++ f.message ++ "\n" := rfl
  rw [htell, String.append_left_inj, String.append_right_inj]

theorem goesWith_rejection (s : Strictness) (x : Subject) (reply : String) (f : Fault) :
    GoesWith s x reply (tell (.error f)) (Log.rejected reply f) where
  rejection_iff m := by
    rw [tell_error_inj]
    exact Log.rejection_inj
  told h := absurd ⟨f.message, rfl⟩ h

theorem goesWith_told {s : Strictness} {x : Subject} {reply answer : String} {n : UInt64}
    (hparse : parseHex reply = .ok n) (hreport : x.report s n = .ok answer) :
    GoesWith s x reply answer (x.told n) where
  rejection_iff m := by
    refine iff_of_false ?_ ?_
    · cases x <;> simp [Subject.told, Log.decomposed, Log.decoded, Log.rejection]
    · rintro rfl
      refine not_prefix_report hreport ?_
      rw [String.append_assoc, String.toList_append]
      exact List.prefix_append _ _
  told _ := ⟨n, hparse, hreport, rfl⟩

/-- **Every text about an address or an entry has one outcome on record**, which goes with the
answer.  Ahead of it there is at most the record of the check. -/
theorem exists_outcome (s : Strictness) (x : Subject) (reply : String) :
    ∃ r, (x.answer s reply).records = checkRecords x reply ++ [r] ∧
      GoesWith s x reply (tell (x.result s reply)) r := by
  rw [Subject.result]
  cases hparse : parseHex reply with
  | error f =>
    refine ⟨Log.rejected reply f, ?_, goesWith_rejection s x reply f⟩
    cases x with
    | address =>
      show (Answer.toAddress s reply).records = _
      rw [Answer.toAddress, checkRecords, hparse]
      rfl
    | entry =>
      show (Answer.toEntry reply).records = _
      rw [Answer.toEntry, hparse]
      rfl
  | ok n =>
    cases x with
    | address =>
      show ∃ r, (Answer.toAddress s reply).records = _ ∧
        GoesWith s .address reply (tell (Subject.address.report s n)) r
      rw [Answer.toAddress, checkRecords, hparse]
      dsimp only
      rw [← Log.ofCheck_eq, Subject.report]
      cases hsplit : Address.split s ⟨n⟩ with
      | error f => exact ⟨Log.rejected reply f, rfl, goesWith_rejection s .address reply f⟩
      | ok v =>
        have hv : v = Address.indices ⟨n⟩ := Address.eq_indices_of_split hsplit
        refine ⟨Log.decomposed ⟨n⟩ v, rfl, ?_⟩
        rw [hv]
        refine goesWith_told hparse ?_
        rw [Subject.report, hsplit, hv]
        rfl
    | entry =>
      refine ⟨Log.decoded ⟨n⟩, ?_, goesWith_told hparse rfl⟩
      show (Answer.toEntry reply).records = _
      rw [Answer.toEntry, hparse]
      rfl

theorem ofDialogue_of_mem_answer {s : Strictness} {x : Subject} {reply : String} {r : Log.Record}
    (h : r ∈ (x.answer s reply).records) : Log.OfDialogue r := by
  have hcheck {a : Address} (h : r ∈ Log.ofCheck a) : Log.OfDialogue r := by
    rw [Log.ofCheck] at h
    split at h
    · obtain rfl := List.mem_singleton.mp h
      exact .checking a
    · exact absurd h List.not_mem_nil
  cases x with
  | address =>
    have h : r ∈ (Answer.toAddress s reply).records := h
    rw [Answer.toAddress] at h
    split at h
    · obtain rfl := List.mem_singleton.mp h
      exact .rejected reply _
    · dsimp only at h
      split at h
      · rcases List.mem_append.mp h with h | h
        · exact hcheck h
        · obtain rfl := List.mem_singleton.mp h
          exact .rejected reply _
      · rcases List.mem_append.mp h with h | h
        · exact hcheck h
        · obtain rfl := List.mem_singleton.mp h
          exact .decomposed _ _
  | entry =>
    have h : r ∈ (Answer.toEntry reply).records := h
    rw [Answer.toEntry] at h
    split at h
    · obtain rfl := List.mem_singleton.mp h
      exact .rejected reply _
    · obtain rfl := List.mem_singleton.mp h
      exact .decoded _

/-! ### A whole session -/

def Step.record? : Step → Option Log.Record
  | .note r => some r
  | _ => none

theorem Script.records_eq (t : Script) : t.records = t.steps.filterMap Step.record? := by
  rw [Script.records]
  rfl

def recordsAt (s : Strictness) (ls : List (List UInt8)) (k : Nat) : List Log.Record :=
  (answerAt s ls k).filterMap Step.record?

theorem Answer.filterMap_record?_steps (a : Answer) :
    a.steps.filterMap Step.record? = a.records := by
  rw [Answer.steps, List.filterMap_append, List.filterMap_map]
  have hnote : Step.record? ∘ Step.note = some := rfl
  rw [hnote, List.filterMap_some]
  exact List.append_nil _

/-- Questions make no record, so an exchange has those of its answer. -/
theorem filterMap_record?_exchange (s : Strictness) (ls : List (List UInt8)) (k : Nat) :
    (exchange s ls k).filterMap Step.record? = recordsAt s ls k := by
  rw [exchange, List.filterMap_append, List.filterMap_cons]
  rfl

section

variable {s : Strictness} {ls : List (List UInt8)} {k : Nat}

/-- A line that names an action has nothing on record. -/
theorem recordsAt_of_even (hk : Even k) : recordsAt s ls k = [] := by
  rw [recordsAt, answerAt_of_even hk]
  rfl

/-- Nor has the end of the lines or a line that is no text. -/
theorem recordsAt_of_stops {e : Ending} (h : Stops ls k e) : recordsAt s ls k = [] := by
  rw [recordsAt, answerAt_of_stops h]
  rfl

theorem recordsAt_of_reply {x : Subject} {l : List UInt8} {reply : String}
    (hq : questionAt ls k = x.question) (hl : ls[k]? = some l) (hreply : Says l reply) :
    recordsAt s ls k = (x.answer s reply).records := by
  rw [recordsAt, answerAt_of_says hl hreply, hq, x.reply_question]
  exact Answer.filterMap_record?_steps _

end

theorem ofDialogue_of_mem_recordsAt {s : Strictness} {ls : List (List UInt8)} {k : Nat}
    {r : Log.Record} (h : r ∈ recordsAt s ls k) : Log.OfDialogue r := by
  rw [recordsAt, answerAt] at h
  split at h
  · next reply _ =>
    cases hq : questionAt ls k with
    | action =>
      rw [hq, Question.reply] at h
      split_ifs at h <;> exact absurd h List.not_mem_nil
    | address =>
      rw [hq, Question.reply, Answer.filterMap_record?_steps] at h
      exact ofDialogue_of_mem_answer (x := .address) h
    | entry =>
      rw [hq, Question.reply, Answer.filterMap_record?_steps] at h
      exact ofDialogue_of_mem_answer (s := s) (x := .entry) h
  · exact absurd h List.not_mem_nil

/-- **The record of a session is what its reads have on record**, one after the other. -/
theorem records_of_last (s : Strictness) {input : List UInt8} {n : Nat} {e : Ending}
    (hgo : ∀ k < n, GoesOn (lines input) k) (hstop : Stops (lines input) n e) :
    (scriptOf s input).records = (List.range (n + 1)).flatMap (recordsAt s (lines input)) := by
  have hclosing : (closing (lines input) n).filterMap Step.record? = [] := by
    rw [closing]
    split_ifs <;> rfl
  rw [Script.records_eq, scriptOf_of_last hgo hstop, List.filterMap_append, hclosing,
    List.append_nil, List.filterMap_flatMap]
  simp only [filterMap_record?_exchange]

/-- A line that another read follows is a reply. -/
theorem GoesOn.exists_reply {ls : List (List UInt8)} {k : Nat} (h : GoesOn ls k) :
    ∃ l reply, ls[k]? = some l ∧ Says l reply := by
  obtain ⟨l, hl⟩ : ∃ l, ls[k]? = some l := ⟨_, List.getElem?_eq_getElem h.1⟩
  obtain ⟨t, ht⟩ := Utf8.isText_iff.mp (h.isText hl)
  exact ⟨l, trimmed t, hl, reply?_eq_some_iff.mp (by rw [reply?, ht]; rfl)⟩

end Paging.Dialogue

namespace Paging.Command

open Text Dialogue

/-- **The log of a dialogue tells what its transcript shows.**  Behind the record that it starts, a
filter that lets every record of a dialogue pass shows what each read has on record.  Each line that
is about an address or an entry has the record of its check, if there is one, and then one outcome,
which goes with the answer written ahead of the next question.  No other read has anything on
record. -/
theorem log_tells_transcript {args : List String} {env : Environment} {settings : Settings}
    {f : Log.Filter} (hcall : interpret args env = .ok (settings, .dialogue))
    (hf : Log.Filter.parse settings.log = .ok f)
    (hall : ∀ r, Log.OfDialogue r → f.allows r = true) (input : List UInt8) (fs : FileSystem)
    (help : HelpPage) :
    let s := settings.strictness
    let ls := lines input
    let o := run args env input fs help
    ∃ n e, Course s input n e ∧
      Utf8.encode o.stdout = (session s none input).written ∧
      o.log = (Log.starting s :: (List.range (n + 1)).flatMap (recordsAt s ls)).map
        Log.Record.line ∧
      (∀ k ≤ n, Even k ∨ k = n → recordsAt s ls k = []) ∧
      ∀ k < n, ¬ Even k → ∃ x l reply answer outcome,
        questionAt ls k = x.question ∧ ls[k]? = some l ∧ Says l reply ∧
        (session s none input).segments[k + 1]? =
          some (Utf8.encode answer ++ Utf8.encode Question.action.text) ∧
        recordsAt s ls k = checkRecords x reply ++ [outcome] ∧
        GoesWith s x reply answer outcome := by
  intro s ls o
  obtain ⟨n, e, hcourse⟩ := exists_course s input
  have hstop := hcourse.stops
  have hgo := hcourse.goesOn
  have ho : o = carryOut f s .dialogue input fs := run_of_accepted input fs help hcall hf
  have hstdout : o.stdout = (scriptOf s input).text := by
    rw [ho, carryOut]
    split <;> rfl
  have hlog : o.log = f.lines (Log.starting s :: (scriptOf s input).records) := by
    rw [ho, carryOut]
    split <;> rfl
  refine ⟨n, e, hcourse, ?_, ?_, ?_, ?_⟩
  · rw [hstdout, Script.encode_text, session_written]
  · rw [hlog, records_of_last s hgo hstop]
    refine Log.Filter.lines_of_forall_allows fun r hr => hall r ?_
    rcases List.mem_cons.mp hr with rfl | hr
    · exact .starting s
    · obtain ⟨k, _, hk⟩ := List.mem_flatMap.mp hr
      exact ofDialogue_of_mem_recordsAt hk
  · rintro k - (heven | rfl)
    · exact recordsAt_of_even heven
    · exact recordsAt_of_stops hstop
  · intro k hk hodd
    obtain ⟨x, hq⟩ : ∃ x : Subject, questionAt ls k = x.question := exists_subject hodd
    obtain ⟨l, reply, hl, hreply⟩ := (hgo k hk).exists_reply
    obtain ⟨r, hrecords, hgoes⟩ := exists_outcome s x reply
    have hlength : (session s none input).segments.length = n + 2 :=
      length_segments_of_last hgo hstop
    refine ⟨x, l, reply, _, r, hq, hl, hreply, segment_of_says (by omega) hq hl hreply, ?_, hgoes⟩
    rw [recordsAt_of_reply hq hl hreply, hrecords]

/-- An address that is looked at further and then refused, an entry, and a line that is no text. -/
theorem log_tells_refused_sign :
    let env : Environment := ⟨some "debug", none⟩
    let input := Utf8.encode "1\n4000000000\n2\nff\n1\n" ++ [0xFF]
    interpret ["shell"] env = .ok (⟨"debug", false⟩, .dialogue) ∧
    Log.Filter.parse "debug" = .ok [⟨none, none, none, Log.Level.debug.rank⟩] ∧
    (∀ r, Log.OfDialogue r →
      Log.Filter.allows [⟨none, none, none, Log.Level.debug.rank⟩] r = true) ∧
    ∃ n e, Course .oneSided input n e ∧
      (run ["shell"] env input (.empty [])).log =
        (Log.starting .oneSided :: (List.range (n + 1)).flatMap
          (recordsAt .oneSided (lines input))).map Log.Record.line ∧
      recordsAt .oneSided (lines input) 1 =
        [Log.signSet 0x4000000000, Log.rejection "4000000000" "non-canonical Sv39 address"] ∧
      recordsAt .oneSided (lines input) 5 = [] := by
  intro env input
  have hcall : interpret ["shell"] env = .ok (⟨"debug", false⟩, .dialogue) := by rfl
  have hf : Log.Filter.parse "debug" = .ok [⟨none, none, none, Log.Level.debug.rank⟩] := by rfl
  have hall (r : Log.Record) (hr : Log.OfDialogue r) :
      Log.Filter.allows [⟨none, none, none, Log.Level.debug.rank⟩] r = true :=
    Log.Filter.allows_level hr.rank_le
  obtain ⟨n, e, hcourse, _, hlog, _⟩ :=
    log_tells_transcript hcall hf hall input (.empty []) .blank
  exact ⟨hcall, hf, hall, n, e, hcourse, hlog, by decide +kernel, by decide +kernel⟩

end Paging.Command
