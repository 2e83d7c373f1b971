import Paging.Command.Run
import Paging.Proofs.Dialogue.Course
import Paging.Proofs.Text.Hexadecimal
import Paging.Proofs.Text.OneLine

/-!
# One question, asked in two ways

An address or an entry may be typed in the dialogue or given to a subcommand.  `Subject` tells the
two apart and `Subject.result` says what either way should come to.  Here the dialogue is followed:
of two lines it makes one round (`scriptOf_typed`), and its answer is the result
(`Subject.text_answer`), also where the two lines stand in a longer session (`segment_of_says`).
-/

namespace Paging.Dialogue

open Text

/-- What one may ask about. -/
inductive Subject
  | address
  | entry
  deriving DecidableEq, Repr

namespace Subject

def choice : Subject → String
  | address => "1"
  | entry => "2"

def question : Subject → Question
  | address => .address
  | entry => .entry

def answer (s : Strictness) : Subject → String → Answer
  | address => Answer.toAddress s
  | entry => Answer.toEntry

def report (s : Strictness) : Subject → UInt64 → Except Fault String
  | address, n => (Address.split s ⟨n⟩).map (Report.address ⟨n⟩)
  | entry, n => .ok (Report.mapping (Entry.decode ⟨n⟩))

def result (s : Strictness) (x : Subject) (t : String) : Except Fault String :=
  (parseHex t).bind (x.report s)

def typed (x : Subject) (t : String) : List UInt8 :=
  Utf8.encode (x.choice ++ "\n" ++ t ++ "\n")

end Subject

def tell : Except Fault String → String
  | .ok report => report
  | .error f => "Invalid input: " ++ f.message ++ "\n"

namespace Subject

/-- **The dialogue tells of the result.** -/
theorem text_answer (s : Strictness) (x : Subject) (t : String) :
    (x.answer s t).text = tell (x.result s t) := by
  rw [result]
  cases x with
  | address =>
    show (Answer.toAddress s t).text = _
    rw [Answer.toAddress]
    cases parseHex t with
    | error f => rfl
    | ok n =>
      dsimp only
      rw [Except.bind, report]
      cases Address.split s ⟨n⟩ <;> rfl
  | entry =>
    show (Answer.toEntry t).text = _
    rw [Answer.toEntry]
    cases parseHex t <;> rfl

/-- The dialogue trims a line and the reader of numbers trims it again, which together comes to what
the reader alone does with the text. -/
theorem result_trimmed_line (s : Strictness) (x : Subject) (t : String) :
    x.result s (trimmed (t ++ "\n")) = x.result s t := by
  have hspace : ∀ c ∈ "\n".toList, isSpace c := by
    intro c hc
    have hlf : c = '\n' := by simpa using hc
    rw [hlf]
    decide
  have hparse : parseHex (t ++ "\n") = parseHex t := by
    rw [parseHex, parseHex, String.toList_append, trim_append_of_forall_isSpace t.toList hspace]
  rw [result, result, parseHex_trimmed, hparse]

end Subject

/-! ### Reports and refusals -/

theorem head?_report_address (a : Address) (v : PageIndices) :
    (Report.address a v).toList.head? = some 'V' := by
  unfold Report.address
  simp only [String.toList_append, List.head?_append]
  rfl

theorem head?_report_mapping (m : Mapping) : (Report.mapping m).toList.head? = some 'P' := by
  unfold Report.mapping
  simp only [String.toList_append, List.head?_append]
  rfl

/-- No report reads like a refusal. -/
theorem not_prefix_report {s : Strictness} {x : Subject} {n : UInt64} {r : String}
    (h : x.report s n = .ok r) : ¬ "Invalid input: ".toList <+: r.toList := by
  rintro ⟨more, hmore⟩
  have hhead : r.toList.head? = some 'I' := by
    rw [← hmore]
    simp
  cases x with
  | address =>
    rw [Subject.report] at h
    cases hsplit : Address.split s ⟨n⟩ with
    | error f =>
      rw [hsplit] at h
      cases h
    | ok v =>
      rw [hsplit] at h
      have hr : Report.address ⟨n⟩ v = r := Except.ok.inj h
      rw [← hr, head?_report_address] at hhead
      exact absurd hhead (by decide)
  | entry =>
    rw [Subject.report] at h
    have hr : Report.mapping (Entry.decode ⟨n⟩) = r := Except.ok.inj h
    rw [← hr, head?_report_mapping] at hhead
    exact absurd hhead (by decide)

theorem prefix_tell_error (f : Fault) : "Invalid input: ".toList <+: (tell (.error f)).toList := by
  show _ <+: ("Invalid input: " ++ f.message ++ "\n").toList
  rw [String.append_assoc, String.toList_append]
  exact List.prefix_append _ _

/-- Once a text is read there is one fault left. -/
theorem eq_nonCanonical_of_report {s : Strictness} {x : Subject} {n : UInt64} {f : Fault}
    (h : x.report s n = .error f) : f = .nonCanonical := by
  cases x with
  | address =>
    rw [Subject.report, Address.split, Address.check] at h
    split_ifs at h <;> cases h
    · rfl
    · rfl
  | entry => cases h

theorem message_ne_of_ne {f : Fault} (h : f ≠ .nonCanonical) :
    f.message ≠ Fault.nonCanonical.message := by
  cases f with
  | noDigits =>
    show "no hexadecimal digits given" ≠ "non-canonical Sv39 address"
    simp
  | badDigit c =>
    show "invalid hexadecimal digit " ++ quotedChar c ≠ "non-canonical Sv39 address"
    intro he
    have hhead := congrArg (fun s => s.toList.head?) he
    simp at hhead
  | tooLarge =>
    show "value exceeds 64-bit range" ≠ "non-canonical Sv39 address"
    simp
  | nonCanonical => exact absurd rfl h

/-! ### A round -/

theorem Subject.reply_choice (s : Strictness) (x : Subject) :
    Question.action.reply s (trimmed (x.choice ++ "\n")) = ([], some x.question) := by
  cases x <;> rfl

theorem Subject.reply_question (s : Strictness) (x : Subject) (line : String) :
    x.question.reply s line = ((x.answer s line).steps, some .action) := by
  cases x <;> rfl

theorem lines_typed (x : Subject) {t : String} (ht : IsOneLine t) :
    lines (x.typed t) = [Utf8.encode (x.choice ++ "\n"), Utf8.encode (t ++ "\n")] := by
  have hchoice : IsOneLine x.choice := by cases x <;> decide
  have hsplit : x.typed t = Utf8.encode (x.choice ++ "\n") ++ (Utf8.encode (t ++ "\n") ++ []) := by
    rw [Subject.typed, String.append_assoc, Utf8.encode_append, List.append_nil]
  rw [hsplit, lines_append hchoice.isFullLine_encode, lines_append ht.isFullLine_encode]
  rfl

/-- **Two lines are one round**, and then the input is at its end. -/
theorem scriptOf_typed (s : Strictness) (x : Subject) {t : String} (ht : IsOneLine t) :
    scriptOf s (x.typed t) =
      ⟨Question.action.steps ++ .read (Utf8.encode (x.choice ++ "\n")) ::
        (x.question.steps ++ .read (Utf8.encode (t ++ "\n")) ::
          ((x.answer s (trimmed (t ++ "\n"))).steps ++
            (Question.action.steps ++ [.read [], .write "\n"]))), .finished⟩ := by
  rw [scriptOf, lines_typed x ht]
  simp only [x.reply_choice, script, Utf8.decode?_encode, x.reply_question, Script.after]
  simp

theorem Answer.flatMap_bytes_steps (a : Answer) :
    a.steps.flatMap Step.bytes = Utf8.encode a.text := by
  rw [Answer.steps, List.flatMap_append, List.flatMap_map]
  simp [Step.bytes]

/-- What is written between the flushes of a round. -/
theorem segments_typed (s : Strictness) (x : Subject) {t : String} (ht : IsOneLine t) :
    (session s none (x.typed t)).segments =
      [Utf8.encode Question.action.text, Utf8.encode x.question.text,
        Utf8.encode (tell (x.result s t)) ++ Utf8.encode Question.action.text,
        Utf8.encode "\n"] := by
  have hquiet := Answer.isQuiet_of_mem_steps (a := x.answer s (trimmed (t ++ "\n")))
  rw [session, Script.session, scriptOf_typed s x ht, ← x.result_trimmed_line, ← x.text_answer,
    ← Answer.flatMap_bytes_steps]
  simp only [Question.steps, List.cons_append, List.nil_append, play, play_append_of_quiet hquiet,
    Played.write_write]
  simp [Played.read, Played.flush, Played.write]

theorem text_typed (s : Strictness) (x : Subject) {t : String} (ht : IsOneLine t) :
    (scriptOf s (x.typed t)).text =
      Question.action.text ++ x.question.text ++ tell (x.result s t) ++ Question.action.text
        ++ "\n" := by
  rw [scriptOf_typed s x ht, ← x.result_trimmed_line, ← x.text_answer]
  simp [Script.text, Question.steps, Answer.steps, String.append_assoc]

/-! ### In any session -/

section

variable {ls : List (List UInt8)} {k : Nat} {l : List UInt8} {reply : String}

/-- Every other question is about one of the two. -/
theorem exists_subject (hk : ¬ Even k) : ∃ x : Subject, questionAt ls k = x.question := by
  rw [questionAt, if_neg hk]
  split_ifs
  · exact ⟨.entry, rfl⟩
  · exact ⟨.address, rfl⟩

theorem Subject.question_ne_action (x : Subject) : x.question ≠ .action := by cases x <;> decide

/-- A text that answers such a question is never the last line that is read. -/
theorem not_stops_of_says {e : Ending} (hk : ¬ Even k) (hl : ls[k]? = some l)
    (hreply : Says l reply) : ¬ Stops ls k e := by
  intro hstop
  cases hstop with
  | atEnd hend =>
    rw [hend, List.getElem?_eq_none (Nat.le_refl _)] at hl
    cases hl
  | notText hl' hnot =>
    cases hl.symm.trans hl'
    obtain ⟨t, ht, _⟩ := hreply
    exact hnot ⟨t, ht⟩
  | quit _ hk' _ => exact hk hk'

/-- **What is heard of a line is its result.** -/
theorem heard_of_says (s : Strictness) {x : Subject} (hq : questionAt ls k = x.question)
    (hl : ls[k]? = some l) (hreply : Says l reply) :
    heard s ls (k + 1) = Utf8.encode (tell (x.result s reply)) := by
  rw [heard, answerAt_of_says hl hreply, hq, x.reply_question, ← x.text_answer]
  exact Answer.flatMap_bytes_steps _

end

/-- **Each line that is about an address or an entry has its own answer**, which is written ahead of
the next question. -/
theorem segment_of_says {s : Strictness} {input : List UInt8} {k : Nat} {x : Subject}
    {l : List UInt8} {reply : String} (hk : k + 1 < (session s none input).segments.length)
    (hq : questionAt (lines input) k = x.question) (hl : (lines input)[k]? = some l)
    (hreply : Says l reply) :
    (session s none input).segments[k + 1]? =
      some (Utf8.encode (tell (x.result s reply)) ++ Utf8.encode Question.action.text) := by
  obtain ⟨n, e, hstop, hgo⟩ := exists_last (lines input)
  have hodd : ¬ Even k := by
    intro heven
    rw [questionAt_of_even heven] at hq
    exact x.question_ne_action hq.symm
  have hne : k ≠ n := by
    rintro rfl
    exact not_stops_of_says hodd hl hreply hstop
  rw [length_segments_of_last hgo hstop] at hk
  rw [segment_of_le hgo hstop (by omega), segmentAt, heard_of_says s hq hl hreply,
    questionAt_of_even (Nat.even_add_one.mpr hodd)]

end Paging.Dialogue
