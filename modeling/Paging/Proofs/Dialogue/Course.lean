import Mathlib.Algebra.Ring.Parity
import Mathlib.Data.Nat.Find
import Paging.Proofs.Dialogue.Play
import Paging.Proofs.Text.Lines
import Paging.Proofs.Text.Trim
import Paging.Proofs.Text.Utf8

/-!
# The course of a session

The lines of an input answer the questions one by one, every other of them as an action.  The
session goes on up to the first line that ends it or is no text, or to the end of the lines
(`exists_course`).  What it does at one read is told by `script_of_goesOn`, and what it does up to
any read by `script_of_forall_goesOn`.
-/

namespace Paging.Dialogue

open Text

/-! ### Lines as replies -/

/-- The line is a text, and what lies between the white space around it is the reply. -/
def Says (line : List UInt8) (reply : String) : Prop :=
  ∃ t, Utf8.encode t = line ∧ IsTrimOf reply.toList t.toList

def reply? (line : List UInt8) : Option String := (Utf8.decode? line).map trimmed

theorem isTrimOf_toList_iff {reply t : String} :
    IsTrimOf reply.toList t.toList ↔ trimmed t = reply := by
  rw [isTrimOf_iff, trimmed, ← String.toList_inj, String.toList_ofList]

theorem reply?_eq_some_iff {line : List UInt8} {reply : String} :
    reply? line = some reply ↔ Says line reply := by
  simp only [reply?, Option.map_eq_some_iff, Utf8.decode?_eq_some_iff, Says, isTrimOf_toList_iff]

instance (line : List UInt8) (reply : String) : Decidable (Says line reply) :=
  decidable_of_iff _ reply?_eq_some_iff

def Quits (line : List UInt8) : Prop := ∃ word ∈ ["q", "quit", "exit"], Says line word

instance (line : List UInt8) : Decidable (Quits line) :=
  inferInstanceAs (Decidable (∃ word ∈ _, Says line word))

theorem Says.unique {line : List UInt8} {r r' : String} (h : Says line r) (h' : Says line r') :
    r = r' := by
  rw [← reply?_eq_some_iff] at h h'
  exact Option.some.inj (h.symm.trans h')

theorem Says.quits_iff {line : List UInt8} {reply : String} (h : Says line reply) :
    Quits line ↔ reply ∈ ["q", "quit", "exit"] :=
  ⟨fun ⟨_, hw, hs⟩ => h.unique hs ▸ hw, fun hr => ⟨reply, hr, h⟩⟩

/-! ### Questions and answers by number -/

/-- The question before the `k`-th read, counted from 0.  Every other one asks for an action, and
those between for what the line before wanted. -/
def questionAt (ls : List (List UInt8)) (k : Nat) : Question :=
  if Even k then .action else if Says (ls.getD (k - 1) []) "2" then .entry else .address

def answerAt (s : Strictness) (ls : List (List UInt8)) (k : Nat) : List Step :=
  match ls[k]?.bind reply? with
  | some reply => ((questionAt ls k).reply s reply).1
  | none => []

/-- The question, the read and the answer with the number `k`.  Past the lines nothing is read. -/
def exchange (s : Strictness) (ls : List (List UInt8)) (k : Nat) : List Step :=
  (questionAt ls k).steps ++ .read (ls.getD k []) :: answerAt s ls k

/-- The `k`-th read is the last, and ends the session this way: it meets the end of the lines, a
line that is no text or, where an action is asked for, a word that ends the dialogue. -/
inductive Stops (ls : List (List UInt8)) (k : Nat) : Ending → Prop
  | atEnd (h : k = ls.length) : Stops ls k .finished
  | notText {l : List UInt8} (hl : ls[k]? = some l) (h : ¬ Utf8.IsText l) : Stops ls k .notText
  | quit {l : List UInt8} (hl : ls[k]? = some l) (hk : Even k) (h : Quits l) : Stops ls k .finished

def GoesOn (ls : List (List UInt8)) (k : Nat) : Prop := k < ls.length ∧ ∀ e, ¬ Stops ls k e

theorem questionAt_zero (ls : List (List UInt8)) : questionAt ls 0 = .action := if_pos Even.zero

theorem questionAt_of_even {ls : List (List UInt8)} {k : Nat} (hk : Even k) :
    questionAt ls k = .action := if_pos hk

theorem questionAt_succ_of_even {ls : List (List UInt8)} {k : Nat} {l : List UInt8} (hk : Even k)
    (hl : ls[k]? = some l) :
    questionAt ls (k + 1) = if Says l "2" then .entry else .address := by
  rw [questionAt, if_neg (fun h => Nat.even_add_one.mp h hk), Nat.add_sub_cancel,
    List.getD_eq_getElem?_getD, hl, Option.getD_some]

theorem answerAt_of_says {s : Strictness} {ls : List (List UInt8)} {k : Nat} {l : List UInt8}
    {reply : String} (hl : ls[k]? = some l) (h : Says l reply) :
    answerAt s ls k = ((questionAt ls k).reply s reply).1 := by
  rw [answerAt, hl, Option.bind_some, reply?_eq_some_iff.mpr h]

theorem answerAt_of_even {s : Strictness} {ls : List (List UInt8)} {k : Nat} (hk : Even k) :
    answerAt s ls k = [] := by
  rw [answerAt]
  split
  · rw [questionAt_of_even hk, Question.reply]
    split_ifs <;> rfl
  · rfl

/-- The line of the last read has no answer. -/
theorem answerAt_of_stops {s : Strictness} {ls : List (List UInt8)} {k : Nat} {e : Ending}
    (h : Stops ls k e) : answerAt s ls k = [] := by
  cases h with
  | atEnd h =>
    rw [answerAt, h, List.getElem?_eq_none (Nat.le_refl _)]
    rfl
  | notText hl h =>
    rw [answerAt, hl, Option.bind_some, reply?, Utf8.decode?_eq_none_iff.mpr h]
    rfl
  | quit hl hk h => exact answerAt_of_even hk

/-! ### One exchange -/

theorem after_after (t : Script) (xs ys : List Step) :
    (t.after xs).after ys = t.after (ys ++ xs) := by
  rw [Script.after, Script.after, Script.after, List.append_assoc]

/-- The question that follows a reply which does not end the dialogue. -/
theorem reply_snd {s : Strictness} {ls : List (List UInt8)} {k : Nat} {l : List UInt8}
    {reply : String} (hl : ls[k]? = some l) (hr : Says l reply) (hgo : GoesOn ls k) :
    ((questionAt ls k).reply s reply).2 = some (questionAt ls (k + 1)) := by
  by_cases hk : Even k
  · have hq : reply ∉ ["q", "quit", "exit"] := fun h => hgo.2 _ (.quit hl hk (hr.quits_iff.mpr h))
    have h2 : Says l "2" ↔ reply = "2" := ⟨fun h => hr.unique h, fun h => h ▸ hr⟩
    rw [questionAt_of_even hk, questionAt_succ_of_even hk hl, Question.reply, if_neg hq]
    simp only [h2]
    split_ifs <;> rfl
  · rw [questionAt_of_even (Nat.even_add_one.mpr hk), questionAt, if_neg hk]
    split_ifs <;> rfl

/-- A line that another read follows is a text. -/
theorem GoesOn.isText {ls : List (List UInt8)} {k : Nat} (h : GoesOn ls k) {l : List UInt8}
    (hl : ls[k]? = some l) : Utf8.IsText l := by
  by_contra hnot
  exact h.2 _ (.notText hl hnot)

/-- **A read that is not the last leads to the next question**, with the lines after it left. -/
theorem script_of_goesOn {s : Strictness} {ls : List (List UInt8)} {k : Nat} (hgo : GoesOn ls k) :
    script s (questionAt ls k) (ls.drop k) =
      (script s (questionAt ls (k + 1)) (ls.drop (k + 1))).after (exchange s ls k) := by
  have hlt := hgo.1
  have hl : ls[k]? = some ls[k] := List.getElem?_eq_getElem hlt
  obtain ⟨t, ht⟩ := Utf8.isText_iff.mp (hgo.isText hl)
  have hr : Says ls[k] (trimmed t) := reply?_eq_some_iff.mp (by rw [reply?, ht]; rfl)
  have hnext := reply_snd (s := s) hl hr hgo
  rw [List.drop_eq_getElem_cons hlt, script, ht]
  simp only
  split
  · next steps he =>
    rw [he] at hnext
    cases hnext
  · next steps q' he =>
    rw [he] at hnext
    cases hnext
    rw [exchange, answerAt_of_says hl hr, he, List.getD_eq_getElem?_getD, hl]
    simp

/-- What is written past the last exchange: a line feed where the input came to its end. -/
def closing (ls : List (List UInt8)) (k : Nat) : List Step :=
  if k = ls.length then [.write "\n"] else []

theorem script_of_stops {s : Strictness} {ls : List (List UInt8)} {k : Nat} {e : Ending}
    (hstop : Stops ls k e) :
    script s (questionAt ls k) (ls.drop k) = ⟨exchange s ls k ++ closing ls k, e⟩ := by
  rw [exchange, answerAt_of_stops hstop, closing, List.getD_eq_getElem?_getD]
  cases hstop with
  | atEnd h =>
    rw [h, List.drop_length, script, if_pos rfl, List.getElem?_eq_none (Nat.le_refl _),
      List.append_assoc]
    rfl
  | @notText l hl h =>
    obtain ⟨hlt, rfl⟩ := List.getElem?_eq_some_iff.mp hl
    rw [List.drop_eq_getElem_cons hlt, script, Utf8.decode?_eq_none_iff.mpr h, hl,
      if_neg (by omega), List.append_nil]
    rfl
  | @quit l hl hk h =>
    obtain ⟨hlt, rfl⟩ := List.getElem?_eq_some_iff.mp hl
    obtain ⟨word, hword, hsays⟩ := h
    obtain ⟨t, ht, htrim⟩ := Option.map_eq_some_iff.mp (reply?_eq_some_iff.mpr hsays)
    rw [List.drop_eq_getElem_cons hlt, script, ht, questionAt_of_even hk, hl, if_neg (by omega)]
    simp only [Question.reply, htrim, if_pos hword]
    rfl

/-! ### A whole script -/

/-- **As long as reads follow, a script is the exchanges so far and the script from there.** -/
theorem script_of_forall_goesOn {s : Strictness} {ls : List (List UInt8)} {n : Nat}
    (h : ∀ k < n, GoesOn ls k) :
    script s .action ls = (script s (questionAt ls n) (ls.drop n)).after
      ((List.range n).flatMap (exchange s ls)) := by
  induction n with
  | zero =>
    rw [questionAt_zero, List.drop_zero]
    rfl
  | succ n ih =>
    rw [ih (fun k hk => h k (by omega)), script_of_goesOn (h n (by omega)), after_after,
      List.range_succ, List.flatMap_append, List.flatMap_singleton]

theorem script_of_last {s : Strictness} {ls : List (List UInt8)} {n : Nat} {e : Ending}
    (hgo : ∀ k < n, GoesOn ls k) (hstop : Stops ls n e) :
    script s .action ls = ⟨(List.range (n + 1)).flatMap (exchange s ls) ++ closing ls n, e⟩ := by
  rw [script_of_forall_goesOn hgo, script_of_stops hstop, Script.after, List.range_succ,
    List.flatMap_append, List.flatMap_singleton, List.append_assoc]

/-- Some read is the first that is the last. -/
theorem exists_last (ls : List (List UInt8)) :
    ∃ n e, Stops ls n e ∧ ∀ k < n, GoesOn ls k := by
  classical
  have hex : ∃ n, ∃ e, Stops ls n e := ⟨ls.length, .finished, .atEnd rfl⟩
  have hle : Nat.find hex ≤ ls.length := Nat.find_min' hex ⟨.finished, .atEnd rfl⟩
  obtain ⟨e, he⟩ := Nat.find_spec hex
  exact ⟨Nat.find hex, e, he, fun k hk => ⟨by omega, fun e' h => Nat.find_min hex hk ⟨e', h⟩⟩⟩

/-! ### What is read and written -/

theorem answerAt_isQuiet {s : Strictness} {ls : List (List UInt8)} {k : Nat} :
    ∀ x ∈ answerAt s ls k, x.IsQuiet := by
  rw [answerAt]
  split
  · exact isQuiet_of_mem_reply
  · simp

theorem filterMap_line?_of_quiet {xs : List Step} (h : ∀ x ∈ xs, x.IsQuiet) :
    xs.filterMap Step.line? = [] := by
  rw [List.filterMap_eq_nil_iff]
  intro x hx
  cases h x hx <;> rfl

theorem filterMap_line?_exchange (s : Strictness) (ls : List (List UInt8)) (k : Nat) :
    (exchange s ls k).filterMap Step.line? = [ls.getD k []] := by
  rw [exchange, List.filterMap_append, List.filterMap_cons,
    filterMap_line?_of_quiet answerAt_isQuiet]
  rfl

/-- The exchanges up to some number read the lines up to there. -/
theorem flatten_lines_exchanges (s : Strictness) (ls : List (List UInt8)) (n : Nat) :
    (((List.range n).flatMap (exchange s ls)).filterMap Step.line?).flatten =
      (ls.take n).flatten := by
  induction n with
  | zero => rfl
  | succ n ih =>
    rw [List.range_succ, List.flatMap_append, List.flatMap_singleton, List.filterMap_append,
      List.flatten_append, ih, filterMap_line?_exchange, List.take_add_one, List.flatten_append,
      List.getD_eq_getElem?_getD]
    cases ls[n]? <;> rfl

/-- What has been written since the last flush when the `k`-th question comes: the answer to the
line before it. -/
def heard (s : Strictness) (ls : List (List UInt8)) : Nat → List UInt8
  | 0 => []
  | k + 1 => (answerAt s ls k).flatMap Step.bytes

/-- What is written up to the flush after the `k`-th question. -/
def segmentAt (s : Strictness) (ls : List (List UInt8)) (k : Nat) : List UInt8 :=
  heard s ls k ++ Utf8.encode (questionAt ls k).text

theorem play_exchange (s : Strictness) (ls : List (List UInt8)) (k : Nat) (steps : List Step) :
    ((play none (exchange s ls k ++ steps)).write (heard s ls k)).segments =
      segmentAt s ls k :: ((play none steps).write (heard s ls (k + 1))).segments := by
  have hquiet : ∀ x ∈ answerAt s ls k, x.IsQuiet := answerAt_isQuiet
  rw [exchange, List.append_assoc, List.cons_append, Question.steps, List.cons_append,
    List.cons_append, List.nil_append, play, play, play, play_append_of_quiet hquiet,
    Played.write_write, Played.segments_flush_write]
  rfl

/-- **The segments of exchanges one after the other**, the first of which has the number `k`. -/
theorem play_exchanges (s : Strictness) (ls : List (List UInt8)) (k m : Nat) (steps : List Step) :
    ((play none ((List.range' k m).flatMap (exchange s ls) ++ steps)).write
        (heard s ls k)).segments =
      (List.range' k m).map (segmentAt s ls) ++
        ((play none steps).write (heard s ls (k + m))).segments := by
  induction m generalizing k with
  | zero => rfl
  | succ m ih =>
    rw [List.range'_succ, List.flatMap_cons, List.append_assoc, play_exchange, ih (k + 1),
      List.map_cons, List.cons_append, Nat.add_right_comm, Nat.add_assoc]

def lastSegment (ls : List (List UInt8)) (n : Nat) : List UInt8 :=
  if n = ls.length then Utf8.encode "\n" else []

theorem segments_of_last {s : Strictness} {ls : List (List UInt8)} {n : Nat} {e : Ending}
    (hstop : Stops ls n e) :
    (play none ((List.range (n + 1)).flatMap (exchange s ls) ++ closing ls n)).segments =
      (List.range (n + 1)).map (segmentAt s ls) ++ [lastSegment ls n] := by
  have hplay := play_exchanges s ls 0 (n + 1) (closing ls n)
  have hheard : heard s ls (n + 1) = [] := by rw [heard, answerAt_of_stops hstop, List.flatMap_nil]
  rw [heard, Played.write_nil (play_segments_ne_nil _), Nat.zero_add, hheard,
    Played.write_nil (play_segments_ne_nil _), ← List.range_eq_range'] at hplay
  rw [hplay, closing, lastSegment]
  split_ifs <;> rfl

/-- The session reads `n + 1` times and ends this way. -/
structure Course (s : Strictness) (input : List UInt8) (n : Nat) (e : Ending) : Prop where
  splits : SplitsInto input (lines input)
  stops : Stops (lines input) n e
  goesOn : ∀ k < n, GoesOn (lines input) k
  steps : (scriptOf s input).steps =
    (List.range (n + 1)).flatMap (exchange s (lines input)) ++ closing (lines input) n
  quiet : ∀ k, ∀ x ∈ answerAt s (lines input) k, x.IsQuiet
  segments : (session s none input).segments =
    (List.range (n + 1)).map (segmentAt s (lines input)) ++ [lastSegment (lines input) n]
  rest : (session s none input).rest = ((lines input).drop (n + 1)).flatten
  result : (session s none input).result.mapError Failure.message =
    match e with
    | .finished => .ok ()
    | .notText => .error "stream did not contain valid UTF-8"

theorem drop_flatten_take (ls : List (List UInt8)) (n : Nat) :
    ls.flatten.drop (ls.take n).flatten.length = (ls.drop n).flatten := by
  have hsplit := congrArg List.flatten (List.take_append_drop n ls)
  rw [List.flatten_append] at hsplit
  rw [← hsplit, List.drop_left]

theorem rest_of_last {s : Strictness} {input : List UInt8} {n : Nat} {e : Ending}
    (hgo : ∀ k < n, GoesOn (lines input) k) (hstop : Stops (lines input) n e) :
    (session s none input).rest = ((lines input).drop (n + 1)).flatten := by
  have hclosing : (closing (lines input) n).filterMap Step.line? = [] := by
    rw [closing]
    split_ifs <;> rfl
  rw [session_rest, scriptOf, script_of_last hgo hstop, List.filterMap_append, hclosing,
    List.append_nil, flatten_lines_exchanges, ← drop_flatten_take, flatten_lines]

section

variable {s : Strictness} {input : List UInt8} {n : Nat} {e : Ending}
  (hgo : ∀ k < n, GoesOn (lines input) k) (hstop : Stops (lines input) n e)

include hgo hstop

theorem scriptOf_of_last : scriptOf s input =
    ⟨(List.range (n + 1)).flatMap (exchange s (lines input)) ++ closing (lines input) n, e⟩ :=
  script_of_last hgo hstop

theorem result_of_last : (session s none input).result = Script.result ⟨[], e⟩ := by
  rw [session_result, scriptOf_of_last hgo hstop]
  rfl

theorem session_segments_of_last : (session s none input).segments =
    (List.range (n + 1)).map (segmentAt s (lines input)) ++ [lastSegment (lines input) n] := by
  rw [session, Script.session, scriptOf_of_last hgo hstop]
  exact segments_of_last hstop

theorem length_segments_of_last : (session s none input).segments.length = n + 2 := by
  rw [session_segments_of_last hgo hstop]
  simp

/-- One segment for each question, through the flush after it. -/
theorem segment_of_le {k : Nat} (hk : k ≤ n) :
    (session s none input).segments[k]? = some (segmentAt s (lines input) k) := by
  have hlt : k < ((List.range (n + 1)).map (segmentAt s (lines input))).length := by
    simp only [List.length_map, List.length_range]
    omega
  rw [session_segments_of_last hgo hstop, List.getElem?_append_left hlt, List.getElem?_map,
    List.getElem?_range (by omega)]
  rfl

theorem segment_last :
    (session s none input).segments[n + 1]? = some (lastSegment (lines input) n) := by
  rw [session_segments_of_last hgo hstop, List.getElem?_append_right (by simp)]
  simp

end

/-- **Every session has its course**: it asks, reads and answers by turns up to the first read that
is the last. -/
theorem exists_course (s : Strictness) (input : List UInt8) : ∃ n e, Course s input n e := by
  obtain ⟨n, e, hstop, hgo⟩ := exists_last (lines input)
  have hscript : scriptOf s input = ⟨_, e⟩ := script_of_last hgo hstop
  refine ⟨n, e, splitsInto_lines input, hstop, hgo, ?_, fun k => answerAt_isQuiet, ?_,
    rest_of_last hgo hstop, ?_⟩
  · rw [hscript]
  · rw [session, Script.session, hscript]
    exact segments_of_last hstop
  · rw [session_result, hscript]
    cases e <;> rfl

end Paging.Dialogue
