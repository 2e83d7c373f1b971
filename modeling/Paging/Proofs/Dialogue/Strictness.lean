import Paging.Proofs.Address.Gap
import Paging.Proofs.Dialogue.Subject

/-!
# One session under both checks

How far addresses are checked changes no question and no read.  It changes the answer to a line only
where an address in the gap between the checks is given (`answerAt_oneSided`), so two sessions on
the same input go on side by side and differ in those answers alone.
-/

namespace Paging.Dialogue

open Text

/-- The `k`-th line is given where an address is asked for, and is read as `a`. -/
def GivesAddress (ls : List (List UInt8)) (k : Nat) (a : Address) : Prop :=
  questionAt ls k = .address ∧
    ∃ l reply, ls[k]? = some l ∧ Says l reply ∧ parseHex reply = .ok a.bits

/-! ### One answer -/

/-- **Outside the gap an address has one answer**, however far it is checked. -/
theorem toAddress_oneSided {reply : String}
    (h : ∀ a : Address, parseHex reply = .ok a.bits → ¬ a.InGap) :
    Answer.toAddress .oneSided reply = Answer.toAddress .strict reply := by
  rw [Answer.toAddress, Answer.toAddress]
  cases hparse : parseHex reply with
  | error f => rfl
  | ok n =>
    have hout : ¬ (⟨n⟩ : Address).InGap := h ⟨n⟩ hparse
    simp only [Address.split_oneSided, if_neg hout]

/-- An address that the strict check accepts is told as it is, under both checks. -/
theorem toAddress_of_split_strict {reply : String} {a : Address} {v : PageIndices}
    (hparse : parseHex reply = .ok a.bits) (hsplit : a.split .strict = .ok v) :
    Answer.toAddress .oneSided reply = Answer.toAddress .strict reply ∧
      (Answer.toAddress .strict reply).text = Report.address a v := by
  constructor
  · apply toAddress_oneSided
    intro b hb hgap
    have hab : b = a := by
      obtain ⟨x⟩ := a
      obtain ⟨y⟩ := b
      exact congrArg Address.mk (Except.ok.inj (hb.symm.trans hparse))
    rw [hab] at hgap
    cases hgap.split_strict.symm.trans hsplit
  · rw [Answer.toAddress, hparse]
    simp only [hsplit]

theorem answerAt_oneSided {ls : List (List UInt8)} {k : Nat}
    (h : ∀ a, GivesAddress ls k a → ¬ a.InGap) :
    answerAt .oneSided ls k = answerAt .strict ls k := by
  rw [answerAt, answerAt]
  cases hreply : ls[k]?.bind reply? with
  | none => rfl
  | some reply =>
    obtain ⟨l, hl, hsays⟩ := Option.bind_eq_some_iff.mp hreply
    cases hq : questionAt ls k with
    | action => rfl
    | entry => rfl
    | address =>
      show (Answer.toAddress .oneSided reply).steps = (Answer.toAddress .strict reply).steps
      rw [toAddress_oneSided]
      intro a ha
      exact h a ⟨hq, l, reply, hl, reply?_eq_some_iff.mp hsays, ha⟩

/-! ### Two sessions -/

/-- What is answered to an address is what its check comes to. -/
theorem segment_of_givesAddress {s : Strictness} {input : List UInt8} {k : Nat} {a : Address}
    (hk : k + 1 < (session s none input).segments.length)
    (h : GivesAddress (lines input) k a) :
    (session s none input).segments[k + 1]? =
      some (Utf8.encode (tell (Subject.address.report s a.bits)) ++
        Utf8.encode Question.action.text) := by
  obtain ⟨hq, l, reply, hl, hsays, hparse⟩ := h
  have hresult : Subject.address.result s reply = Subject.address.report s a.bits := by
    rw [Subject.result, hparse]
    rfl
  rw [← hresult]
  exact segment_of_says hk hq hl hsays

/-- **Sessions under the two checks differ in the answers to addresses in the gap alone.**  They
read the same, end the same way and write as many segments.  A segment that is not the answer to
such an address is the same in both; an answer to one is a refusal under the strict check and a
report, with the indices of the low 39 bits, under the other.  What the strict check accepts has the
same answer under both. -/
theorem sessions_differ_in_gap (input : List UInt8) :
    (session .oneSided none input).rest = (session .strict none input).rest ∧
    (session .oneSided none input).result = (session .strict none input).result ∧
    let ls := lines input
    let wide := (session .oneSided none input).segments
    let narrow := (session .strict none input).segments
    wide.length = narrow.length ∧
    wide[0]? = narrow[0]? ∧
    (∀ k, (∀ a, GivesAddress ls k a → ¬ a.InGap) → wide[k + 1]? = narrow[k + 1]?) ∧
    (∀ k a, k + 1 < wide.length → GivesAddress ls k a → a.InGap →
      narrow[k + 1]? = some (Utf8.encode "Invalid input: non-canonical Sv39 address\n" ++
        Utf8.encode Question.action.text) ∧
      wide[k + 1]? = some (Utf8.encode (Report.address a a.low.indices) ++
        Utf8.encode Question.action.text)) ∧
    ∀ reply (a : Address) v, parseHex reply = .ok a.bits → a.split .strict = .ok v →
      Answer.toAddress .oneSided reply = Answer.toAddress .strict reply ∧
        (Answer.toAddress .strict reply).text = Report.address a v := by
  obtain ⟨n, e, hstop, hgo⟩ := exists_last (lines input)
  refine ⟨?_, ?_, ?_⟩
  · exact (rest_of_last hgo hstop).trans (rest_of_last hgo hstop).symm
  · exact (result_of_last hgo hstop).trans (result_of_last hgo hstop).symm
  intro ls wide narrow
  have hlength : wide.length = n + 2 := length_segments_of_last hgo hstop
  have hlength' : narrow.length = n + 2 := length_segments_of_last hgo hstop
  refine ⟨hlength.trans hlength'.symm, ?_, ?_, ?_, ?_⟩
  · have hzero : segmentAt .oneSided ls 0 = segmentAt .strict ls 0 := rfl
    rw [segment_of_le hgo hstop (Nat.zero_le n), segment_of_le hgo hstop (Nat.zero_le n), hzero]
  · intro k hout
    rcases Nat.lt_trichotomy k n with hlt | rfl | hgt
    · rw [segment_of_le hgo hstop hlt, segment_of_le hgo hstop hlt, segmentAt, segmentAt, heard,
        heard, answerAt_oneSided hout]
    · rw [segment_last hgo hstop, segment_last hgo hstop]
    · rw [List.getElem?_eq_none (by omega), List.getElem?_eq_none (by omega)]
  · intro k a hk hgives hgap
    have hk' : k + 1 < narrow.length := by omega
    have hwide : a.split .oneSided = .ok a.low.indices := by
      rw [Address.split_oneSided, if_pos hgap, Address.indices_low]
    rw [segment_of_givesAddress hk hgives, segment_of_givesAddress hk' hgives, Subject.report,
      Subject.report, hgap.split_strict, hwide]
    exact ⟨rfl, rfl⟩
  · intro reply a v hparse hsplit
    exact toAddress_of_split_strict hparse hsplit

/-- The smallest address in the gap. -/
theorem sessions_differ_at_low_gap :
    let input := Utf8.encode "1\n0x8000000000\n"
    let a : Address := ⟨0x8000000000⟩
    GivesAddress (lines input) 1 a ∧ a.InGap ∧
    (session .strict none input).segments[2]? =
      some (Utf8.encode "Invalid input: non-canonical Sv39 address\n" ++
        Utf8.encode Question.action.text) ∧
    (session .oneSided none input).segments[2]? =
      some (Utf8.encode (Report.address a a.low.indices) ++ Utf8.encode Question.action.text) := by
  intro input a
  have hgives : GivesAddress (lines input) 1 a := by
    refine ⟨by decide +kernel, Utf8.encode "0x8000000000\n", "0x8000000000", ?_, ?_, ?_⟩
    · decide +kernel
    · decide +kernel
    · decide +kernel
  have hgap : a.InGap := by decide +kernel
  obtain ⟨_, _, _, _, _, hanswers, _⟩ := sessions_differ_in_gap input
  exact ⟨hgives, hgap, hanswers 1 a (by decide +kernel) hgives hgap⟩

end Paging.Dialogue
