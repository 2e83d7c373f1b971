import Paging.Proofs.Dialogue.Play

/-!
# Output that runs full

An output that takes only so many bytes cuts a session off in the middle of some write, and nothing
is done after it.  The session is compared with the one on an output that takes everything.  What
that one has written and what it has left unread are told moment by moment (`moment`), one step
further each time; the cut falls between two moments, where the first byte too many is written
(`session_cut_short`).
-/

namespace Paging.Dialogue

/-! ### Steps that are played ahead of others -/

namespace Step

/-- A step played ahead of what the steps after it leave behind. -/
def ahead : Step → Played → Played
  | write text, p => p.write (Text.Utf8.encode text)
  | flush, p => p.flush
  | read line, p => p.read line
  | note _, p => p

theorem written_ahead (x : Step) (p : Played) :
    (x.ahead p).segments.flatten = x.bytes ++ p.segments.flatten := by
  cases x with
  | write text => exact p.flatten_segments_write _
  | flush => rfl
  | read line => rfl
  | note r => rfl

theorem taken_ahead (x : Step) (p : Played) :
    (x.ahead p).taken = x.line?.toList ++ p.taken := by
  cases x with
  | write text => exact p.taken_write _
  | flush => rfl
  | read line => rfl
  | note r => rfl

theorem completed_ahead (x : Step) (p : Played) : (x.ahead p).completed = p.completed := by
  cases x with
  | write text => exact p.completed_write _
  | flush => rfl
  | read line => rfl
  | note r => rfl

/-- **One step on an output that has room for it** is played as on one that takes everything, and
leaves the room that it does not need. -/
theorem play_cons_of_fits {x : Step} {room : Nat} (h : x.bytes.length ≤ room) (xs : List Step) :
    play (some room) (x :: xs) = x.ahead (play (some (room - x.bytes.length)) xs) := by
  cases x with
  | write text =>
    rw [play]
    exact if_pos h
  | flush => rfl
  | read line => rfl
  | note r => rfl

/-- A step for which there is no room is a write, of which the output takes what it can. -/
theorem play_cons_of_full {x : Step} {room : Nat} (h : room < x.bytes.length) (xs : List Step) :
    play (some room) (x :: xs) = ⟨[x.bytes.take room], [], false⟩ := by
  cases x with
  | write text =>
    rw [play]
    exact if_neg (Nat.not_le_of_lt h)
  | flush => exact absurd h (Nat.not_lt_zero room)
  | read line => exact absurd h (Nat.not_lt_zero room)
  | note r => exact absurd h (Nat.not_lt_zero room)

end Step

theorem filterMap_line?_cons (x : Step) (xs : List Step) :
    (x :: xs).filterMap Step.line? = x.line?.toList ++ xs.filterMap Step.line? := by
  cases x <;> rfl

/-- Steps played ahead of what the steps after them leave behind. -/
def ahead (xs : List Step) (p : Played) : Played := xs.foldr Step.ahead p

theorem written_ahead (xs : List Step) (p : Played) :
    (ahead xs p).segments.flatten = xs.flatMap Step.bytes ++ p.segments.flatten := by
  induction xs with
  | nil => rfl
  | cons x xs ih =>
    rw [List.flatMap_cons, List.append_assoc, ← ih]
    exact x.written_ahead _

theorem taken_ahead (xs : List Step) (p : Played) :
    (ahead xs p).taken = xs.filterMap Step.line? ++ p.taken := by
  induction xs with
  | nil => rfl
  | cons x xs ih =>
    rw [filterMap_line?_cons, List.append_assoc, ← ih]
    exact x.taken_ahead _

theorem completed_ahead (xs : List Step) (p : Played) : (ahead xs p).completed = p.completed := by
  induction xs with
  | nil => rfl
  | cons x xs ih => exact (x.completed_ahead _).trans ih

theorem play_none_eq_ahead (xs : List Step) : play none xs = ahead xs ⟨[[]], [], true⟩ := by
  induction xs with
  | nil => rfl
  | cons x xs ih =>
    show play none (x :: xs) = x.ahead (ahead xs _)
    rw [← ih]
    cases x <;> rfl

/-- **Steps for which there is room** are played as on an output that takes everything. -/
theorem play_append_of_fits {xs : List Step} {room : Nat}
    (h : (xs.flatMap Step.bytes).length ≤ room) (ys : List Step) :
    play (some room) (xs ++ ys) =
      ahead xs (play (some (room - (xs.flatMap Step.bytes).length)) ys) := by
  induction xs generalizing room with
  | nil => rfl
  | cons x xs ih =>
    rw [List.flatMap_cons, List.length_append] at h ⊢
    rw [List.cons_append, Step.play_cons_of_fits (by omega), ih (by omega), Nat.sub_sub]
    rfl

theorem play_of_fits {xs : List Step} {room : Nat} (h : (xs.flatMap Step.bytes).length ≤ room) :
    play (some room) xs = play none xs := by
  have happend := play_append_of_fits h []
  rwa [List.append_nil, play, ← play_none_eq_ahead] at happend

/-- Where more is written than there is room for, some step is the first for which there is not
enough. -/
theorem exists_first_too_long {xs : List Step} {room : Nat}
    (h : room < (xs.flatMap Step.bytes).length) :
    ∃ before x after, xs = before ++ x :: after ∧
      (before.flatMap Step.bytes).length ≤ room ∧
      room < (before.flatMap Step.bytes).length + x.bytes.length := by
  induction xs generalizing room with
  | nil => exact absurd h (Nat.not_lt_zero room)
  | cons y xs ih =>
    by_cases hy : room < y.bytes.length
    · exact ⟨[], y, xs, rfl, Nat.zero_le room, by simpa using hy⟩
    · rw [List.flatMap_cons, List.length_append] at h
      have hrest : room - y.bytes.length < (xs.flatMap Step.bytes).length := by omega
      obtain ⟨before, x, after, rfl, hle, hlt⟩ := ih hrest
      refine ⟨y :: before, x, after, rfl, ?_, ?_⟩
      · rw [List.flatMap_cons, List.length_append]
        omega
      · rw [List.flatMap_cons, List.length_append]
        omega

/-- **Steps for which there is not enough room** are played up to the first that is too long, of
which the output takes what it can. -/
theorem play_of_first_too_long {before after : List Step} {x : Step} {room : Nat}
    (hle : (before.flatMap Step.bytes).length ≤ room)
    (hlt : room < (before.flatMap Step.bytes).length + x.bytes.length) :
    play (some room) (before ++ x :: after) =
      ahead before ⟨[x.bytes.take (room - (before.flatMap Step.bytes).length)], [], false⟩ := by
  rw [play_append_of_fits hle, Step.play_cons_of_full (by omega)]

/-- What is written is cut off where there is no more room. -/
theorem written_play_some (xs : List Step) (room : Nat) :
    (play (some room) xs).segments.flatten = (xs.flatMap Step.bytes).take room := by
  by_cases h : (xs.flatMap Step.bytes).length ≤ room
  · rw [play_of_fits h, written_play, List.take_of_length_le h]
  · obtain ⟨before, x, after, rfl, hle, hlt⟩ := exists_first_too_long (Nat.lt_of_not_le h)
    rw [play_of_first_too_long hle hlt, written_ahead, List.flatMap_append, List.take_append,
      List.take_of_length_le hle, List.flatMap_cons, List.flatten_singleton,
      List.take_append_of_le_length (by omega)]

/-! ### Moments of a session -/

/-- What has been written and what is left unread on an output that takes everything. -/
structure Moment where
  written : List UInt8
  rest : List UInt8

namespace Moment

def next (m : Moment) : Step → Moment
  | .write text => { m with written := m.written ++ Text.Utf8.encode text }
  | .read line => { m with rest := m.rest.drop line.length }
  | .flush => m
  | .note _ => m

theorem foldl_next (m : Moment) (xs : List Step) :
    xs.foldl next m = ⟨m.written ++ xs.flatMap Step.bytes,
      m.rest.drop (xs.filterMap Step.line?).flatten.length⟩ := by
  induction xs generalizing m with
  | nil => simp
  | cons x xs ih =>
    rw [List.foldl_cons, ih, filterMap_line?_cons]
    cases x <;> simp [next, Step.bytes, Step.line?]

end Moment

def moment (s : Strictness) (input : List UInt8) (k : Nat) : Moment :=
  ((scriptOf s input).steps.take k).foldl Moment.next ⟨[], input⟩

section

variable (s : Strictness) (input : List UInt8)

theorem moment_eq (k : Nat) : moment s input k =
    ⟨((scriptOf s input).steps.take k).flatMap Step.bytes,
      input.drop (((scriptOf s input).steps.take k).filterMap Step.line?).flatten.length⟩ := by
  rw [moment, Moment.foldl_next, List.nil_append]

/-- The last moment is what the session comes to. -/
theorem moment_length : moment s input (scriptOf s input).steps.length =
    ⟨(session s none input).written, (session s none input).rest⟩ := by
  rw [moment_eq, List.take_length, session_written, session_rest]

/-- What has been written stays written. -/
theorem written_moment_mono {k l : Nat} (h : k ≤ l) :
    (moment s input k).written <+: (moment s input l).written := by
  obtain ⟨more, hmore⟩ := List.take_prefix_take_left (l := (scriptOf s input).steps) h
  rw [moment_eq, moment_eq, ← hmore, List.flatMap_append]
  exact List.prefix_append _ _

/-- The step after the first `k` writes the byte that has `n` others ahead of it. -/
structure Writes (k n : Nat) : Prop where
  before : (moment s input k).written.length ≤ n
  after : n < (moment s input (k + 1)).written.length

variable {s input} in
theorem Writes.unique {k l n : Nat} (hk : Writes s input k n) (hl : Writes s input l n) :
    k = l := by
  have hkn := hk.before
  have hnk := hk.after
  have hln := hl.before
  have hnl := hl.after
  rcases Nat.lt_trichotomy k l with hlt | heq | hgt
  · have hle : k + 1 ≤ l := hlt
    have := (written_moment_mono s input hle).length_le
    omega
  · exact heq
  · have hle : l + 1 ≤ k := hgt
    have := (written_moment_mono s input hle).length_le
    omega

end

/-- **A session on an output that runs full is cut off cleanly.**  As long as there is room it is
the session on an output that takes everything.  Otherwise the bytes for which there is room are
written, and it fails at the moment when the first byte too many is written: what has been read up
to there stays read, and nothing more. -/
theorem session_cut_short (s : Strictness) (input : List UInt8) (n : Nat) :
    let whole := session s none input
    let cut := session s (some n) input
    moment s input (scriptOf s input).steps.length = ⟨whole.written, whole.rest⟩ ∧
    (whole.written.length ≤ n → cut = whole) ∧
    (n < whole.written.length →
      cut.written = whole.written.take n ∧
      cut.result.mapError Failure.message = .error "output closed" ∧
      ∃ k, Writes s input k n ∧ (∀ l, Writes s input l n → l = k) ∧
        cut.rest = (moment s input k).rest ∧
        (play (some n) (scriptOf s input).steps).taken =
          ((scriptOf s input).steps.take k).filterMap Step.line?) := by
  intro whole cut
  have hwhole : whole.written = (scriptOf s input).steps.flatMap Step.bytes :=
    session_written s input
  refine ⟨moment_length s input, fun h => ?_, fun h => ?_⟩
  · rw [hwhole] at h
    show (scriptOf s input).session (some n) input = (scriptOf s input).session none input
    rw [Script.session, Script.session, play_of_fits h]
  · rw [hwhole] at h ⊢
    obtain ⟨before, x, after, hsteps, hle, hlt⟩ := exists_first_too_long h
    have hplay : play (some n) (before ++ x :: after) = _ := play_of_first_too_long hle hlt
    rw [← hsteps] at hplay
    have htaken : (play (some n) (scriptOf s input).steps).taken =
        before.filterMap Step.line? := by
      rw [hplay, taken_ahead, List.append_nil]
    have hbefore : (scriptOf s input).steps.take before.length = before := by
      rw [hsteps, List.take_left]
    have hthrough : (scriptOf s input).steps.take (before.length + 1) = before ++ [x] := by
      rw [hsteps, List.take_length_add_append]
      rfl
    have hwrites : Writes s input before.length n := by
      refine ⟨?_, ?_⟩
      · rw [moment_eq, hbefore]
        exact hle
      · rw [moment_eq, hthrough]
        simpa using hlt
    refine ⟨written_play_some _ n, ?_, before.length, hwrites, fun l hl => hl.unique hwrites,
      ?_, ?_⟩
    · show Except.mapError _ ((scriptOf s input).session (some n) input).result = _
      rw [Script.session, hplay]
      simp only [completed_ahead]
      rfl
    · rw [moment_eq, hbefore, ← htaken]
      rfl
    · rw [hbefore]
      exact htaken

-- The output runs full in the answer to the first round, so the second round is not read.
example : (session .strict (some 140) (Text.Utf8.encode "1\nz\n2\n1\n")).rest =
    Text.Utf8.encode "2\n1\n" := by decide +kernel

end Paging.Dialogue
