import Mathlib.Data.List.Basic
import Paging.Dialogue.Session

/-!
# Playing on an output that takes everything

With no bound on the output every step is played.  What is written and what is read are then told
step by step (`written_play`, `taken_play`), and steps that neither flush nor read write ahead of
the first segment of what follows them (`play_append_of_quiet`).
-/

namespace Paging.Dialogue

def Step.bytes : Step → List UInt8
  | .write text => Text.Utf8.encode text
  | _ => []

def Step.line? : Step → Option (List UInt8)
  | .read line => some line
  | _ => none

/-- A step that neither flushes nor reads. -/
inductive Step.IsQuiet : Step → Prop
  | write (text : String) : IsQuiet (.write text)
  | note (r : Log.Record) : IsQuiet (.note r)

namespace Played

theorem write_write (p : Played) (xs ys : List UInt8) :
    (p.write xs).write ys = p.write (ys ++ xs) := by
  obtain ⟨segments, taken, completed⟩ := p
  cases segments with
  | nil => rfl
  | cons s ss => simp [Played.write]

theorem write_nil {p : Played} (h : p.segments ≠ []) : p.write [] = p := by
  obtain ⟨segments, taken, completed⟩ := p
  cases segments with
  | nil => exact absurd rfl h
  | cons s ss => rfl

theorem flatten_segments_write (p : Played) (xs : List UInt8) :
    (p.write xs).segments.flatten = xs ++ p.segments.flatten := by
  obtain ⟨segments, taken, completed⟩ := p
  cases segments with
  | nil => simp [Played.write]
  | cons s ss => simp [Played.write]

@[simp] theorem taken_write (p : Played) (xs : List UInt8) : (p.write xs).taken = p.taken := by
  rw [Played.write]
  split <;> rfl

@[simp] theorem completed_write (p : Played) (xs : List UInt8) :
    (p.write xs).completed = p.completed := by
  rw [Played.write]
  split <;> rfl

theorem segments_flush_write (p : Played) (xs : List UInt8) :
    (p.flush.write xs).segments = xs :: p.segments := by
  simp [Played.flush, Played.write]

theorem segments_write_ne_nil (p : Played) (xs : List UInt8) : (p.write xs).segments ≠ [] := by
  rw [Played.write]
  split <;> exact List.cons_ne_nil _ _

end Played

theorem play_segments_ne_nil (steps : List Step) : (play none steps).segments ≠ [] := by
  induction steps with
  | nil => exact List.cons_ne_nil _ _
  | cons x steps ih =>
    cases x with
    | write text => exact Played.segments_write_ne_nil _ _
    | flush => exact List.cons_ne_nil _ _
    | read line => exact ih
    | note r => exact ih

theorem completed_play (steps : List Step) : (play none steps).completed = true := by
  induction steps with
  | nil => rfl
  | cons x steps ih =>
    cases x with
    | write text => rw [play, Played.completed_write, ih]
    | flush => exact ih
    | read line => exact ih
    | note r => exact ih

theorem taken_play (steps : List Step) :
    (play none steps).taken = steps.filterMap Step.line? := by
  induction steps with
  | nil => rfl
  | cons x steps ih =>
    cases x with
    | write text => rw [play, Played.taken_write, ih]; rfl
    | flush => exact ih
    | read line => exact congrArg (line :: ·) ih
    | note r => exact ih

theorem written_play (steps : List Step) :
    (play none steps).segments.flatten = steps.flatMap Step.bytes := by
  induction steps with
  | nil => rfl
  | cons x steps ih =>
    cases x with
    | write text => rw [play, Played.flatten_segments_write, ih]; rfl
    | flush => exact ih
    | read line => exact ih
    | note r => exact ih

/-- **Quiet steps write ahead of what follows them**, and do nothing else. -/
theorem play_append_of_quiet {xs : List Step} (h : ∀ x ∈ xs, x.IsQuiet) (ys : List Step) :
    play none (xs ++ ys) = (play none ys).write (xs.flatMap Step.bytes) := by
  induction xs with
  | nil => rw [List.nil_append, List.flatMap_nil, Played.write_nil (play_segments_ne_nil ys)]
  | cons x xs ih =>
    have hxs := ih (fun y hy => h y (List.mem_cons_of_mem x hy))
    cases h x List.mem_cons_self with
    | write text => rw [List.cons_append, play, hxs, Played.write_write, List.flatMap_cons]; rfl
    | note r => exact hxs

/-! ### Answers -/

theorem Answer.isQuiet_of_mem_steps {a : Answer} : ∀ x ∈ a.steps, x.IsQuiet := by
  intro x hx
  rw [Answer.steps, List.mem_append, List.mem_map, List.mem_singleton] at hx
  rcases hx with ⟨r, _, rfl⟩ | rfl
  · exact .note r
  · exact .write a.text

/-- No answer flushes or reads. -/
theorem isQuiet_of_mem_reply {s : Strictness} {q : Question} {reply : String} :
    ∀ x ∈ (q.reply s reply).1, x.IsQuiet := by
  cases q with
  | action =>
    rw [Question.reply]
    split_ifs <;> simp
  | address => exact Answer.isQuiet_of_mem_steps
  | entry => exact Answer.isQuiet_of_mem_steps

/-! ### Sessions -/

section

variable (s : Strictness) (input : List UInt8)

theorem session_written :
    (session s none input).written = (scriptOf s input).steps.flatMap Step.bytes :=
  written_play _

theorem session_rest : (session s none input).rest =
    input.drop ((scriptOf s input).steps.filterMap Step.line?).flatten.length := by
  rw [← taken_play]
  rfl

theorem session_result : (session s none input).result = (scriptOf s input).result := by
  rw [session, Script.session]
  simp only [completed_play, if_true]

end

end Paging.Dialogue
