import Paging.Proofs.Command.Reading

/-!
# Which arguments are accepted

Words are accepted if they spell notes of which no two exclude each other and each is good by
itself (`Given.exists_noteAll?_iff`), and if the environment can be read where it is looked at.
This says nothing of the order in which faults come up, and it is all there is to acceptance
(`exists_interpret_iff`).
-/

namespace Paging.Command

open Text

/-! ### Which notes are taken -/

namespace Parameter

def Takes : Parameter → String → Prop
  | help, _ => False
  | dir, v => v ≠ ""
  | out, v => v ≠ ""
  | address, v => ∃ n, parseHex v = .ok n
  | entry, v => ∃ n, parseHex v = .ok n
  | _, _ => True

def isOperand : Parameter → Bool
  | address => true
  | entry => true
  | _ => false

/-- Whether a parameter may not come after another: it is the same, or both are operands. -/
def excludes (p q : Parameter) : Bool := p == q || (p.isOperand && q.isOperand)

end Parameter

namespace Given

theorem path_eq_ok_iff {p : Parameter} {v w : String} :
    path p v = .ok w ↔ v ≠ "" ∧ v = w := by
  rw [path]
  split <;> simp_all

theorem number_eq_ok_iff {p : Parameter} {v : String} {n : UInt64} :
    number p v = .ok n ↔ parseHex v = .ok n := by
  rw [number]
  cases parseHex v <;> simp

theorem map_eq_ok_iff {α : Type} {x : Except Refusal α} {f : α → Given} {g : Given} :
    x.map f = .ok g ↔ ∃ a, x = .ok a ∧ f a = g := by
  cases x <;> simp [Except.map]

theorem exists_set_iff (g : Given) (p : Parameter) (v : String) :
    (∃ g', g.set p v = .ok g') ↔ g.has p = false ∧ p.Takes v := by
  rw [set.eq_def]
  cases hhas : g.has p with
  | true => simp
  | false =>
    rw [if_neg Bool.false_ne_true]
    cases p with
    | log | strict | help | verbose => simp [Parameter.Takes]
    | dir | out => simp [Parameter.Takes, map_eq_ok_iff, path_eq_ok_iff]
    | address | entry => simp [Parameter.Takes, map_eq_ok_iff, number_eq_ok_iff]

theorem has_of_set {g g' : Given} {p : Parameter} {v : String} (h : g.set p v = .ok g')
    (q : Parameter) : g'.has q = (g.has q || p.excludes q) := by
  rw [set.eq_def] at h
  split at h
  · cases h
  · cases p with
    | log | strict | verbose =>
      cases h
      cases q <;> simp [has, Parameter.excludes, Parameter.isOperand]
    | help => cases h
    | dir | out | address | entry =>
      obtain ⟨_, -, rfl⟩ := map_eq_ok_iff.mp h
      cases q <;> simp [has, Parameter.excludes, Parameter.isOperand]

theorem note?_eq_some_iff {g g' : Given} {n : Note} :
    g.note? n = some g' ↔ g.set n.1 n.2 = .ok g' := toOption_eq_some_iff

/-- What is given in the end is what was given before and what the notes give. -/
theorem has_of_noteAll? {g g' : Given} {ns : List Note} (h : g.noteAll? ns = some g')
    (q : Parameter) : g'.has q = (g.has q || ns.any fun n => n.1.excludes q) := by
  induction ns generalizing g with
  | nil =>
    cases h
    exact (Bool.or_false _).symm
  | cons n ns ih =>
    rw [noteAll?_cons, Option.bind_eq_some_iff] at h
    obtain ⟨g₁, hnote, hrest⟩ := h
    rw [ih hrest, has_of_set (note?_eq_some_iff.mp hnote), List.any_cons, Bool.or_assoc]

/-- Notes are taken if no two exclude each other and each is good by itself. -/
theorem exists_noteAll?_iff (g : Given) (ns : List Note) :
    (∃ g', g.noteAll? ns = some g') ↔
      (∀ n ∈ ns, g.has n.1 = false ∧ n.1.Takes n.2) ∧
        ns.Pairwise fun m n => m.1.excludes n.1 = false := by
  induction ns generalizing g with
  | nil => simp [noteAll?]
  | cons n ns ih =>
    rw [noteAll?_cons, List.forall_mem_cons, List.pairwise_cons]
    constructor
    · rintro ⟨g', h⟩
      obtain ⟨g₁, hnote, hrest⟩ := Option.bind_eq_some_iff.mp h
      have hset := note?_eq_some_iff.mp hnote
      obtain ⟨hgood, hpairs⟩ := (ih g₁).mp ⟨g', hrest⟩
      have hfree (m : Note) (hm : m ∈ ns) : g.has m.1 = false ∧ n.1.excludes m.1 = false := by
        rw [← Bool.or_eq_false_iff, ← has_of_set hset]
        exact (hgood m hm).1
      refine ⟨⟨(exists_set_iff g n.1 n.2).mp ⟨g₁, hset⟩, ?_⟩, ?_, hpairs⟩
      · exact fun m hm => ⟨(hfree m hm).1, (hgood m hm).2⟩
      · exact fun m hm => (hfree m hm).2
    · rintro ⟨⟨hn, hgood⟩, hfree, hpairs⟩
      obtain ⟨g₁, hset⟩ := (exists_set_iff g n.1 n.2).mpr hn
      have hrest : ∀ m ∈ ns, g₁.has m.1 = false ∧ m.1.Takes m.2 := by
        intro m hm
        rw [has_of_set hset, (hgood m hm).1, hfree m hm]
        exact ⟨rfl, (hgood m hm).2⟩
      obtain ⟨g', hg'⟩ := (ih g₁).mpr ⟨hrest, hpairs⟩
      exact ⟨g', by rw [note?_eq_some_iff.mpr hset]; exact hg'⟩

end Given

/-! ### Levels -/

/-- The words of a level are accepted with the notes that they spell: no two notes exclude each
other, each is good by itself, and the environment can be read unless the strict check is asked for
at the level. -/
structure AcceptedAs (env : Environment) (level : Option Subcommand) (words : List String)
    (ns : List Note) (cut : Cut) : Prop where
  spelled : spelled? level false none (Subcommand.operand level) words = some (ns, cut)
  once : ns.Pairwise fun m n => m.1.excludes n.1 = false
  good : ∀ n ∈ ns, n.1.Takes n.2
  legible : (∃ n ∈ ns, n.1 = .strict) ∨ ∃ b, env.asksStrict = .ok b

/-- Arguments and environment are accepted: the words ahead of the subcommand are, and so are those
after it, with an operand among them if it needs one. -/
def Accepted (args : List String) (env : Environment) : Prop :=
  ∃ ns cut, AcceptedAs env none args ns cut ∧
    ∀ c words, cut = some (c, words) → ∃ ms, AcceptedAs env (some c) words ms none ∧
      ((Subcommand.operand (some c)).isSome → ∃ m ∈ ms, m.1.isOperand)

theorem ended?_eq_some_iff {env : Environment} {g g' : Given} :
    g.ended? env = some g' ↔ (g.strict = true ∨ ∃ b, env.asksStrict = .ok b) ∧ g' = g := by
  rw [Given.ended?]
  split
  · next h => simp [h, eq_comm]
  · next h => cases env.asksStrict <;> simp [h, Except.toOption, eq_comm]

theorem exists_requestOf_iff (g : Given) (c : Subcommand) :
    (∃ q, requestOf g c = .ok q) ↔
      ((Subcommand.operand (some c)).isSome → g.operand.isSome) := by
  cases c with
  | address | entry => cases h : g.operand <;> simp [requestOf, Subcommand.operand, h]
  | dialogue | pack => simp [requestOf, Subcommand.operand]

theorem excludes_strict_iff {p : Parameter} : p.excludes .strict = true ↔ p = .strict := by
  cases p <;> decide

theorem excludes_address_iff {p : Parameter} : p.excludes .address = true ↔ p.isOperand = true := by
  cases p <;> decide

section

variable {ns : List Note} {g : Given} (h : Given.nothing.noteAll? ns = some g)

include h

theorem strict_iff : g.strict = true ↔ ∃ n ∈ ns, n.1 = .strict := by
  have hhas : g.strict = _ := Given.has_of_noteAll? h .strict
  rw [hhas]
  show (ns.any _) = true ↔ _
  simp only [List.any_eq_true, excludes_strict_iff]

theorem operand_iff : g.operand.isSome = true ↔ ∃ n ∈ ns, n.1.isOperand := by
  have hhas : g.operand.isSome = _ := Given.has_of_noteAll? h .address
  rw [hhas]
  show (ns.any _) = true ↔ _
  simp only [List.any_eq_true, excludes_address_iff]

end

theorem acceptedAs_iff {env : Environment} {level : Option Subcommand} {words : List String}
    {ns : List Note} {cut : Cut}
    (hspelled : spelled? level false none (Subcommand.operand level) words = some (ns, cut)) :
    AcceptedAs env level words ns cut ↔
      ∃ g, Given.nothing.noteAll? ns = some g ∧ g.ended? env = some g := by
  have hnotes := Given.exists_noteAll?_iff .nothing ns
  have hnothing (p : Parameter) : Given.nothing.has p = false := by cases p <;> rfl
  simp only [hnothing, true_and] at hnotes
  constructor
  · intro h
    obtain ⟨g, hg⟩ := hnotes.mpr ⟨h.good, h.once⟩
    exact ⟨g, hg, ended?_eq_some_iff.mpr ⟨h.legible.imp_left (strict_iff hg).mpr, rfl⟩⟩
  · rintro ⟨g, hg, hended⟩
    obtain ⟨hgood, honce⟩ := hnotes.mp ⟨g, hg⟩
    have hlegible := (ended?_eq_some_iff.mp hended).1
    exact ⟨hspelled, honce, hgood, hlegible.imp_left (strict_iff hg).mp⟩

/-- After a subcommand there is no other. -/
theorem cut_eq_none {c : Subcommand} {words : List String} {g : Given} {cut : Cut}
    (h : level? (some c) words = some (g, cut)) : cut = none := by
  have hall := Reading.bind_all words c (.start (some c))
  have hgives : (Reading.start (some c)).gives? (some c) words = level? (some c) words := rfl
  rw [hgives, h, Option.bind_eq_some_iff] at hall
  obtain ⟨r, -, hr⟩ := hall
  obtain ⟨g', -, heq⟩ := Option.map_eq_some_iff.mp hr
  cases heq
  rfl

theorem exists_askedOf?_iff {env : Environment} {c : Subcommand} {words : List String} :
    (∃ x, askedOf? env c words = some x) ↔
      ∃ ms, AcceptedAs env (some c) words ms none ∧
        ((Subcommand.operand (some c)).isSome → ∃ m ∈ ms, m.1.isOperand) := by
  constructor
  · rintro ⟨x, h⟩
    obtain ⟨⟨g, cut⟩, hlevel, h⟩ := Option.bind_eq_some_iff.mp h
    obtain ⟨g', hended, h⟩ := Option.bind_eq_some_iff.mp h
    obtain ⟨q, hrequest, -⟩ := Option.map_eq_some_iff.mp h
    obtain rfl := cut_eq_none hlevel
    obtain ⟨-, rfl⟩ := ended?_eq_some_iff.mp hended
    obtain ⟨ms, hspelled, hnoted⟩ := level?_eq_some_iff.mp hlevel
    refine ⟨ms, (acceptedAs_iff hspelled).mpr ⟨g', hnoted, hended⟩, ?_⟩
    rw [← operand_iff hnoted]
    exact (exists_requestOf_iff g' c).mp ⟨q, toOption_eq_some_iff.mp hrequest⟩
  · rintro ⟨ms, hms, hoperand⟩
    obtain ⟨g, hnoted, hended⟩ := (acceptedAs_iff hms.spelled).mp hms
    rw [← operand_iff hnoted, ← exists_requestOf_iff] at hoperand
    obtain ⟨q, hrequest⟩ := hoperand
    have hlevel := level?_eq_some_iff.mpr ⟨ms, hms.spelled, hnoted⟩
    refine ⟨(g, q), ?_⟩
    rw [askedOf?, hlevel, Option.bind_some, hended, Option.bind_some, hrequest]
    rfl

/-- **Which arguments are accepted**, told by the notes that they spell. -/
theorem exists_interpret_iff (args : List String) (env : Environment) :
    (∃ x, interpret args env = .ok x) ↔ Accepted args env := by
  have hasked : (∃ x, interpret args env = .ok x) ↔ ∃ x, asked? args env = some x := by
    simp only [← toOption_interpret, toOption_eq_some_iff]
  rw [hasked]
  constructor
  · rintro ⟨x, h⟩
    obtain ⟨⟨g, cut⟩, hlevel, h⟩ := Option.bind_eq_some_iff.mp h
    obtain ⟨ns, hspelled, hnoted⟩ := level?_eq_some_iff.mp hlevel
    rcases cut with - | ⟨c, words⟩
    · obtain ⟨g', hended, -⟩ := Option.map_eq_some_iff.mp h
      obtain ⟨-, rfl⟩ := ended?_eq_some_iff.mp hended
      exact ⟨ns, none, (acceptedAs_iff hspelled).mpr ⟨g', hnoted, hended⟩, fun _ _ h => nomatch h⟩
    · obtain ⟨y, hcall, h⟩ := Option.bind_eq_some_iff.mp h
      obtain ⟨g', hended, -⟩ := Option.map_eq_some_iff.mp h
      obtain ⟨-, rfl⟩ := ended?_eq_some_iff.mp hended
      refine ⟨ns, _, (acceptedAs_iff hspelled).mpr ⟨g', hnoted, hended⟩, ?_⟩
      rintro c words ⟨⟩
      exact exists_askedOf?_iff.mp ⟨y, hcall⟩
  · rintro ⟨ns, cut, hns, hcall⟩
    obtain ⟨g, hnoted, hended⟩ := (acceptedAs_iff hns.spelled).mp hns
    have hlevel := level?_eq_some_iff.mpr ⟨ns, hns.spelled, hnoted⟩
    rw [asked?, hlevel, Option.bind_some]
    rcases cut with - | ⟨c, words⟩
    · exact ⟨_, Option.map_eq_some_iff.mpr ⟨g, hended, rfl⟩⟩
    · obtain ⟨x, hx⟩ := exists_askedOf?_iff.mpr (hcall c words rfl)
      refine ⟨(settings env g x.1, x.2), Option.bind_eq_some_iff.mpr ⟨x, hx, ?_⟩⟩
      exact Option.map_eq_some_iff.mpr ⟨g, hended, rfl⟩

end Paging.Command
