import Mathlib.Data.List.Basic
import Mathlib.Data.List.Nodup
import Paging.FileSystem.Access

/-!
# What a directory lists

A file system is seen through `node?`.  Here its entries are tied to that view: what lies directly
in a directory is what `node?` finds one name further (`mem_children_iff`), each name once, and a
listing has it in strictly ascending order of the names (`list_spec`).
-/

namespace Paging.FileSystem

theorem lookup_eq_some_iff_mem {α β : Type} [BEq α] [LawfulBEq α] {l : List (α × β)}
    (hl : (l.map Prod.fst).Nodup) {a : α} {b : β} : l.lookup a = some b ↔ (a, b) ∈ l := by
  induction l with
  | nil => simp
  | cons e l ih =>
    obtain ⟨k, v⟩ := e
    rw [List.map_cons, List.nodup_cons] at hl
    by_cases hk : a = k
    · subst hk
      have hnot : (a, b) ∉ l := fun h => hl.1 (List.mem_map.mpr ⟨(a, b), h, rfl⟩)
      simp [hnot, eq_comm]
    · rw [List.lookup_cons, beq_false_of_ne hk, ih hl.2, List.mem_cons, Prod.mk.injEq]
      simp [hk]

section

variable (fs : FileSystem) (loc : Location)

theorem mem_children_iff_mem_entries {name : FileName} {node : Node} :
    (name, node) ∈ fs.children loc ↔ (name :: loc, node) ∈ fs.entries := by
  rw [children, List.mem_filterMap]
  constructor
  · rintro ⟨⟨place, n⟩, hmem, hsome⟩
    cases place with
    | nil => cases hsome
    | cons m parent =>
      obtain ⟨hp, hpair⟩ := Option.ite_none_right_eq_some.mp hsome
      cases hpair
      exact hp ▸ hmem
  · intro hmem
    exact ⟨(name :: loc, node), hmem, if_pos rfl⟩

/-- **What lies in a directory is what the view finds** one name further. -/
theorem mem_children_iff {name : FileName} {node : Node} :
    (name, node) ∈ fs.children loc ↔ fs.node? (name :: loc) = some node := by
  rw [mem_children_iff_mem_entries, node?, if_neg (List.cons_ne_nil name loc),
    lookup_eq_some_iff_mem fs.distinct]

/-- No two things in a directory have the same name. -/
theorem nodup_children : ((fs.children loc).map Prod.fst).Nodup := by
  have hentries : fs.entries.Pairwise fun a b => a.1 ≠ b.1 := List.pairwise_map.mp fs.distinct
  refine List.pairwise_map.mpr (List.Pairwise.filterMap _ ?_ hentries)
  rintro ⟨place, n⟩ ⟨place', n'⟩ hne x hx y hy
  cases place with
  | nil => cases hx
  | cons m parent =>
    cases place' with
    | nil => cases hy
    | cons m' parent' =>
      obtain ⟨rfl, hpair⟩ := Option.ite_none_right_eq_some.mp hx
      obtain ⟨rfl, hpair'⟩ := Option.ite_none_right_eq_some.mp hy
      cases hpair
      cases hpair'
      intro heq
      exact hne (congrArg (· :: _) heq)

end

/-! ### Order -/

section

variable {α : Type}

theorem byName_perm (entries : List (FileName × α)) : (byName entries).Perm entries :=
  List.mergeSort_perm _ _

/-- **Things under different names stand in strictly ascending order** once they are sorted. -/
theorem pairwise_byName {entries : List (FileName × α)} (h : (entries.map Prod.fst).Nodup) :
    (byName entries).Pairwise fun a b => a.1 < b.1 := by
  have hle : (byName entries).Pairwise fun a b => a.1 ≤ b.1 := by
    have hsorted : (byName entries).Pairwise fun a b => decide (a.1 ≤ b.1) = true :=
      List.pairwise_mergeSort
        (fun a b c hab hbc => by
          rw [decide_eq_true_iff] at hab hbc ⊢
          exact List.le_trans hab hbc)
        (fun a b => by
          rw [Bool.or_eq_true, decide_eq_true_iff, decide_eq_true_iff]
          exact List.le_total a.1 b.1)
        entries
    exact hsorted.imp fun hab => of_decide_eq_true hab
  have hne : (byName entries).Pairwise fun a b => a.1 ≠ b.1 := by
    have hnodup : ((byName entries).map Prod.fst).Nodup :=
      ((byName_perm entries).map Prod.fst).nodup_iff.mpr h
    exact List.pairwise_map.mp hnodup
  exact (hle.and hne).imp fun hab => Std.lt_of_le_of_ne hab.1 hab.2

end

/-- **A listing of a directory has everything in it, in order.**  A listing of anything else is
empty. -/
theorem list_spec {fs : FileSystem} {dir : List UInt8} {loc : Location}
    (hloc : fs.locate dir = .ok loc) :
    ∃ entries, fs.list dir = .ok entries ∧ (entries.Pairwise fun a b => a.1 < b.1) ∧
      ∀ name node, (name, node) ∈ entries ↔
        fs.isDirectory loc = true ∧ fs.node? (name :: loc) = some node := by
  rw [list, hloc]
  by_cases hdir : fs.isDirectory loc = true
  · refine ⟨byName (fs.children loc), ?_, pairwise_byName (fs.nodup_children loc), ?_⟩
    · show Except.ok (if fs.isDirectory loc = true then _ else _) = _
      rw [if_pos hdir]
    · intro name node
      rw [(byName_perm _).mem_iff, mem_children_iff, and_iff_right hdir]
  · refine ⟨[], ?_, List.Pairwise.nil, ?_⟩
    · show Except.ok (if fs.isDirectory loc = true then _ else _) = _
      rw [if_neg hdir]
    · intro name node
      simp [hdir]

end Paging.FileSystem
