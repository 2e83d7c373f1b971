import Paging.Proofs.AppTable.Pack
import Paging.Proofs.FileSystem.Growth
import Paging.Proofs.Text.Lossy

/-!
# Entries that a listing leaves out

Directories, links and files whose name begins with a dot are no applications, so a directory should
list the same with more of them in it.  It does, as long as the names of the new files are texts: a
name is taken for hidden only once it has been decoded, so that a file whose name begins with a dot
and is no text counts as a file without a name (`isMember_iff`).  `collectAt_leftOut_iff` says when
the listing is the same all the same.
-/

namespace Paging.AppTable

open Text

/-- What a listing is to leave out: a directory, a link, or a file whose name begins with a dot. -/
inductive LeftOut (name : FileName) : Node → Prop
  | directory : LeftOut name .directory
  | link (target : List UInt8) : LeftOut name (.link target)
  | dotfile (content : List UInt8) (h : name.head? = some Path.dotByte) :
      LeftOut name (.file content)

/-- `fs'` is `fs` with more in it, and what is new in the directory at `loc` is to be left out. -/
structure AddsLeftOut (fs fs' : FileSystem) (loc : Location) : Prop where
  grows : fs.Grows fs'
  leftOut : ∀ {name : FileName} {node : Node}, fs.node? (name :: loc) = none →
    fs'.node? (name :: loc) = some node → LeftOut name node

structure IsNewUnnamed (fs fs' : FileSystem) (loc : Location) (name : FileName) (size : Nat) :
    Prop where
  new : fs.node? (name :: loc) = none
  file : ∃ content, fs'.node? (name :: loc) = some (.file content) ∧ content.length = size
  notText : ¬ Utf8.IsText name

/-! ### Hidden names -/

theorem Hidden.isText {name : FileName} (h : Hidden name) : Utf8.IsText name := by
  obtain ⟨t, ht, _⟩ := h
  exact ⟨t, ht⟩

/-- The first byte tells whether a text is hidden. -/
theorem hidden_of_head? {name : FileName} (htext : Utf8.IsText name)
    (hdot : name.head? = some Path.dotByte) : Hidden name := by
  obtain ⟨t, rfl⟩ := htext
  exact ⟨t, rfl, (Utf8.head?_encode_iff (by decide)).mp hdot⟩

/-! ### One entry more -/

theorem addsLeftOut_refl (fs : FileSystem) (loc : Location) : AddsLeftOut fs fs loc where
  grows := ⟨rfl, id⟩
  leftOut := by
    intro name node hnone hsome
    cases hnone.symm.trans hsome

theorem AddsLeftOut.put {fs fs' : FileSystem} {loc : Location} (h : AddsLeftOut fs fs' loc)
    {name : FileName} {node : Node} (hfree : fs'.node? (name :: loc) = none)
    (hnode : LeftOut name node) : AddsLeftOut fs (fs'.put (name :: loc) node) loc where
  grows := h.grows.trans (FileSystem.grows_put hfree node)
  leftOut := by
    intro other node' hnone hsome
    by_cases hother : other = name
    · subst hother
      rw [fs'.node?_put_self node (List.cons_ne_nil other loc)] at hsome
      cases hsome
      exact hnode
    · have hne : other :: loc ≠ name :: loc := fun he => hother (List.cons.inj he).1
      rw [fs'.node?_put_of_ne node hne] at hsome
      exact h.leftOut hnone hsome

/-! ### What counts -/

namespace AddsLeftOut

variable {fs fs' : FileSystem} {loc : Location} (h : AddsLeftOut fs fs' loc)

include h

/-- **Of what is new only the files count whose names are no texts**, though they are to be left
out. -/
theorem isMember_iff {name : FileName} {size : Nat} :
    IsMember fs' loc name size ↔ IsMember fs loc name size ∨ IsNewUnnamed fs fs' loc name size := by
  constructor
  · rintro ⟨⟨content, hfile, hsize⟩, hshown⟩
    cases hold : fs.node? (name :: loc) with
    | some node =>
      left
      cases (h.grows.kept hold).symm.trans hfile
      exact ⟨⟨content, hold, hsize⟩, hshown⟩
    | none =>
      right
      refine ⟨hold, ⟨content, hfile, hsize⟩, ?_⟩
      intro htext
      cases h.leftOut hold hfile with
      | dotfile content hdot => exact hshown (hidden_of_head? htext hdot)
  · rintro (⟨⟨content, hfile, hsize⟩, hshown⟩ | hnew)
    · exact ⟨⟨content, h.grows.kept hfile, hsize⟩, hshown⟩
    · exact ⟨hnew.file, fun hhid => hnew.notText hhid.isText⟩

/-- What is found stays the same if every new file without a name comes after one that was there
before. -/
theorem found {r : Except PackError (List App)} (hr : Found (IsMember fs loc) r)
    (hlate : ∀ name size, IsNewUnnamed fs fs' loc name size →
      ∃ earlier k, IsMember fs loc earlier k ∧ ¬ Utf8.IsText earlier ∧ earlier < name) :
    Found (IsMember fs' loc) r := by
  cases hr with
  | @apps apps hall hasc =>
    -- No file was without a name, so none is new.
    refine .apps ?_ hasc
    intro name size
    rw [h.isMember_iff, ← hall name size, or_iff_left]
    intro hnew
    obtain ⟨earlier, k, hcounts, hnot, _⟩ := hlate name size hnew
    exact hnot (hall.isText hcounts)
  | @unnamed name hfirst =>
    obtain ⟨k, hk⟩ := hfirst.counted
    refine .unnamed ⟨⟨k, h.isMember_iff.mpr (Or.inl hk)⟩, hfirst.notText, ?_⟩
    intro other size hother hnot
    rcases h.isMember_iff.mp hother with hold | hnew
    · exact hfirst.first other size hold hnot
    · obtain ⟨earlier, k', hcounts, hnot', hlt⟩ := hlate other size hnew
      exact List.le_of_lt (List.lt_of_le_of_lt (hfirst.first earlier k' hcounts hnot') hlt)

/-- What is found is an error about a new file if one of them comes before all that were there. -/
theorem found_or {r r' : Except PackError (List App)} (hr : Found (IsMember fs loc) r)
    (hr' : Found (IsMember fs' loc) r') :
    r' = r ∨ ∃ name size, IsNewUnnamed fs fs' loc name size ∧ r' = .error (.name name) := by
  cases hr' with
  | apps hall hasc =>
    left
    refine (Found.apps hall hasc).unique (h.found hr ?_)
    intro name size hnew
    exact absurd (hall.isText (h.isMember_iff.mpr (Or.inr hnew))) hnew.notText
  | @unnamed name hfirst =>
    obtain ⟨size, hsize⟩ := hfirst.counted
    rcases h.isMember_iff.mp hsize with hold | hnew
    · left
      refine Found.unique (.unnamed ⟨⟨size, hold⟩, hfirst.notText, ?_⟩) hr
      intro other k hother hnot
      exact hfirst.first other k (h.isMember_iff.mpr (Or.inl hother)) hnot
    · right
      exact ⟨name, size, hnew, rfl⟩

/-- What was found only stays the same if every new file without a name comes after one. -/
theorem exists_earlier {r : Except PackError (List App)} (hr : Found (IsMember fs loc) r)
    (hr' : Found (IsMember fs' loc) r) {name : FileName} {size : Nat}
    (hnew : IsNewUnnamed fs fs' loc name size) :
    ∃ earlier k, IsMember fs loc earlier k ∧ ¬ Utf8.IsText earlier ∧ earlier < name := by
  have hcounts : IsMember fs' loc name size := h.isMember_iff.mpr (Or.inr hnew)
  cases hr' with
  | apps hall hasc => exact absurd (hall.isText hcounts) hnew.notText
  | @unnamed first hfirst' =>
    cases hr with
    | unnamed hfirst =>
      obtain ⟨k, hk⟩ := hfirst.counted
      refine ⟨first, k, hk, hfirst.notText, ?_⟩
      apply Std.lt_of_le_of_ne (hfirst'.first name size hcounts hnew.notText)
      -- The one lay there before and the other did not.
      rintro rfl
      obtain ⟨⟨content, hfile, _⟩, _⟩ := hk
      cases hnew.new.symm.trans hfile

end AddsLeftOut

/-- **A directory lists the same with more in it that is to be left out** just if every new file
whose name is no text comes after one that was there before.  If one comes before all that were
there, the listing fails over a new file. -/
theorem collectAt_leftOut_iff {fs fs' : FileSystem} {dir : List UInt8} {loc : Location}
    (hloc : fs.locate dir = .ok loc) (hdir : fs.isDirectory loc = true)
    (h : AddsLeftOut fs fs' loc) :
    (collectAt fs' dir = collectAt fs dir ↔
      ∀ name size, IsNewUnnamed fs fs' loc name size →
        ∃ earlier k, IsMember fs loc earlier k ∧ ¬ Utf8.IsText earlier ∧ earlier < name) ∧
    (collectAt fs' dir = collectAt fs dir ∨
      ∃ name size, IsNewUnnamed fs fs' loc name size ∧
        collectAt fs' dir = .error (.name name)) := by
  have hr := found_collectAt hloc hdir
  have hr' := found_collectAt (h.grows.locate hloc) (h.grows.isDirectory hdir)
  refine ⟨⟨?_, ?_⟩, h.found_or hr hr'⟩
  · intro heq name size hnew
    rw [heq] at hr'
    exact h.exists_earlier hr hr' hnew
  · intro hlate
    exact hr'.unique (h.found hr hlate)

/-- A link whose name is no text and a hidden file beside the application `a`. -/
theorem collectAt_link_and_dotfile :
    let fs' := (oneApp.put [[0xFF], [0x64], [0x77]] (.link [0x61])).put
      [[0x2E, 0x6B], [0x64], [0x77]] (.file [0, 0])
    oneApp.locate [0x64] = .ok [[0x64], [0x77]] ∧
      oneApp.isDirectory [[0x64], [0x77]] = true ∧
      AddsLeftOut oneApp fs' [[0x64], [0x77]] ∧
      collectAt fs' [0x64] = collectAt oneApp [0x64] := by
  intro fs'
  have hloc : oneApp.locate [0x64] = .ok [[0x64], [0x77]] := by decide +kernel
  have hdir : oneApp.isDirectory [[0x64], [0x77]] = true := by decide +kernel
  have hadds : AddsLeftOut oneApp fs' [[0x64], [0x77]] :=
    ((addsLeftOut_refl oneApp _).put (by decide +kernel) (.link _)).put (by decide +kernel)
      (.dotfile _ rfl)
  refine ⟨hloc, hdir, hadds, (collectAt_leftOut_iff hloc hdir hadds).1.mpr ?_⟩
  rintro name size ⟨hnew, ⟨content, hfile, _⟩, hnot⟩
  by_cases hk : name = [0x2E, 0x6B]
  · exact absurd ⟨".k", by rw [hk]; decide⟩ hnot
  · rw [FileSystem.node?_put_of_ne _ _ (by simpa using hk)] at hfile
    by_cases hlink : name = [0xFF]
    · rw [hlink, FileSystem.node?_put_self _ _ (List.cons_ne_nil _ _)] at hfile
      cases hfile
    · rw [FileSystem.node?_put_of_ne _ _ (by simpa using hlink), hnew] at hfile
      cases hfile

/-- A file whose name is a dot and a byte that is no text makes the listing fail. -/
theorem collectAt_unnamed_dotfile :
    let fs' := oneApp.put [[0x2E, 0xFF], [0x64], [0x77]] (.file [0])
    oneApp.locate [0x64] = .ok [[0x64], [0x77]] ∧
      oneApp.isDirectory [[0x64], [0x77]] = true ∧
      AddsLeftOut oneApp fs' [[0x64], [0x77]] ∧
      collectAt oneApp [0x64] = .ok [⟨"a", 1⟩] ∧
      collectAt fs' [0x64] = .error (.name [0x2E, 0xFF]) := by
  intro fs'
  have hchildren : fs'.children [[0x64], [0x77]] =
      [([0x2E, 0xFF], .file [0]), ([0x61], .file [0])] := by decide +kernel
  have hlist : fs'.list [0x64] = .ok [([0x2E, 0xFF], .file [0]), ([0x61], .file [0])] := by
    have hloc : fs'.locate [0x64] = .ok [[0x64], [0x77]] := by decide +kernel
    have hdir : fs'.isDirectory [[0x64], [0x77]] = true := by decide +kernel
    rw [FileSystem.list, hloc, Except.map, if_pos hdir, hchildren, FileSystem.byName,
      List.mergeSort_of_pairwise (by decide +kernel)]
  have hunnamed : collectAt fs' [0x64] = .error (.name [0x2E, 0xFF]) := by
    rw [collectAt, findings, hlist]
    decide +kernel
  refine ⟨by decide +kernel, by decide +kernel, ?_, collectAt_oneApp, hunnamed⟩
  exact (addsLeftOut_refl oneApp _).put (by decide +kernel) (.dotfile _ rfl)

end Paging.AppTable
