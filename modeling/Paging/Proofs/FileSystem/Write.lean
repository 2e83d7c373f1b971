import Paging.FileSystem.Access
import Paging.Proofs.FileSystem.Listing
import Paging.Proofs.FileSystem.Route

/-!
# What a write leaves alone

A file is written where a file lies already or nothing does.  No path goes on from there, so every
path that led somewhere leads there still (`Leads.put`), and the path that was written by leads to
the new file.  `write_spec` says what a write does and `write_write` that the last one counts.
-/

namespace Paging.FileSystem

/-! ### One location -/

theorem mem_others {fs : FileSystem} {loc l : Location} {node : Node} :
    (l, node) ∈ fs.others loc ↔ (l, node) ∈ fs.entries ∧ l ≠ loc := by
  rw [others, List.mem_filter, decide_eq_true_iff]

theorem node?_put_of_ne (fs : FileSystem) {loc l : Location} (node : Node) (h : l ≠ loc) :
    (fs.put loc node).node? l = fs.node? l := by
  rw [node?, node?]
  refine ite_congr rfl (fun _ => rfl) fun _ => Option.ext fun x => ?_
  rw [lookup_eq_some_iff_mem (fs.put loc node).distinct, lookup_eq_some_iff_mem fs.distinct]
  show (l, x) ∈ (loc, node) :: fs.others loc ↔ _
  rw [List.mem_cons, mem_others, Prod.mk.injEq]
  simp [h]

theorem node?_put_self (fs : FileSystem) {loc : Location} (node : Node) (h : loc ≠ []) :
    (fs.put loc node).node? loc = some node := by
  rw [node?, if_neg h, lookup_eq_some_iff_mem (fs.put loc node).distinct]
  exact List.mem_cons_self

/-- Only what was put last at a location counts. -/
theorem put_put (fs : FileSystem) (loc : Location) (a b : Node) :
    (fs.put loc a).put loc b = fs.put loc b := by
  have hsame : (fs.put loc a).others loc = fs.others loc := by
    show ((loc, a) :: fs.others loc).filter (·.1 ≠ loc) = _
    rw [List.filter_cons_of_neg (by simp), others, List.filter_filter]
    simp only [Bool.and_self]
  rw [put, FileSystem.mk.injEq, hsame]
  exact ⟨rfl, rfl⟩

theorem put_inj {fs : FileSystem} {loc : Location} {a b : Node} :
    fs.put loc a = fs.put loc b ↔ a = b := by
  refine ⟨fun h => ?_, fun h => h ▸ rfl⟩
  have hentries : (loc, a) :: fs.others loc = (loc, b) :: fs.others loc :=
    congrArg FileSystem.entries h
  exact (Prod.mk.inj (List.cons.inj hentries).1).2

def TakesFile (fs : FileSystem) (loc : Location) : Prop :=
  fs.node? loc = none ∨ ∃ content, fs.node? loc = some (.file content)

namespace TakesFile

variable {fs : FileSystem} {loc : Location} (h : fs.TakesFile loc)

include h

theorem ne_nil : loc ≠ [] := by
  rintro rfl
  rcases h with h | ⟨content, h⟩ <;> cases h

theorem not_isDirectory : ¬ fs.isDirectory loc = true := by
  rw [isDirectory, beq_iff_eq]
  rcases h with h | ⟨content, h⟩ <;> simp [h]

/-- A file in such a place makes no directory and takes none away. -/
theorem isDirectory_put (content : List UInt8) (l : Location) :
    (fs.put loc (.file content)).isDirectory l = fs.isDirectory l := by
  by_cases hl : l = loc
  · subst hl
    rw [Bool.eq_false_iff.mpr h.not_isDirectory, isDirectory, fs.node?_put_self _ h.ne_nil]
    rfl
  · rw [isDirectory, fs.node?_put_of_ne _ hl, isDirectory]

theorem node?_put_of_link (node : Node) {l : Location} {target : List UInt8}
    (hlink : fs.node? l = some (.link target)) :
    (fs.put loc node).node? l = some (.link target) := by
  have hne : l ≠ loc := by
    rintro rfl
    rcases h with h | ⟨content, h⟩ <;> cases hlink.symm.trans h
  rwa [fs.node?_put_of_ne node hne]

end TakesFile

/-! ### Paths -/

theorem Leads.node?_of_vacant {fs : FileSystem} {purpose : Purpose} {links : Nat}
    {start loc : Location} {parts : List PathPart}
    (h : fs.Leads purpose links start parts (.vacant loc)) :
    fs.node? loc = none ∧ fs.isDirectory loc.tail = true := by
  generalize hplace : Place.vacant loc = place at h
  induction h with
  | arrived | keep => cases hplace
  | vacant links hdir hnode =>
    cases hplace
    exact ⟨hnode, hdir⟩
  | here hdir h ih | slash hdir h ih | up hdir h ih | enter hdir hask hnode hlink h ih
  | follow hdir hask hkeep hnode hp h ih => exact ih hplace

/-- **A path that leads somewhere leads there still** when a file is put where nothing but a file
lay.  If nothing lay at the end of the path, the file must be put right there. -/
theorem Leads.put {fs : FileSystem} {loc : Location} (hfile : fs.TakesFile loc)
    (content : List UInt8) {purpose : Purpose} {links : Nat} {start : Location}
    {parts : List PathPart} {place : Place} (h : fs.Leads purpose links start parts place)
    (hplace : ∀ l, place = .vacant l → l = loc) :
    (fs.put loc (.file content)).Leads purpose links start parts (.found place.location) := by
  have hdir' {l : Location} (hdir : fs.isDirectory l = true) :
      (fs.put loc (.file content)).isDirectory l = true :=
    (hfile.isDirectory_put content l).trans hdir
  induction h with
  | arrived links l => exact .arrived links l
  | here hdir h ih => exact .here (hdir' hdir) (ih hplace)
  | slash hdir h ih => exact .slash (hdir' hdir) (ih hplace)
  | up hdir h ih => exact .up (hdir' hdir) (ih hplace)
  | @vacant links l n hdir hnode =>
    have hloc : n :: l = loc := hplace _ rfl
    have hnew : (fs.put loc (.file content)).node? (n :: l) = some (.file content) := by
      rw [hloc]
      exact fs.node?_put_self _ hfile.ne_nil
    exact .enter (hdir' hdir) nofun hnew nofun (.arrived links (n :: l))
  | @enter links l n rest place node hdir hask hnode hlink h ih =>
    by_cases hloc : n :: l = loc
    · have hnew : (fs.put loc (.file content)).node? (n :: l) = some (.file content) := by
        rw [hloc]
        exact fs.node?_put_self _ hfile.ne_nil
      exact .enter (hdir' hdir) hask hnew nofun (ih hplace)
    · have hold := (fs.node?_put_of_ne (.file content) hloc).trans hnode
      exact .enter (hdir' hdir) hask hold hlink (ih hplace)
  | keep links hdir hkeep hnode =>
    exact .keep links (hdir' hdir) hkeep (hfile.node?_put_of_link _ hnode)
  | follow hdir hask hkeep hnode hp h ih =>
    exact .follow (hdir' hdir) hask hkeep (hfile.node?_put_of_link _ hnode) hp
      (ih hplace)

section

variable {fs fs' : FileSystem} {loc : Location} {path content : List UInt8}

theorem resolve_put (hfile : fs.TakesFile loc) (content : List UInt8) {purpose : Purpose}
    {place : Place} (h : fs.resolve purpose path = .ok place)
    (hplace : ∀ l, place = .vacant l → l = loc) :
    (fs.put loc (.file content)).resolve purpose path = .ok (.found place.location) := by
  obtain ⟨p, hp, hleads⟩ := resolve_eq_ok_iff.mp h
  exact resolve_eq_ok_iff.mpr ⟨p, hp, hleads.put hfile content hplace⟩

theorem locate_put (hfile : fs.TakesFile loc) (content : List UInt8) {l : Location}
    (h : fs.locate path = .ok l) : (fs.put loc (.file content)).locate path = .ok l :=
  locate_eq_ok_iff.mpr (resolve_put hfile content (locate_eq_ok_iff.mp h) nofun)

/-! ### Writing -/

theorem target_eq_ok_iff :
    fs.target path = .ok loc ↔ fs.resolve .create path = .ok (.vacant loc) ∨
      (fs.resolve .create path = .ok (.found loc) ∧
        ∃ content, fs.node? loc = some (.file content)) := by
  rw [target]
  cases fs.resolve .create path with
  | error e => simp
  | ok place =>
    cases place with
    | vacant l => simp
    | found l =>
      simp only [Except.ok.injEq, reduceCtorEq, false_or, Place.found.injEq]
      constructor
      · split
        · next content hnode =>
          intro h
          cases h
          exact ⟨rfl, content, hnode⟩
        · nofun
      · rintro ⟨rfl, content, hnode⟩
        rw [hnode]

/-- Where a file is written by a path: over the file that the path leads to, or as a new file in a
directory, if the path leads to nothing there. -/
def WritesTo (fs : FileSystem) (path : List UInt8) (loc : Location) : Prop :=
  (fs.resolve .find path = .ok (.found loc) ∧ ∃ old, fs.node? loc = some (.file old)) ∨
    (fs.resolve .find path = .ok (.vacant loc) ∧ fs.node? loc = none ∧
      fs.isDirectory loc.tail = true)

theorem node?_of_resolve_vacant {purpose : Purpose}
    (h : fs.resolve purpose path = .ok (.vacant loc)) :
    fs.node? loc = none ∧ fs.isDirectory loc.tail = true := by
  obtain ⟨p, _, hleads⟩ := resolve_eq_ok_iff.mp h
  exact hleads.node?_of_vacant

theorem takesFile_of_target (h : fs.target path = .ok loc) : fs.TakesFile loc := by
  rcases target_eq_ok_iff.mp h with h | ⟨_, hfile⟩
  · exact Or.inl (node?_of_resolve_vacant h).1
  · exact Or.inr hfile

theorem writesTo_of_target (h : fs.target path = .ok loc) : fs.WritesTo path loc := by
  rcases target_eq_ok_iff.mp h with h | ⟨h, hfile⟩
  · exact Or.inr ⟨resolve_find_of_create h, node?_of_resolve_vacant h⟩
  · exact Or.inl ⟨resolve_find_of_create h, hfile⟩

/-- A path that a file was written by leads to that file. -/
theorem resolve_put_of_target (h : fs.target path = .ok loc) (content : List UInt8) :
    (fs.put loc (.file content)).resolve .create path = .ok (.found loc) := by
  have hfile := takesFile_of_target h
  rcases target_eq_ok_iff.mp h with h | ⟨h, _⟩
  · exact resolve_put hfile content h fun l hl => (Place.vacant.inj hl).symm
  · exact resolve_put hfile content h nofun

theorem target_put (h : fs.target path = .ok loc) (content : List UInt8) :
    (fs.put loc (.file content)).target path = .ok loc :=
  target_eq_ok_iff.mpr (Or.inr ⟨resolve_put_of_target h content, content,
    fs.node?_put_self _ (takesFile_of_target h).ne_nil⟩)

theorem locate_put_of_target (h : fs.target path = .ok loc) (content : List UInt8) :
    (fs.put loc (.file content)).locate path = .ok loc :=
  locate_eq_ok_iff.mpr (resolve_find_of_create (resolve_put_of_target h content))

theorem write_of_target (h : fs.target path = .ok loc) (content : List UInt8) :
    fs.write path content = .ok (fs.put loc (.file content)) := by
  rw [write, h]
  rfl

theorem write_eq_ok_iff :
    fs.write path content = .ok fs' ↔
      ∃ loc, fs.target path = .ok loc ∧ fs' = fs.put loc (.file content) := by
  rw [write]
  cases fs.target path <;> simp [Except.map, eq_comm]

structure DiffersInFile (fs fs' : FileSystem) (loc : Location) (content : List UInt8) : Prop where
  file : fs'.node? loc = some (.file content)
  others : ∀ l, l ≠ loc → fs'.node? l = fs.node? l
  workingDirectory : fs'.workingDirectory = fs.workingDirectory

theorem TakesFile.differsInFile (h : fs.TakesFile loc) (content : List UInt8) :
    DiffersInFile fs (fs.put loc (.file content)) loc content where
  file := fs.node?_put_self _ h.ne_nil
  others := fun _ hne => fs.node?_put_of_ne _ hne
  workingDirectory := rfl

/-- **A write changes one file**, which is the one that the path leads to from then on. -/
theorem write_spec (h : fs.write path content = .ok fs') :
    ∃ loc, fs.WritesTo path loc ∧ DiffersInFile fs fs' loc content ∧ fs'.locate path = .ok loc ∧
      fs'.read? path = some content := by
  obtain ⟨loc, htarget, rfl⟩ := write_eq_ok_iff.mp h
  have hdiffers := (takesFile_of_target htarget).differsInFile content
  have hlocate := locate_put_of_target htarget content
  refine ⟨loc, writesTo_of_target htarget, hdiffers, hlocate, ?_⟩
  rw [read?, hlocate]
  simp only [hdiffers.file]

/-- **The last write counts.** -/
theorem write_write (h : fs.write path content = .ok fs') (next : List UInt8) :
    fs'.write path next = fs.write path next := by
  obtain ⟨loc, htarget, rfl⟩ := write_eq_ok_iff.mp h
  rw [write, write, target_put htarget, htarget]
  exact congrArg Except.ok (put_put fs loc _ _)

end

end Paging.FileSystem
