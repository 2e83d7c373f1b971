import Paging.Proofs.FileSystem.Write

/-!
# File systems that grow

Where more is put and nothing is taken away, a path that led to something leads to it still
(`Grows.leads`).  Only a path that led to a free place may lead further.
-/

namespace Paging.FileSystem

/-- All that lies in `fs` lies in `fs'` at the same place, and relative paths start where they
did. -/
structure Grows (fs fs' : FileSystem) : Prop where
  workingDirectory : fs'.workingDirectory = fs.workingDirectory
  kept : ∀ {loc : Location} {node : Node}, fs.node? loc = some node → fs'.node? loc = some node

namespace Grows

variable {fs fs' : FileSystem} (h : fs.Grows fs')

include h

theorem isDirectory {loc : Location} (hdir : fs.isDirectory loc = true) :
    fs'.isDirectory loc = true := by
  rw [FileSystem.isDirectory, beq_iff_eq] at hdir ⊢
  exact h.kept hdir

/-- **A path that leads to something leads to it still**, by induction on the way. -/
theorem leads {purpose : Purpose} {links : Nat} {start : Location} {parts : List PathPart}
    {place : Place} (hleads : fs.Leads purpose links start parts place)
    (hfound : ∀ loc, place ≠ .vacant loc) : fs'.Leads purpose links start parts place := by
  induction hleads with
  | arrived links loc => exact .arrived links loc
  | here hdir hrest ih => exact .here (h.isDirectory hdir) (ih hfound)
  | slash hdir hrest ih => exact .slash (h.isDirectory hdir) (ih hfound)
  | up hdir hrest ih => exact .up (h.isDirectory hdir) (ih hfound)
  | vacant links hdir hnode => exact absurd rfl (hfound _)
  | enter hdir hask hnode hlink hrest ih =>
    exact .enter (h.isDirectory hdir) hask (h.kept hnode) hlink (ih hfound)
  | keep links hdir hkeep hnode => exact .keep links (h.isDirectory hdir) hkeep (h.kept hnode)
  | follow hdir hask hkeep hnode hp hrest ih =>
    exact .follow (h.isDirectory hdir) hask hkeep (h.kept hnode) hp (ih hfound)

theorem locate {path : List UInt8} {loc : Location} (hloc : fs.locate path = .ok loc) :
    fs'.locate path = .ok loc := by
  rw [locate_eq_ok_iff, resolve_eq_ok_iff] at hloc ⊢
  obtain ⟨p, hp, hleads⟩ := hloc
  refine ⟨p, hp, ?_⟩
  rw [h.workingDirectory]
  apply h.leads hleads
  intro l hvacant
  cases hvacant

end Grows

theorem Grows.trans {fs fs' fs'' : FileSystem} (h : fs.Grows fs') (h' : fs'.Grows fs'') :
    fs.Grows fs'' where
  workingDirectory := h'.workingDirectory.trans h.workingDirectory
  kept := fun hnode => h'.kept (h.kept hnode)

/-- What is put where nothing lay takes nothing away. -/
theorem grows_put {fs : FileSystem} {loc : Location} (hfree : fs.node? loc = none) (node : Node) :
    fs.Grows (fs.put loc node) where
  workingDirectory := rfl
  kept := by
    intro l old hold
    have hne : l ≠ loc := by
      rintro rfl
      cases hfree.symm.trans hold
    rwa [fs.node?_put_of_ne node hne]

end Paging.FileSystem
