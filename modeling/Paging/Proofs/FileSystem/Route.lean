import Paging.FileSystem.Resolve

/-!
# Where paths lead

`walk` goes along a path part by part, and starts over with fewer links at each link.  `Leads` says
the same as a relation between where a path starts and where it ends, one constructor for each kind
of part, and `leads_iff` joins the two.  What is shown of a path by induction on `Leads` needs no
look at the order in which `walk` does things.
-/

namespace Paging

def Place.location : Place → Location
  | found loc => loc
  | vacant loc => loc

namespace FileSystem

/-- A name with the parts after it that asks for a file to be written where a directory is meant. -/
def AsksDirectory (purpose : Purpose) (rest : List PathPart) : Prop :=
  purpose = .create ∧ rest = [.slash]

instance (purpose : Purpose) (rest : List PathPart) : Decidable (AsksDirectory purpose rest) :=
  inferInstanceAs (Decidable (purpose = .create ∧ rest = [.slash]))

/-- A link that is looked at itself and not followed. -/
def KeepsLink (purpose : Purpose) (rest : List PathPart) : Prop :=
  purpose = .inspect ∧ rest = []

instance (purpose : Purpose) (rest : List PathPart) : Decidable (KeepsLink purpose rest) :=
  inferInstanceAs (Decidable (purpose = .inspect ∧ rest = []))

theorem KeepsLink.not_asksDirectory {purpose : Purpose} {rest : List PathPart}
    (h : KeepsLink purpose rest) : ¬ AsksDirectory purpose rest := by
  rintro ⟨rfl, -⟩
  cases h.1

/-- The parts lead from a location to a place, with at most so many links followed. -/
inductive Leads (fs : FileSystem) (purpose : Purpose) :
    Nat → Location → List PathPart → Place → Prop
  | arrived (links : Nat) (loc : Location) : Leads fs purpose links loc [] (.found loc)
  | here {links : Nat} {loc : Location} {rest : List PathPart} {place : Place}
      (hdir : fs.isDirectory loc = true) (h : Leads fs purpose links loc rest place) :
      Leads fs purpose links loc (.here :: rest) place
  | slash {links : Nat} {loc : Location} {rest : List PathPart} {place : Place}
      (hdir : fs.isDirectory loc = true) (h : Leads fs purpose links loc rest place) :
      Leads fs purpose links loc (.slash :: rest) place
  | up {links : Nat} {loc : Location} {rest : List PathPart} {place : Place}
      (hdir : fs.isDirectory loc = true) (h : Leads fs purpose links loc.tail rest place) :
      Leads fs purpose links loc (.up :: rest) place
  | vacant (links : Nat) {loc : Location} {n : FileName} (hdir : fs.isDirectory loc = true)
      (hnode : fs.node? (n :: loc) = none) :
      Leads fs purpose links loc [.name n] (.vacant (n :: loc))
  | enter {links : Nat} {loc : Location} {n : FileName} {rest : List PathPart} {place : Place}
      {node : Node} (hdir : fs.isDirectory loc = true) (hask : ¬ AsksDirectory purpose rest)
      (hnode : fs.node? (n :: loc) = some node) (hlink : ∀ target, node ≠ .link target)
      (h : Leads fs purpose links (n :: loc) rest place) :
      Leads fs purpose links loc (.name n :: rest) place
  | keep (links : Nat) {loc : Location} {n : FileName} {rest : List PathPart}
      {target : List UInt8} (hdir : fs.isDirectory loc = true) (hkeep : KeepsLink purpose rest)
      (hnode : fs.node? (n :: loc) = some (.link target)) :
      Leads fs purpose links loc (.name n :: rest) (.found (n :: loc))
  | follow {links : Nat} {loc : Location} {n : FileName} {rest : List PathPart} {place : Place}
      {target : List UInt8} {p : Path} (hdir : fs.isDirectory loc = true)
      (hask : ¬ AsksDirectory purpose rest) (hkeep : ¬ KeepsLink purpose rest)
      (hnode : fs.node? (n :: loc) = some (.link target)) (hp : Path.parse? target = some p)
      (h : Leads fs purpose links (p.start loc) (p.parts ++ rest) place) :
      Leads fs purpose (links + 1) loc (.name n :: rest) place

section

variable {fs : FileSystem} {purpose : Purpose}

/-! ### One part of a path -/

def follow (fs : FileSystem) (purpose : Purpose) (links : Nat) (loc : Location)
    (target : List UInt8) (rest : List PathPart) : Except PathError Place :=
  match links with
  | 0 => .error .tooManyLinks
  | links + 1 =>
    match Path.parse? target with
    | none => .error .noEntry
    | some p => fs.walk purpose links (p.start loc) (p.parts ++ rest)

theorem walk_nil (links : Nat) (loc : Location) :
    fs.walk purpose links loc [] = .ok (.found loc) := by
  cases links <;> rfl

theorem walk_cons_of_not_directory (links : Nat) {loc : Location} (part : PathPart)
    (rest : List PathPart) (h : ¬ fs.isDirectory loc = true) :
    fs.walk purpose links loc (part :: rest) = .error .notDirectory := by
  cases links <;> exact if_neg h

section

variable (links : Nat) {loc : Location} (n : FileName) (rest : List PathPart)
  (hdir : fs.isDirectory loc = true)

include hdir

theorem walk_here : fs.walk purpose links loc (.here :: rest) = fs.walk purpose links loc rest := by
  cases links <;> exact if_pos hdir

theorem walk_slash :
    fs.walk purpose links loc (.slash :: rest) = fs.walk purpose links loc rest := by
  cases links <;> exact if_pos hdir

theorem walk_up :
    fs.walk purpose links loc (.up :: rest) = fs.walk purpose links loc.tail rest := by
  cases links <;> exact if_pos hdir

theorem walk_name :
    fs.walk purpose links loc (.name n :: rest) =
      if AsksDirectory purpose rest then .error .isDirectory
      else
        match fs.node? (n :: loc) with
        | none => if rest = [] then .ok (.vacant (n :: loc)) else .error .noEntry
        | some (.link target) =>
          if KeepsLink purpose rest then .ok (.found (n :: loc))
          else fs.follow purpose links loc target rest
        | some _ => fs.walk purpose links (n :: loc) rest := by
  cases links <;> exact if_pos hdir

end

theorem follow_eq_ok_iff {links : Nat} {loc : Location} {target : List UInt8}
    {rest : List PathPart} {place : Place} :
    fs.follow purpose links loc target rest = .ok place ↔
      ∃ k p, links = k + 1 ∧ Path.parse? target = some p ∧
        fs.walk purpose k (p.start loc) (p.parts ++ rest) = .ok place := by
  cases links with
  | zero => simp [follow]
  | succ k =>
    rw [follow]
    cases hp : Path.parse? target <;> simp

/-- **What comes of a name**: it is free, or something lies there that is gone through, or a link
does that is kept or followed. -/
theorem walk_name_eq_ok_iff {links : Nat} {loc : Location} {n : FileName} {rest : List PathPart}
    {place : Place} (hdir : fs.isDirectory loc = true) :
    fs.walk purpose links loc (.name n :: rest) = .ok place ↔ ¬ AsksDirectory purpose rest ∧
      ((fs.node? (n :: loc) = none ∧ rest = [] ∧ place = .vacant (n :: loc)) ∨
        (∃ node, fs.node? (n :: loc) = some node ∧ (∀ target, node ≠ .link target) ∧
          fs.walk purpose links (n :: loc) rest = .ok place) ∨
        (∃ target, fs.node? (n :: loc) = some (.link target) ∧ KeepsLink purpose rest ∧
          place = .found (n :: loc)) ∨
        ∃ target, fs.node? (n :: loc) = some (.link target) ∧ ¬ KeepsLink purpose rest ∧
          fs.follow purpose links loc target rest = .ok place) := by
  rw [walk_name links n rest hdir]
  by_cases hask : AsksDirectory purpose rest
  · simp [hask]
  rw [if_neg hask, and_iff_right hask]
  cases hnode : fs.node? (n :: loc) with
  | none => by_cases hrest : rest = [] <;> simp [hrest, eq_comm]
  | some node =>
    cases node with
    | directory => simp
    | file content => simp
    | link target => by_cases hkeep : KeepsLink purpose rest <;> simp [hkeep, eq_comm]

/-! ### The relation -/

theorem leads_of_walk {links : Nat} {loc : Location} {parts : List PathPart} {place : Place}
    (h : fs.walk purpose links loc parts = .ok place) :
    fs.Leads purpose links loc parts place := by
  induction links using Nat.strongRecOn generalizing loc parts with
  | ind links ihlinks =>
    induction parts generalizing loc with
    | nil =>
      rw [walk_nil] at h
      cases h
      exact .arrived links loc
    | cons part rest ih =>
      by_cases hdir : fs.isDirectory loc = true
      · cases part with
        | here => exact .here hdir (ih (walk_here links rest hdir ▸ h))
        | slash => exact .slash hdir (ih (walk_slash links rest hdir ▸ h))
        | up => exact .up hdir (ih (walk_up links rest hdir ▸ h))
        | name n =>
          obtain ⟨hask, ⟨hnode, rfl, rfl⟩ | ⟨node, hnode, hlink, h⟩ | ⟨target, hnode, hkeep, rfl⟩ |
            ⟨target, hnode, hkeep, h⟩⟩ := (walk_name_eq_ok_iff hdir).mp h
          · exact .vacant links hdir hnode
          · exact .enter hdir hask hnode hlink (ih h)
          · exact .keep links hdir hkeep hnode
          · obtain ⟨k, p, rfl, hp, h⟩ := follow_eq_ok_iff.mp h
            exact .follow hdir hask hkeep hnode hp (ihlinks k (Nat.lt_succ_self k) h)
      · rw [walk_cons_of_not_directory links part rest hdir] at h
        cases h

theorem walk_of_leads {links : Nat} {loc : Location} {parts : List PathPart} {place : Place}
    (h : fs.Leads purpose links loc parts place) :
    fs.walk purpose links loc parts = .ok place := by
  induction h with
  | arrived links loc => exact walk_nil links loc
  | @here links loc rest place hdir h ih => rwa [walk_here links rest hdir]
  | @slash links loc rest place hdir h ih => rwa [walk_slash links rest hdir]
  | @up links loc rest place hdir h ih => rwa [walk_up links rest hdir]
  | vacant links hdir hnode =>
    exact (walk_name_eq_ok_iff hdir).mpr ⟨nofun, Or.inl ⟨hnode, rfl, rfl⟩⟩
  | enter hdir hask hnode hlink h ih =>
    exact (walk_name_eq_ok_iff hdir).mpr ⟨hask, Or.inr (Or.inl ⟨_, hnode, hlink, ih⟩)⟩
  | keep links hdir hkeep hnode =>
    exact (walk_name_eq_ok_iff hdir).mpr
      ⟨hkeep.not_asksDirectory, Or.inr (Or.inr (Or.inl ⟨_, hnode, hkeep, rfl⟩))⟩
  | @follow links loc n rest place target p hdir hask hkeep hnode hp h ih =>
    have hfollow := follow_eq_ok_iff.mpr ⟨links, p, rfl, hp, ih⟩
    exact (walk_name_eq_ok_iff hdir).mpr
      ⟨hask, Or.inr (Or.inr (Or.inr ⟨target, hnode, hkeep, hfollow⟩))⟩

/-- **The walk ends where the path leads.** -/
theorem leads_iff {links : Nat} {loc : Location} {parts : List PathPart} {place : Place} :
    fs.Leads purpose links loc parts place ↔ fs.walk purpose links loc parts = .ok place :=
  ⟨walk_of_leads, leads_of_walk⟩

theorem resolve_eq_ok_iff {path : List UInt8} {place : Place} :
    fs.resolve purpose path = .ok place ↔
      ∃ p, Path.parse? path = some p ∧
        fs.Leads purpose linkLimit (p.start fs.workingDirectory) p.parts place := by
  rw [resolve]
  cases Path.parse? path <;> simp [leads_iff]

theorem locate_eq_ok_iff {path : List UInt8} {loc : Location} :
    fs.locate path = .ok loc ↔ fs.resolve .find path = .ok (.found loc) := by
  rw [locate]
  split <;> simp_all

/-- A path along which a file can be written leads to the same place when it is only looked for. -/
theorem Leads.find_of_create {links : Nat} {loc : Location} {parts : List PathPart} {place : Place}
    (h : fs.Leads .create links loc parts place) : fs.Leads .find links loc parts place := by
  induction h with
  | arrived links loc => exact .arrived links loc
  | here hdir h ih => exact .here hdir ih
  | slash hdir h ih => exact .slash hdir ih
  | up hdir h ih => exact .up hdir ih
  | vacant links hdir hnode => exact .vacant links hdir hnode
  | enter hdir hask hnode hlink h ih => exact .enter hdir nofun hnode hlink ih
  | keep links hdir hkeep hnode => cases hkeep.1
  | follow hdir hask hkeep hnode hp h ih => exact .follow hdir nofun nofun hnode hp ih

theorem resolve_find_of_create {path : List UInt8} {place : Place}
    (h : fs.resolve .create path = .ok place) : fs.resolve .find path = .ok place := by
  obtain ⟨p, hp, hleads⟩ := resolve_eq_ok_iff.mp h
  exact resolve_eq_ok_iff.mpr ⟨p, hp, hleads.find_of_create⟩

end

end FileSystem

end Paging
