import Mathlib.Data.List.Sort
import Paging.AppTable.Pack
import Paging.Proofs.FileSystem.Listing
import Paging.Proofs.Text.Utf8

/-!
# The applications of a directory

`collectAt` goes through a listing, leaves out what is hidden, passes over what is no file and stops
at a file whose name is not UTF-8.  `Collected` says what has to come of it in terms of the view of
the file system alone: which files count, in which order they stand, and which of them is told when
one has no name.  `collectAt_eq_iff` joins the two.
-/

namespace Paging.AppTable

open Text

/-- A name that is a text and begins with a dot. -/
def Hidden (name : FileName) : Prop := ∃ t, Utf8.encode t = name ∧ t.toList.head? = some '.'

theorem isHidden_iff {name : FileName} : isHidden name = true ↔ Hidden name := by
  simp only [Hidden, ← Utf8.decode?_eq_some_iff]
  rw [isHidden]
  cases Utf8.decode? name with
  | none => simp
  | some t => simp

def IsMember (fs : FileSystem) (loc : Location) (name : FileName) (size : Nat) : Prop :=
  (∃ content, fs.node? (name :: loc) = some (.file content) ∧ content.length = size) ∧
    ¬ Hidden name

/-! ### Names and sizes in order -/

def Shows (entries : List (FileName × Option Nat)) (name : FileName) (size : Nat) : Prop :=
  (name, some size) ∈ entries ∧ ¬ Hidden name

def Ascending (apps : List App) : Prop :=
  apps.Pairwise fun a b => Utf8.encode a.name < Utf8.encode b.name

def AreAll (apps : List App) (counts : FileName → Nat → Prop) : Prop :=
  ∀ name size, counts name size ↔ ∃ a ∈ apps, Utf8.encode a.name = name ∧ a.size = size

/-- Of the names that count this is the first that is no text. -/
structure FirstUnnamed (name : FileName) (counts : FileName → Nat → Prop) : Prop where
  counted : ∃ size, counts name size
  notText : ¬ Utf8.IsText name
  first : ∀ other size, counts other size → ¬ Utf8.IsText other → name ≤ other

inductive Found (counts : FileName → Nat → Prop) : Except PackError (List App) → Prop
  | apps {apps : List App} (hall : AreAll apps counts) (hasc : Ascending apps) :
      Found counts (.ok apps)
  | unnamed {name : FileName} (h : FirstUnnamed name counts) : Found counts (.error (.name name))

theorem shows_cons {name n : FileName} {o : Option Nat} {size : Nat}
    {rest : List (FileName × Option Nat)} :
    Shows ((n, o) :: rest) name size ↔
      (name = n ∧ o = some size ∧ ¬ Hidden n) ∨ Shows rest name size := by
  rw [Shows, Shows, List.mem_cons, Prod.mk.injEq]
  constructor
  · rintro ⟨⟨rfl, rfl⟩ | hmem, hshown⟩
    · exact Or.inl ⟨rfl, rfl, hshown⟩
    · exact Or.inr ⟨hmem, hshown⟩
  · rintro (⟨rfl, rfl, hshown⟩ | ⟨hmem, hshown⟩)
    · exact ⟨Or.inl ⟨rfl, rfl⟩, hshown⟩
    · exact ⟨Or.inr hmem, hshown⟩

theorem findingsOf_cons (n : FileName) (o : Option Nat) (rest : List (FileName × Option Nat)) :
    findingsOf ((n, o) :: rest) =
      if isHidden n then findingsOf rest else .of n o :: findingsOf rest := by
  rw [findingsOf, List.filter_cons]
  cases isHidden n <;> rfl

/-- One more name that does not count changes nothing. -/
theorem Found.cons_of_not {n : FileName} {o : Option Nat} {rest : List (FileName × Option Nat)}
    {r : Except PackError (List App)} (hr : Found (Shows rest) r)
    (hno : ∀ size, ¬ (o = some size ∧ ¬ Hidden n)) : Found (Shows ((n, o) :: rest)) r := by
  have hsame : Shows ((n, o) :: rest) = Shows rest := by
    funext name size
    refine propext (shows_cons.trans ⟨fun h => ?_, Or.inr⟩)
    rcases h with ⟨_, hsome, hshown⟩ | h
    · exact absurd ⟨hsome, hshown⟩ (hno size)
    · exact h
  rwa [hsame]

section

variable {n : FileName} {size : Nat} {rest : List (FileName × Option Nat)}
  (hn : ∀ e ∈ rest, n < e.1) (hshown : ¬ Hidden n)

include hn hshown

/-- A file ahead of all others whose name is a text is one more application, ahead of all others. -/
theorem Found.cons_of_text {t : String} (ht : Utf8.encode t = n)
    {r : Except PackError (List App)} (hr : Found (Shows rest) r) :
    Found (Shows ((n, some size) :: rest)) (r.map (⟨t, size⟩ :: ·)) := by
  cases hr with
  | @apps apps hall hasc =>
    refine .apps (fun name k => ?_) (List.pairwise_cons.mpr ⟨fun a ha => ?_, hasc⟩)
    · rw [shows_cons, hall name k]
      constructor
      · rintro (⟨rfl, hk, _⟩ | ⟨a, ha, hname, hk⟩)
        · exact ⟨⟨t, size⟩, List.mem_cons_self, ht, Option.some.inj hk⟩
        · exact ⟨a, List.mem_cons_of_mem _ ha, hname, hk⟩
      · rintro ⟨a, ha, hname, hk⟩
        rcases List.mem_cons.mp ha with rfl | ha
        · exact Or.inl ⟨hname.symm.trans ht, congrArg some hk, hshown⟩
        · exact Or.inr ⟨a, ha, hname, hk⟩
    · obtain ⟨hmem, _⟩ := (hall _ _).mpr ⟨a, ha, rfl, rfl⟩
      show Utf8.encode t < _
      rw [ht]
      exact hn _ hmem
  | @unnamed name h =>
    obtain ⟨k, hk⟩ := h.counted
    refine .unnamed ⟨⟨k, shows_cons.mpr (Or.inr hk)⟩, h.notText, fun other k' hother hnot => ?_⟩
    rcases shows_cons.mp hother with ⟨rfl, _, _⟩ | hother
    · exact absurd ⟨t, ht⟩ hnot
    · exact h.first other k' hother hnot

/-- A file ahead of all others whose name is no text is the one that is told. -/
theorem Found.cons_of_not_text (hnot : ¬ Utf8.IsText n) :
    Found (Shows ((n, some size) :: rest)) (.error (.name n)) := by
  refine .unnamed ⟨⟨size, shows_cons.mpr (Or.inl ⟨rfl, rfl, hshown⟩)⟩, hnot, ?_⟩
  intro other k hother _
  rcases shows_cons.mp hother with ⟨rfl, _, _⟩ | hother
  · exact List.le_refl _
  · exact Std.le_of_lt (hn _ hother.1)

end

/-- **What is found among names and sizes in ascending order**, by induction from the last name to
the first. -/
theorem found_findingsOf {entries : List (FileName × Option Nat)}
    (h : entries.Pairwise fun a b => a.1 < b.1) :
    Found (Shows entries) (Finding.apps (findingsOf entries)) := by
  induction entries with
  | nil => exact .apps (fun name size => by simp [Shows]) List.Pairwise.nil
  | cons e rest ih =>
    obtain ⟨n, o⟩ := e
    obtain ⟨hn, hrest⟩ := List.pairwise_cons.mp h
    have hfound := ih hrest
    rw [findingsOf_cons]
    by_cases hhid : Hidden n
    · rw [if_pos (isHidden_iff.mpr hhid)]
      exact hfound.cons_of_not fun size hcount => hcount.2 hhid
    · rw [if_neg (isHidden_iff.not.mpr hhid)]
      cases o with
      | none =>
        refine hfound.cons_of_not ?_
        intro size hcount
        cases hcount.1
      | some size =>
        rw [Finding.of]
        cases ht : Utf8.decode? n with
        | none => exact Found.cons_of_not_text hn hhid (Utf8.decode?_eq_none_iff.mp ht)
        | some t => exact Found.cons_of_text hn hhid (Utf8.decode?_eq_some_iff.mp ht) hfound

/-! ### Only one result -/

theorem AreAll.mem_iff {apps : List App} {counts : FileName → Nat → Prop} (h : AreAll apps counts)
    (a : App) : a ∈ apps ↔ counts (Utf8.encode a.name) a.size := by
  rw [h]
  constructor
  · intro ha
    exact ⟨a, ha, rfl, rfl⟩
  · rintro ⟨b, hb, hname, hsize⟩
    obtain ⟨name, size⟩ := a
    obtain ⟨name', size'⟩ := b
    have hname : name' = name := Utf8.encode_injective hname
    have hsize : size' = size := hsize
    rwa [hname, hsize] at hb

theorem AreAll.isText {apps : List App} {counts : FileName → Nat → Prop} (h : AreAll apps counts)
    {name : FileName} {size : Nat} (hcounts : counts name size) : Utf8.IsText name := by
  obtain ⟨a, _, hname, _⟩ := (h name size).mp hcounts
  exact ⟨a.name, hname⟩

/-- Ascending applications are determined by which they are. -/
theorem Ascending.eq_of_mem_iff {apps apps' : List App} (h : Ascending apps)
    (h' : Ascending apps') (hmem : ∀ a, a ∈ apps ↔ a ∈ apps') : apps = apps' := by
  have hirrefl : Std.Irrefl fun a b : App => Utf8.encode a.name < Utf8.encode b.name :=
    ⟨fun a => List.lt_irrefl _⟩
  have hantisymm : Std.Antisymm fun a b : App => Utf8.encode a.name < Utf8.encode b.name :=
    ⟨fun a b hab hba => absurd hba (List.lt_asymm hab)⟩
  exact List.Pairwise.eq_of_mem_iff h h' hmem

/-- **What counts determines what is found.** -/
theorem Found.unique {counts : FileName → Nat → Prop} {r r' : Except PackError (List App)}
    (h : Found counts r) (h' : Found counts r') : r = r' := by
  cases h with
  | apps hall hasc =>
    cases h' with
    | apps hall' hasc' =>
      rw [hasc.eq_of_mem_iff hasc' fun a => by rw [hall.mem_iff, hall'.mem_iff]]
    | unnamed hfirst =>
      obtain ⟨size, hsize⟩ := hfirst.counted
      exact absurd (hall.isText hsize) hfirst.notText
  | unnamed hfirst =>
    cases h' with
    | apps hall' hasc' =>
      obtain ⟨size, hsize⟩ := hfirst.counted
      exact absurd (hall'.isText hsize) hfirst.notText
    | unnamed hfirst' =>
      obtain ⟨size, hsize⟩ := hfirst.counted
      obtain ⟨size', hsize'⟩ := hfirst'.counted
      have heq := List.le_antisymm (hfirst.first _ _ hsize' hfirst'.notText)
        (hfirst'.first _ _ hsize hfirst.notText)
      rw [heq]

/-! ### Directories -/

/-- What comes of a directory at the end of a path, of anything else there, and of a path that
leads nowhere. -/
inductive Collected (fs : FileSystem) (dir : List UInt8) : Except PackError (List App) → Prop
  | directory {loc : Location} {r : Except PackError (List App)} (hloc : fs.locate dir = .ok loc)
      (hdir : fs.isDirectory loc = true) (h : Found (IsMember fs loc) r) : Collected fs dir r
  | other {loc : Location} (hloc : fs.locate dir = .ok loc) (hdir : fs.isDirectory loc = false) :
      Collected fs dir (.ok [])
  | unresolved {e : PathError} (h : fs.locate dir = .error e) :
      Collected fs dir (.error (.listing (Utf8.decodeLossy dir) e))

/-- The sizes of a listing are those of the files in it. -/
theorem shows_sizes {entries : List (FileName × Node)} {name : FileName} {size : Nat} :
    Shows (entries.map fun e => (e.1, e.2.size?)) name size ↔
      (∃ content, (name, .file content) ∈ entries ∧ content.length = size) ∧ ¬ Hidden name := by
  rw [Shows, List.mem_map]
  refine and_congr_left fun _ => ⟨?_, ?_⟩
  · rintro ⟨⟨n, node⟩, hmem, hpair⟩
    obtain ⟨rfl, hsize⟩ := Prod.mk.inj hpair
    cases node with
    | directory => cases hsize
    | link target => cases hsize
    | file content => exact ⟨content, hmem, Option.some.inj hsize⟩
  · rintro ⟨content, hmem, rfl⟩
    exact ⟨(name, .file content), hmem, rfl⟩

theorem collected_collectAt (fs : FileSystem) (dir : List UInt8) :
    Collected fs dir (collectAt fs dir) := by
  cases hloc : fs.locate dir with
  | error e =>
    have hlist : fs.list dir = .error e := by
      rw [FileSystem.list, hloc]
      rfl
    rw [collectAt, findings, hlist]
    exact .unresolved hloc
  | ok loc =>
    obtain ⟨entries, hlist, hasc, hmem⟩ := FileSystem.list_spec hloc
    rw [collectAt, findings, hlist]
    cases hdir : fs.isDirectory loc with
    | true =>
      have hsame : Shows (entries.map fun e => (e.1, e.2.size?)) = IsMember fs loc := by
        funext name size
        refine propext (shows_sizes.trans ?_)
        simp only [hmem, hdir, true_and, IsMember]
      exact .directory hloc hdir (hsame ▸ found_findingsOf (List.pairwise_map.mpr hasc))
    | false =>
      have hempty : entries = [] := by
        rw [List.eq_nil_iff_forall_not_mem]
        rintro ⟨name, node⟩ he
        have hdir' := ((hmem name node).mp he).1
        rw [hdir] at hdir'
        cases hdir'
      rw [hempty]
      exact .other hloc hdir

theorem Collected.unique {fs : FileSystem} {dir : List UInt8} {r r' : Except PackError (List App)}
    (h : Collected fs dir r) (h' : Collected fs dir r') : r = r' := by
  cases h with
  | directory hloc hdir hfound =>
    cases h' with
    | directory hloc' hdir' hfound' =>
      cases hloc.symm.trans hloc'
      exact hfound.unique hfound'
    | other hloc' hdir' =>
      cases hloc.symm.trans hloc'
      exact absurd (hdir.symm.trans hdir') Bool.noConfusion
    | unresolved herror => cases hloc.symm.trans herror
  | other hloc hdir =>
    cases h' with
    | directory hloc' hdir' hfound' =>
      cases hloc.symm.trans hloc'
      exact absurd (hdir'.symm.trans hdir) Bool.noConfusion
    | other hloc' hdir' => rfl
    | unresolved herror => cases hloc.symm.trans herror
  | unresolved herror =>
    cases h' with
    | directory hloc' hdir' hfound' => cases hloc'.symm.trans herror
    | other hloc' hdir' => cases hloc'.symm.trans herror
    | unresolved herror' =>
      cases herror.symm.trans herror'
      rfl

/-- What is collected in a directory is found among its members. -/
theorem found_collectAt {fs : FileSystem} {dir : List UInt8} {loc : Location}
    (hloc : fs.locate dir = .ok loc) (hdir : fs.isDirectory loc = true) :
    Found (IsMember fs loc) (collectAt fs dir) := by
  have hcollected := collected_collectAt fs dir
  generalize collectAt fs dir = r at hcollected ⊢
  cases hcollected with
  | directory hplace hkind hfound =>
    cases hloc.symm.trans hplace
    exact hfound
  | other hplace hkind =>
    cases hloc.symm.trans hplace
    exact absurd (hdir.symm.trans hkind) Bool.noConfusion
  | unresolved herror => cases hloc.symm.trans herror

/-- Only the place counts that a path leads to, and of that only which files lie there. -/
theorem Collected.of_same_members {fs fs' : FileSystem} {dir dir' : List UInt8}
    {loc loc' : Location} (hloc : fs.locate dir = .ok loc) (hloc' : fs'.locate dir' = .ok loc')
    (hdir : fs.isDirectory loc = fs'.isDirectory loc')
    (hmembers : ∀ name size, IsMember fs loc name size ↔ IsMember fs' loc' name size)
    {r : Except PackError (List App)} (h : Collected fs dir r) : Collected fs' dir' r := by
  have hsame : IsMember fs loc = IsMember fs' loc' :=
    funext fun name => funext fun size => propext (hmembers name size)
  cases h with
  | directory hplace hkind hfound =>
    cases hloc.symm.trans hplace
    exact .directory hloc' (hdir ▸ hkind) (hsame ▸ hfound)
  | other hplace hkind =>
    cases hloc.symm.trans hplace
    exact .other hloc' (hdir ▸ hkind)
  | unresolved herror => cases hloc.symm.trans herror

/-- **What is collected is what the files in the directory come to**, whatever else lies in it.  A
path that leads nowhere is told in the error, and of all other paths only the place counts that they
lead to. -/
theorem collectAt_eq_iff (fs : FileSystem) (dir : List UInt8) :
    (∀ r, collectAt fs dir = r ↔ Collected fs dir r) ∧
    (∀ e, fs.locate dir = .error e → (collectAt fs dir).mapError PackError.message =
      .error ("failed to list " ++ Utf8.decodeLossy dir)) ∧
    (∀ t, Utf8.encode t = dir → collect fs t = collectAt fs dir ∧ Utf8.decodeLossy dir = t) ∧
    ∀ (fs' : FileSystem) (dir' : List UInt8) (loc loc' : Location),
      fs.locate dir = .ok loc → fs'.locate dir' = .ok loc' →
      fs.isDirectory loc = fs'.isDirectory loc' →
      (∀ name size, IsMember fs loc name size ↔ IsMember fs' loc' name size) →
      collectAt fs dir = collectAt fs' dir' := by
  have hiff (r : Except PackError (List App)) : collectAt fs dir = r ↔ Collected fs dir r :=
    ⟨fun h => h ▸ collected_collectAt fs dir, fun h => (collected_collectAt fs dir).unique h⟩
  refine ⟨hiff, fun e he => ?_, ?_, ?_⟩
  · rw [(hiff _).mpr (.unresolved he)]
    rfl
  · rintro t rfl
    exact ⟨rfl, Utf8.decodeLossy_encode t⟩
  · intro fs' dir' loc loc' hloc hloc' hdir hmembers
    have hresult := (collected_collectAt fs dir).of_same_members hloc hloc' hdir hmembers
    exact hresult.unique (collected_collectAt fs' dir')

-- The directory `d` with the files `a` and `b`, reached through a link with a hidden name.
example :
    let root := FileSystem.empty [0x77]
    let fs := (((root.put [[0x64], [0x77]] .directory).put
        [[0x62], [0x64], [0x77]] (.file [0, 0])).put [[0x61], [0x64], [0x77]] (.file [0])).put
      [[0x2E, 0x6C], [0x77]] (.link [0x64])
    collect fs ".l" = .ok [⟨"a", 1⟩, ⟨"b", 2⟩] := by cbv

end Paging.AppTable
