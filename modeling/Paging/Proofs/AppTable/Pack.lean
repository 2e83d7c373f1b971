import Mathlib.Data.List.Basic
import Paging.Proofs.AppTable.Collect
import Paging.Proofs.AppTable.Layout
import Paging.Proofs.FileSystem.Write

/-!
# Packing

Packing lists a directory and then writes one file.  What fails on the way fails before anything is
written (`packing_spec`).

The file that is written may lie in the directory that is listed.  `FeedsBack` says when the next
listing has something new because of it, and `packing_again_iff` that nothing else keeps a second
run from leaving everything as it is.
-/

namespace Paging.AppTable

open Text

variable {fs fs' : FileSystem} {dir out : List UInt8} {apps : List App}

/-! ### One run -/

theorem packing_of_collectAt (out : List UInt8) (h : collectAt fs dir = .ok apps) :
    packing dir out fs =
      match fs.write out (table dir apps) with
      | .ok fs' => .ok apps fs'
      | .error e => .error (.writing (Utf8.decodeLossy out) e) fs := by
  simp only [packing, bind, EStateM.bind, Action.collect, h, Action.write]
  cases fs.write out (table dir apps) <;> rfl

theorem packing_of_collectAt_error (out : List UInt8) {e : PackError}
    (h : collectAt fs dir = .error e) : packing dir out fs = .error e fs := by
  simp only [packing, bind, EStateM.bind, Action.collect, h]

theorem packing_eq_ok_iff :
    packing dir out fs = .ok apps fs' ↔
      collectAt fs dir = .ok apps ∧ fs.write out (table dir apps) = .ok fs' := by
  cases hlist : collectAt fs dir with
  | error e => simp [packing_of_collectAt_error out hlist]
  | ok listed =>
    rw [packing_of_collectAt out hlist, Except.ok.injEq]
    constructor
    · intro h
      cases hwrite : fs.write out (table dir listed) with
      | error cause => simp [hwrite] at h
      | ok written =>
        simp only [hwrite, EStateM.Result.ok.injEq] at h
        obtain ⟨rfl, rfl⟩ := h
        exact ⟨rfl, hwrite⟩
    · rintro ⟨rfl, hwrite⟩
      rw [hwrite]

theorem packing_eq_error_iff {e : PackError} :
    packing dir out fs = .error e fs' ↔ fs' = fs ∧
      (collectAt fs dir = .error e ∨ ∃ apps cause, collectAt fs dir = .ok apps ∧
        fs.target out = .error cause ∧ e = .writing (Utf8.decodeLossy out) cause) := by
  cases hlist : collectAt fs dir with
  | error cause => simp [packing_of_collectAt_error out hlist, eq_comm, and_comm]
  | ok listed =>
    rw [packing_of_collectAt out hlist, FileSystem.write]
    cases htarget : fs.target out with
    | error cause => simp [Except.map, eq_comm, and_comm]
    | ok loc => simp [Except.map]

/-- **Packing changes one file or nothing.**  If it fails, everything is as it was.  If it does not,
the file that `out` leads to has the table of what was listed, and all else is as it was. -/
theorem packing_spec (fs : FileSystem) (dir out : List UInt8) :
    match packing dir out fs with
    | .error e fs' => fs' = fs ∧
      (collectAt fs dir = .error e ∨ ∃ apps cause, collectAt fs dir = .ok apps ∧
        fs.target out = .error cause ∧ e = .writing (Utf8.decodeLossy out) cause)
    | .ok apps fs' => collectAt fs dir = .ok apps ∧
      ∃ loc, fs.WritesTo out loc ∧ fs.DiffersInFile fs' loc (table dir apps) ∧
        fs'.locate out = .ok loc ∧ fs'.read? out = some (table dir apps) := by
  cases hresult : packing dir out fs with
  | error e fs' => exact packing_eq_error_iff.mp hresult
  | ok apps fs' =>
    obtain ⟨hlist, hwrite⟩ := packing_eq_ok_iff.mp hresult
    exact ⟨hlist, FileSystem.write_spec hwrite⟩

/-! ### What a listing has of a new file -/

/-- A listing that comes to applications has been made of some place. -/
theorem exists_locate_of_collectAt (h : collectAt fs dir = .ok apps) :
    ∃ place, fs.locate dir = .ok place := by
  have hcollected := collected_collectAt fs dir
  rw [h] at hcollected
  cases hcollected with
  | directory hloc hdir hfound => exact ⟨_, hloc⟩
  | other hloc hdir => exact ⟨_, hloc⟩

/-- The applications of a directory are all that count in it, in order. -/
theorem areAll_of_collectAt {place : Location} (h : collectAt fs dir = .ok apps)
    (hplace : fs.locate dir = .ok place) (hdir : fs.isDirectory place = true) :
    AreAll apps (IsMember fs place) ∧ Ascending apps := by
  have hfound := found_collectAt hplace hdir
  rw [h] at hfound
  cases hfound with
  | apps hall hasc => exact ⟨hall, hasc⟩

section

variable {place file : Location} {content : List UInt8} {name : FileName} {size : Nat}

theorem isMember_put_of_ne (h : name :: place ≠ file) :
    IsMember (fs.put file (.file content)) place name size ↔ IsMember fs place name size := by
  rw [IsMember, fs.node?_put_of_ne _ h, IsMember]

theorem isMember_put_self :
    IsMember (fs.put (name :: place) (.file content)) place name size ↔
      content.length = size ∧ ¬ Hidden name := by
  rw [IsMember, fs.node?_put_self _ (List.cons_ne_nil name place)]
  simp

/-- A file of some size at a location is new to a listing: it lies in the directory that is listed,
is not hidden, and is no file of that size already. -/
structure FeedsBack (fs : FileSystem) (place file : Location) (size : Nat) : Prop where
  listed : fs.isDirectory place = true
  inside : ∃ name, file = name :: place ∧ ¬ Hidden name
  fresh : ¬ ∃ old, fs.node? file = some (.file old) ∧ old.length = size

/-- What is not new to a listing changes nothing in it. -/
theorem isMember_put_of_not_feedsBack (hdir : fs.isDirectory place = true)
    (h : ¬ FeedsBack fs place file content.length) :
    IsMember (fs.put file (.file content)) place name size ↔ IsMember fs place name size := by
  by_cases hfile : name :: place = file
  · subst hfile
    rw [isMember_put_self]
    by_cases hhid : Hidden name
    · exact iff_of_false (fun hnew => hnew.2 hhid) fun hold => hold.2 hhid
    · obtain ⟨old, hnode, hsize⟩ : ∃ old, fs.node? (name :: place) = some (.file old) ∧
          old.length = content.length :=
        not_not.mp fun hfresh => h ⟨hdir, ⟨name, rfl, hhid⟩, hfresh⟩
      rw [IsMember, hnode, ← hsize]
      simp
  · exact isMember_put_of_ne hfile

theorem collectAt_put_of_not_feedsBack (hfile : fs.TakesFile file)
    (hplace : fs.locate dir = .ok place) (hlist : collectAt fs dir = .ok apps)
    (h : ¬ FeedsBack fs place file content.length) :
    collectAt (fs.put file (.file content)) dir = .ok apps := by
  have hplace' := FileSystem.locate_put hfile content hplace
  have hkind := (hfile.isDirectory_put content place).symm
  have hcollected := collected_collectAt fs dir
  rw [hlist] at hcollected
  refine (collected_collectAt _ dir).unique ?_
  cases hdir : fs.isDirectory place with
  | true =>
    exact hcollected.of_same_members hplace hplace' hkind fun name size =>
      (isMember_put_of_not_feedsBack hdir h).symm
  | false =>
    have hempty : apps = [] := Except.ok.inj (hcollected.unique (.other hplace hdir))
    rw [hempty]
    exact .other hplace' (hkind.symm.trans hdir)

end

/-! ### A listing with one application more or of another size -/

section

variable {before after : List App} {a : App}

/-- An application in ascending order is the only one of its name. -/
theorem Ascending.mem_others_iff (h : Ascending (before ++ a :: after)) (b : App) :
    b ∈ before ++ after ↔ b ∈ before ++ a :: after ∧ b.name ≠ a.name := by
  obtain ⟨_, hafter, hbefore⟩ := List.pairwise_append.mp h
  have hne (b : App) (hb : b ∈ before ++ after) : b.name ≠ a.name := by
    intro hname
    rcases List.mem_append.mp hb with hb | hb
    · exact List.lt_irrefl _ (hname ▸ hbefore b hb a List.mem_cons_self)
    · exact List.lt_irrefl _ (hname ▸ (List.pairwise_cons.mp hafter).1 b hb)
  constructor
  · intro hb
    exact ⟨List.Sublist.mem hb ((List.sublist_cons_self a after).append_left before), hne b hb⟩
  · rintro ⟨hb, hname⟩
    rcases List.mem_append.mp hb with hb | hb
    · exact List.mem_append_left _ hb
    · rcases List.mem_cons.mp hb with rfl | hb
      · exact absurd rfl hname
      · exact List.mem_append_right _ hb

theorem Ascending.erase (h : Ascending (before ++ a :: after)) : Ascending (before ++ after) :=
  h.sublist ((List.sublist_cons_self a after).append_left before)

/-- The order does not depend on sizes. -/
theorem Ascending.resize (h : Ascending (before ++ a :: after)) (size : Nat) :
    Ascending (before ++ ⟨a.name, size⟩ :: after) := by
  have hnames : ((before ++ a :: after).map fun b => Utf8.encode b.name).Pairwise (· < ·) :=
    List.pairwise_map.mpr h
  rw [Ascending, ← List.pairwise_map (f := fun b : App => Utf8.encode b.name) (R := (· < ·))]
  rwa [List.map_append, List.map_cons] at hnames ⊢

end

/-- **A file that is new to a listing makes another table of it.** -/
theorem assembly_ne_of_feedsBack {place file : Location} {content : List UInt8} {again : List App}
    (hfile : fs.TakesFile file) (hfeeds : FeedsBack fs place file content.length)
    (hall : AreAll apps (IsMember fs place)) (hasc : Ascending apps)
    (hall' : AreAll again (IsMember (fs.put file (.file content)) place))
    (hasc' : Ascending again) (d : String) : assembly d again ≠ assembly d apps := by
  obtain ⟨name, rfl, hhid⟩ := hfeeds.inside
  obtain ⟨a, ha, hname, hsize⟩ := (hall' name _).mp (isMember_put_self.mpr ⟨rfl, hhid⟩)
  obtain ⟨before, after, rfl⟩ := List.append_of_mem ha
  have hrest (b : App) (hb : b.name ≠ a.name) : b ∈ apps ↔ b ∈ before ++ a :: after := by
    rw [hall.mem_iff, hall'.mem_iff, isMember_put_of_ne]
    intro heq
    exact hb (Utf8.encode_injective ((List.cons.inj heq).1.trans hname.symm))
  have hself (b : App) (hb : b.name = a.name) : b ∈ apps ↔
      ∃ old, fs.node? (name :: place) = some (.file old) ∧ old.length = b.size := by
    rw [hall.mem_iff, hb, hname, IsMember, and_iff_left hhid]
  intro heq
  rcases hfile with hnone | ⟨old, hold⟩
  · have happs : apps = before ++ after := by
      refine hasc.eq_of_mem_iff hasc'.erase fun b => ?_
      rw [hasc'.mem_others_iff]
      by_cases hb : b.name = a.name
      · rw [hself b hb, hnone]
        refine iff_of_false ?_ fun h => h.2 hb
        rintro ⟨_, hold, _⟩
        cases hold
      · rw [hrest b hb, and_iff_left hb]
    have hlt := length_assembly_lt d before after a
    rw [heq, happs] at hlt
    exact Nat.lt_irrefl _ hlt
  · have happs : apps = before ++ ⟨a.name, old.length⟩ :: after := by
      refine hasc.eq_of_mem_iff (hasc'.resize old.length) fun b => ?_
      rw [List.mem_append, List.mem_cons, or_left_comm, ← List.mem_append, hasc'.mem_others_iff]
      by_cases hb : b.name = a.name
      · rw [hself b hb, hold]
        constructor
        · rintro ⟨_, ⟨⟩, hlength⟩
          refine Or.inl ?_
          rw [← hb, hlength]
        · rintro (rfl | h)
          · exact ⟨old, rfl, rfl⟩
          · exact absurd hb h.2
      · rw [hrest b hb, and_iff_left hb]
        refine ⟨Or.inr, fun h => h.resolve_left ?_⟩
        rintro rfl
        exact hb rfl
    have hsame : a.size = old.length := size_eq_of_assembly_eq (happs ▸ heq)
    exact hfeeds.fresh ⟨old, hold, hsame.symm.trans hsize⟩

/-! ### A second run -/

section

variable {place file : Location} (hplace : fs.locate dir = .ok place)
  (htarget : fs.target out = .ok file) (hlist : collectAt fs dir = .ok apps)

include hplace htarget hlist

theorem packing_again_of_not_feedsBack
    (h : ¬ FeedsBack fs place file (table dir apps).length) :
    packing dir out (fs.put file (.file (table dir apps))) =
      .ok apps (fs.put file (.file (table dir apps))) := by
  have hfile := FileSystem.takesFile_of_target htarget
  refine packing_eq_ok_iff.mpr ⟨collectAt_put_of_not_feedsBack hfile hplace hlist h, ?_⟩
  have hwrite := FileSystem.write_of_target htarget (table dir apps)
  exact (FileSystem.write_write hwrite _).trans hwrite

theorem packing_again_ne_of_feedsBack (h : FeedsBack fs place file (table dir apps).length)
    (again : List App) :
    packing dir out (fs.put file (.file (table dir apps))) ≠
      .ok again (fs.put file (.file (table dir apps))) := by
  intro hagain
  obtain ⟨hlist', hwrite'⟩ := packing_eq_ok_iff.mp hagain
  have hfile := FileSystem.takesFile_of_target htarget
  have hplace' := FileSystem.locate_put hfile (table dir apps) hplace
  have hdir' := (hfile.isDirectory_put (table dir apps) place).trans h.listed
  have hsame : table dir again = table dir apps := by
    have hwrite := FileSystem.write_of_target htarget (table dir apps)
    rw [FileSystem.write_write hwrite] at hwrite'
    obtain ⟨loc, htarget', hput⟩ := FileSystem.write_eq_ok_iff.mp hwrite'
    cases htarget.symm.trans htarget'
    exact (Node.file.inj (FileSystem.put_inj.mp hput)).symm
  obtain ⟨hall, hasc⟩ := areAll_of_collectAt hlist hplace h.listed
  obtain ⟨hall', hasc'⟩ := areAll_of_collectAt hlist' hplace' hdir'
  exact assembly_ne_of_feedsBack hfile h hall hasc hall' hasc' _ (Utf8.encode_injective hsame)

end

/-- **A second run leaves everything as it is just if the first has not fed back into its own
listing.**  Then the table has what the directory holds, the new file included. -/
theorem packing_again_iff (h : packing dir out fs = .ok apps fs') :
    ∃ place file, fs.locate dir = .ok place ∧ fs.WritesTo out file ∧
      fs'.locate out = .ok file ∧
      ((∃ again, packing dir out fs' = .ok again fs') ↔
        ¬ FeedsBack fs place file (table dir apps).length) ∧
      (¬ FeedsBack fs place file (table dir apps).length →
        packing dir out fs' = .ok apps fs' ∧ collectAt fs' dir = .ok apps) := by
  obtain ⟨hlist, hwrite⟩ := packing_eq_ok_iff.mp h
  obtain ⟨place, hplace⟩ := exists_locate_of_collectAt hlist
  obtain ⟨file, htarget, rfl⟩ := FileSystem.write_eq_ok_iff.mp hwrite
  have hagain := packing_again_of_not_feedsBack hplace htarget hlist
  refine ⟨place, file, hplace, FileSystem.writesTo_of_target htarget,
    FileSystem.locate_put_of_target htarget _, ⟨?_, fun hfeeds => ⟨apps, hagain hfeeds⟩⟩,
    fun hfeeds => ⟨hagain hfeeds, (packing_eq_ok_iff.mp (hagain hfeeds)).1⟩⟩
  rintro ⟨again, hresult⟩ hfeeds
  exact packing_again_ne_of_feedsBack hplace htarget hlist hfeeds again hresult

def oneApp : FileSystem :=
  ((FileSystem.empty [0x77]).put [[0x64], [0x77]] .directory).put [[0x61], [0x64], [0x77]]
    (.file [0])

theorem collectAt_oneApp : collectAt oneApp [0x64] = .ok [⟨"a", 1⟩] := by decide +kernel

/-- A table beside the directory stays as it is. -/
theorem packing_again_beside :
    packing [0x64] [0x74] oneApp = .ok [⟨"a", 1⟩]
        (oneApp.put [[0x74], [0x77]] (.file (table [0x64] [⟨"a", 1⟩]))) ∧
      ∃ again, packing [0x64] [0x74]
          (oneApp.put [[0x74], [0x77]] (.file (table [0x64] [⟨"a", 1⟩]))) =
        .ok again (oneApp.put [[0x74], [0x77]] (.file (table [0x64] [⟨"a", 1⟩]))) := by
  have htarget : oneApp.target [0x74] = .ok [[0x74], [0x77]] := by decide +kernel
  have h : packing [0x64] [0x74] oneApp = .ok [⟨"a", 1⟩]
      (oneApp.put [[0x74], [0x77]] (.file (table [0x64] [⟨"a", 1⟩]))) :=
    packing_eq_ok_iff.mpr ⟨collectAt_oneApp, FileSystem.write_of_target htarget _⟩
  obtain ⟨place, file, hplace, _, hfile, hagain, _⟩ := packing_again_iff h
  have hplace' : oneApp.locate [0x64] = .ok [[0x64], [0x77]] := by decide +kernel
  cases hplace.symm.trans hplace'
  cases hfile.symm.trans (FileSystem.locate_put_of_target htarget _)
  refine ⟨h, hagain.mpr fun hfeeds => ?_⟩
  obtain ⟨name, hinside, _⟩ := hfeeds.inside
  cases hinside

/-- A table in the directory itself is listed by the next run. -/
theorem packing_again_inside :
    ∃ fs', packing [0x64] [0x64, 0x2F, 0x74] oneApp = .ok [⟨"a", 1⟩] fs' ∧
      ¬ ∃ again, packing [0x64] [0x64, 0x2F, 0x74] fs' = .ok again fs' := by
  have hplace : oneApp.locate [0x64] = .ok [[0x64], [0x77]] := by decide +kernel
  have htarget : oneApp.target [0x64, 0x2F, 0x74] = .ok [[0x74], [0x64], [0x77]] := by
    decide +kernel
  refine ⟨_, packing_eq_ok_iff.mpr
    ⟨collectAt_oneApp, FileSystem.write_of_target htarget _⟩, ?_⟩
  have hhid : ¬ Hidden [0x74] := isHidden_iff.not.mp (by decide)
  have hfresh : oneApp.node? [[0x74], [0x64], [0x77]] = none := by decide +kernel
  rintro ⟨again, hagain⟩
  refine packing_again_ne_of_feedsBack hplace htarget collectAt_oneApp
    ⟨by decide +kernel, ⟨[0x74], rfl, hhid⟩, ?_⟩ again hagain
  rw [hfresh]
  rintro ⟨_, hold, _⟩
  cases hold

end Paging.AppTable
