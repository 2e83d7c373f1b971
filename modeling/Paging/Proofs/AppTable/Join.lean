import Paging.AppTable.Assembly
import Paging.FileSystem.Path
import Paging.Proofs.Text.Lossy

/-!
# The path of a name in a directory

A path is joined from bytes, which need be no text, and the table shows it as a text.  It comes to
the same whether the bytes are joined first or shown first (`decodeLossy_join`).
-/

namespace Paging

def Path.join (dir name : List UInt8) : List UInt8 :=
  if name.head? = some slashByte then name
  else if dir = [] ∨ dir.getLast? = some slashByte then dir ++ name
  else dir ++ slashByte :: name

namespace AppTable

open Text Paging.Path

theorem toList_decodeLossy_slash (xs ys : List UInt8) :
    (Utf8.decodeLossy (xs ++ slashByte :: ys)).toList =
      (Utf8.decodeLossy xs).toList ++ '/' :: (Utf8.decodeLossy ys).toList :=
  Utf8.toList_decodeLossy_append (by decide) xs ys

theorem head?_encode_eq_slash_iff {name : String} :
    (Utf8.encode name).head? = some slashByte ↔ name.toList.head? = some '/' :=
  Utf8.head?_encode_iff (by decide)

theorem getLast?_decodeLossy_eq_slash_iff {dir : List UInt8} :
    (Utf8.decodeLossy dir).toList.getLast? = some '/' ↔ dir.getLast? = some slashByte := by
  constructor
  · intro h
    rw [Utf8.decodeLossy, String.toList_ofList, List.getLast?_map, Option.map_eq_some_iff] at h
    obtain ⟨piece, hlast, hslash⟩ := h
    obtain ⟨ps, hps⟩ := List.getLast?_eq_some_iff.mp hlast
    cases piece with
    | stray bytes => cases hslash
    | char c =>
      have hc : c = '/' := hslash
      rw [← Utf8.flatMap_bytes_pieces dir, hps, hc, List.flatMap_append]
      exact List.getLast?_append_of_ne_nil _ (List.cons_ne_nil _ _)
  · intro h
    obtain ⟨xs, rfl⟩ := List.getLast?_eq_some_iff.mp h
    rw [toList_decodeLossy_slash]
    exact List.getLast?_concat

/-- **A path is shown as the join of what its parts are shown as.** -/
theorem decodeLossy_join (dir : List UInt8) (name : String) :
    Utf8.decodeLossy (Path.join dir (Utf8.encode name)) =
      joinPath (Utf8.decodeLossy dir) name := by
  rw [joinPath, Path.join]
  by_cases hname : name.toList.head? = some '/'
  · rw [if_pos hname, if_pos (head?_encode_eq_slash_iff.mpr hname), Utf8.decodeLossy_encode]
  rw [if_neg hname, if_neg (head?_encode_eq_slash_iff.not.mpr hname)]
  have hends : (Utf8.decodeLossy dir = "" ∨ (Utf8.decodeLossy dir).toList.getLast? = some '/') ↔
      (dir = [] ∨ dir.getLast? = some slashByte) := by
    rw [getLast?_decodeLossy_eq_slash_iff, ← String.toList_eq_nil_iff,
      Utf8.toList_decodeLossy_eq_nil_iff]
  refine String.toList_injective ?_
  by_cases hdir : dir = [] ∨ dir.getLast? = some slashByte
  · rw [if_pos hdir, if_pos (hends.mpr hdir), String.toList_append]
    rcases hdir with rfl | hlast
    · rw [List.nil_append, Utf8.decodeLossy_encode]
      rfl
    · obtain ⟨xs, rfl⟩ := List.getLast?_eq_some_iff.mp hlast
      rw [List.append_assoc, List.singleton_append, toList_decodeLossy_slash,
        toList_decodeLossy_slash, Utf8.decodeLossy_encode, List.append_assoc]
      rfl
  · rw [if_neg hdir, if_neg (hends.not.mpr hdir), toList_decodeLossy_slash,
      Utf8.decodeLossy_encode,
      String.toList_append, String.toList_append, List.append_assoc]
    rfl

end AppTable

end Paging
