/-
# ValueObject.Proofs.Disk.PathParts -- the parts of a path and of a name inside a folder

Slashes cut a path into parts, and no part holds a slash. A name that is joined to a folder therefore
is one more part behind those of the folder exactly when it holds no slash itself (`parts_join_iff`).
A name that does hold one is taken apart as well: it leads to somewhere else, or by another way to the
same place.
-/

import ValueObject.Disk.Path
import ValueObject.Proofs.Text.Split

namespace ValueObject.Disk.Path

open Text

/-! ## The parts of a path -/

/-- No part of a path holds a slash. -/
theorem slash_not_mem_of_mem_parts {path part : String} (h : part ∈ parts path) :
    '/' ∉ part.toList := by
  rw [parts, List.mem_map] at h
  obtain ⟨cs, hcs, rfl⟩ := h
  rw [String.toList_ofList]
  exact not_mem_of_mem_splitOn (List.mem_filter.mp hcs).1

/-- A slash ends a part and begins another. -/
theorem parts_append_slash (a b : String) : parts (a ++ "/" ++ b) = parts a ++ parts b := by
  have hlist : (a ++ "/" ++ b).toList = a.toList ++ '/' :: b.toList := by simp
  rw [parts, hlist, splitOn_append, List.filter_append, List.map_append]
  rfl

/-- A name without a slash is one part. -/
theorem parts_of_not_mem {name : String} (hname : name ≠ "") (h : '/' ∉ name.toList) :
    parts name = [name] := by
  rw [parts, splitOn_of_not_mem h]
  simp [hname]

/-! ## Names inside a folder -/

theorem isAbsolute_eq_false_of_not_mem {name : String} (h : '/' ∉ name.toList) :
    isAbsolute name = false := by
  rw [isAbsolute, beq_eq_false_iff_ne]
  intro hhead
  exact h (List.mem_of_head? hhead)

/-- A folder that ends in a slash is the same folder without it. -/
theorem eq_append_slash {folder : String} (h : hasTrailingSlash folder = true) :
    ∃ front, folder = front ++ "/" := by
  rw [hasTrailingSlash, beq_iff_eq] at h
  obtain ⟨front, hfront⟩ := List.getLast?_eq_some_iff.mp h
  refine ⟨String.ofList front, ?_⟩
  rw [← String.toList_inj, hfront]
  simp

/-- **A name without a slash is one more part** behind those of the folder. -/
theorem parts_join (folder : String) {name : String} (hname : name ≠ "")
    (h : '/' ∉ name.toList) : parts (join folder name) = parts folder ++ [name] := by
  unfold join
  rw [isAbsolute_eq_false_of_not_mem h, Bool.false_or]
  split
  · next hempty =>
    rw [String.isEmpty_iff.mp hempty, parts_of_not_mem hname h]
    rfl
  · split
    · next hslash =>
      obtain ⟨front, rfl⟩ := eq_append_slash hslash
      have hfront : parts (front ++ "/") = parts front := by
        have := parts_append_slash front ""
        simpa [parts, splitOn] using this
      rw [parts_append_slash, parts_of_not_mem hname h, hfront]
    · rw [parts_append_slash, parts_of_not_mem hname h]

/-- **A name is one more part exactly when it holds no slash.** -/
theorem parts_join_iff (folder : String) {name : String} (hname : name ≠ "") :
    parts (join folder name) = parts folder ++ [name] ↔ '/' ∉ name.toList := by
  constructor
  · intro h
    have hmem : name ∈ parts (join folder name) := by
      rw [h]
      simp
    exact slash_not_mem_of_mem_parts hmem
  · exact parts_join folder hname

/-- A name without a slash leads from where the folder leads from. -/
theorem isAbsolute_join (folder : String) {name : String} (h : '/' ∉ name.toList) :
    isAbsolute (join folder name) = isAbsolute folder := by
  unfold join
  rw [isAbsolute_eq_false_of_not_mem h, Bool.false_or]
  split
  · next hempty =>
    rw [String.isEmpty_iff.mp hempty, isAbsolute_eq_false_of_not_mem h]
    rfl
  · next hne =>
    have hcons : ∃ c cs, folder.toList = c :: cs := by
      apply List.exists_cons_of_ne_nil
      simpa [String.isEmpty_iff] using hne
    obtain ⟨c, cs, hfolder⟩ := hcons
    split
    · simp [isAbsolute, hfolder]
    · simp [isAbsolute, hfolder]

end ValueObject.Disk.Path
