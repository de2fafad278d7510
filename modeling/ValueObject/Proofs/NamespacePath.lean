/-
# ValueObject.Proofs.NamespacePath -- the grammar of namespaces

A **segment** is an underscore or an alphabetic character with underscores and alphanumeric characters
behind it, and a **namespace path** is a segment, or a segment, a dot and a path. The check of the
settings cuts a text at its dots and looks at the parts; it accepts exactly the texts of this grammar
(`isNamespacePath_iff`).

`segments` are the parts of any text, whether they are segments of the grammar or not.
-/

import ValueObject.Proofs.Text.Classes

namespace ValueObject.Identifier

open Text

/-- **A segment of a namespace.** -/
inductive Segment : List Char → Prop
  | intro {c : Char} {rest : List Char} :
      (c = '_' ∨ isAlphabetic c = true) → (∀ x ∈ rest, x = '_' ∨ isAlphanumeric x = true) →
      Segment (c :: rest)

/-- **A namespace path**: segments with dots between them. -/
inductive NamespacePath : List Char → Prop
  | segment {part : List Char} : Segment part → NamespacePath part
  | dotted {part rest : List Char} :
      Segment part → NamespacePath rest → NamespacePath (part ++ '.' :: rest)

theorem isSegment_iff {part : List Char} : isSegment part = true ↔ Segment part := by
  constructor
  · intro h
    cases part with
    | nil => cases h
    | cons c rest =>
      simp only [isSegment, Bool.and_eq_true, Bool.or_eq_true, beq_iff_eq, List.all_eq_true] at h
      exact .intro h.1 h.2
  · rintro ⟨hfirst, hrest⟩
    simp only [isSegment, Bool.and_eq_true, Bool.or_eq_true, beq_iff_eq, List.all_eq_true]
    exact ⟨hfirst, hrest⟩

/-- No segment holds a dot. -/
theorem Segment.dot_not_mem {part : List Char} (h : Segment part) : '.' ∉ part := by
  intro hdot
  rcases mem_segment (isSegment_iff.mpr h) hdot with hmark | halpha
  · exact absurd hmark (by decide)
  · exact absurd halpha (by decide)

/-- Segments with dots between them are a path. -/
theorem NamespacePath.of_segments {parts : List (List Char)} (hne : parts ≠ [])
    (h : ∀ part ∈ parts, Segment part) : NamespacePath (['.'].intercalate parts) := by
  induction parts with
  | nil => exact absurd rfl hne
  | cons part rest ih =>
    rw [List.forall_mem_cons] at h
    cases rest with
    | nil => simpa using NamespacePath.segment h.1
    | cons second rest =>
      rw [List.intercalate_cons_cons, List.append_assoc]
      exact .dotted h.1 (ih (by simp) h.2)

/-- The parts of a path are segments. -/
theorem NamespacePath.segment_of_mem {cs part : List Char} (h : NamespacePath cs)
    (hpart : part ∈ splitOn '.' cs) : Segment part := by
  induction h with
  | segment hsegment =>
    rw [splitOn_of_not_mem hsegment.dot_not_mem, List.mem_singleton] at hpart
    rwa [hpart]
  | dotted hsegment _ ih =>
    rw [splitOn_append, splitOn_of_not_mem hsegment.dot_not_mem, List.singleton_append] at hpart
    rcases List.mem_cons.mp hpart with rfl | hpart
    · exact hsegment
    · exact ih hpart

/-- **The check accepts exactly the namespace paths.** -/
theorem isNamespacePath_iff {name : String} :
    isNamespacePath name = true ↔ NamespacePath name.toList := by
  rw [isNamespacePath, List.all_eq_true]
  constructor
  · intro h
    rw [← intercalate_splitOn '.' name.toList]
    exact .of_segments (splitOn_ne_nil _ _) fun part hpart => isSegment_iff.mp (h part hpart)
  · intro h part hpart
    exact isSegment_iff.mpr (h.segment_of_mem hpart)

/-! ## The parts of a dotted name -/

/-- **The parts of a name between its dots.** -/
def segments (name : String) : List String :=
  (splitOn '.' name.toList).map String.ofList

theorem segments_ne_nil (name : String) : segments name ≠ [] := by
  rw [segments, Ne, List.map_eq_nil_iff]
  exact splitOn_ne_nil '.' name.toList

end ValueObject.Identifier
