/-
# ValueObject.Proofs.Text.Split -- the parts between marks

Cutting a text at a mark loses nothing but the marks: no part holds one, every other character is in
a part, and with a mark between each two the parts make the text again (`intercalate_splitOn`). Around
a mark the parts are those in front of it and those behind it (`splitOn_append`), so a text without the
mark is the only one that is a single part.
-/

import Mathlib.Data.List.Basic
import ValueObject.Text.Affix

namespace ValueObject.Text

theorem splitOn_ne_nil (mark : Char) (cs : List Char) : splitOn mark cs ≠ [] := by
  unfold splitOn
  split
  · simp
  · split
    · simp
    · split <;> simp

/-- Around a mark, the parts are those in front of it and those behind it. -/
theorem splitOn_append (mark : Char) (a b : List Char) :
    splitOn mark (a ++ mark :: b) = splitOn mark a ++ splitOn mark b := by
  induction a with
  | nil => simp [splitOn]
  | cons c rest ih =>
    rw [List.cons_append, splitOn, splitOn]
    split
    · rw [ih]
      rfl
    · obtain ⟨part, parts, hparts⟩ := List.exists_cons_of_ne_nil (splitOn_ne_nil mark rest)
      rw [ih, hparts]
      rfl

/-- A text without the mark is one part. -/
theorem splitOn_of_not_mem {mark : Char} {cs : List Char} (h : mark ∉ cs) :
    splitOn mark cs = [cs] := by
  induction cs with
  | nil => rfl
  | cons c rest ih =>
    rw [List.mem_cons, not_or] at h
    rw [splitOn, if_neg (Ne.symm h.1), ih h.2]

/-- No part holds the mark. -/
theorem not_mem_of_mem_splitOn {mark : Char} {cs part : List Char} (h : part ∈ splitOn mark cs) :
    mark ∉ part := by
  induction cs generalizing part with
  | nil =>
    rw [splitOn, List.mem_singleton] at h
    simp [h]
  | cons c rest ih =>
    rw [splitOn] at h
    split at h
    · rcases List.mem_cons.mp h with rfl | h
      · simp
      · exact ih h
    · next hc =>
      obtain ⟨first, parts, hparts⟩ := List.exists_cons_of_ne_nil (splitOn_ne_nil mark rest)
      rw [hparts] at h ih
      rcases List.mem_cons.mp h with rfl | h
      · rw [List.mem_cons, not_or]
        exact ⟨Ne.symm hc, ih (by simp)⟩
      · exact ih (List.mem_cons_of_mem _ h)

/-- **The parts with a mark between each two are the text.** -/
theorem intercalate_splitOn (mark : Char) (cs : List Char) :
    [mark].intercalate (splitOn mark cs) = cs := by
  induction cs with
  | nil => rfl
  | cons c rest ih =>
    obtain ⟨first, parts, hparts⟩ := List.exists_cons_of_ne_nil (splitOn_ne_nil mark rest)
    rw [hparts] at ih
    rw [splitOn, hparts]
    split
    · next hc =>
      rw [List.intercalate_cons_cons, ih, hc]
      rfl
    · -- the character joins the first part, whether or not there are others
      cases parts with
      | nil => simpa using ih
      | cons second parts =>
        rw [List.intercalate_cons_cons] at ih
        show [mark].intercalate ((c :: first) :: second :: parts) = c :: rest
        rw [List.intercalate_cons_cons, ← ih]
        rfl

/-- A character is the mark, or one of a part. -/
theorem mem_splitOn (mark : Char) {cs : List Char} {c : Char} (h : c ∈ cs) :
    c = mark ∨ ∃ part ∈ splitOn mark cs, c ∈ part := by
  induction cs with
  | nil => cases h
  | cons x cs ih =>
    unfold splitOn
    split
    · next hx =>
      rcases List.mem_cons.mp h with rfl | h
      · exact .inl hx
      · rcases ih h with hc | ⟨part, hpart, hc⟩
        · exact .inl hc
        · exact .inr ⟨part, List.mem_cons_of_mem _ hpart, hc⟩
    · next hx =>
      obtain ⟨part, parts, hsplit⟩ := List.exists_cons_of_ne_nil (splitOn_ne_nil mark cs)
      rw [hsplit]
      rcases List.mem_cons.mp h with rfl | h
      · exact .inr ⟨c :: part, by simp, by simp⟩
      · rcases ih h with hc | ⟨p, hp, hc⟩
        · exact .inl hc
        · rw [hsplit, List.mem_cons] at hp
          rcases hp with rfl | hp
          · exact .inr ⟨x :: p, by simp, List.mem_cons_of_mem _ hc⟩
          · exact .inr ⟨p, List.mem_cons_of_mem _ hp, hc⟩

end ValueObject.Text
