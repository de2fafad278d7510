/-
# ValueObject.Proofs.Text.Classes -- what alphanumeric characters are not

No alphanumeric character is blank, and none is a brace or a line break. Within ASCII this is
checked character by character; outside, the ranges of the two classes lie beside each other. A
namespace path consists of alphanumeric characters, underscores and dots, so the same is true of
every character of it.
-/

import ValueObject.Identifier
import ValueObject.Proofs.Text.LowerCase
import ValueObject.Proofs.Text.Split
import ValueObject.Text.Blank

namespace ValueObject.Text

/-! ## Alphanumeric characters -/

theorem alphanumeric_ascii {c : Char} (h : c.toNat < 128) (hc : isAlphanumeric c = true) :
    isBlank c = false ∧ c ≠ '{' ∧ c ≠ '}' ∧ c ≠ '\n' := by
  have hall : ∀ n < 128, ((Char.ofNat n).isAlpha || (Char.ofNat n).isDigit) = true →
      isBlank (Char.ofNat n) = false ∧ Char.ofNat n ≠ '{' ∧ Char.ofNat n ≠ '}' ∧
        Char.ofNat n ≠ '\n' := by decide +kernel
  rw [isAlphanumeric, isAlphabetic_of_lt h, isNumeric_of_lt h] at hc
  exact ascii_induction (P := fun c => (c.isAlpha || c.isDigit) = true →
    isBlank c = false ∧ c ≠ '{' ∧ c ≠ '}' ∧ c ≠ '\n') hall h hc

/-- The ranges of the alphanumeric characters lie beside those of the blanks. -/
theorem alphanumeric_beside_blank : ∀ rs ∈ alphabeticRanges ++ numericRanges, ∀ r ∈ rs,
    ∀ b ∈ blankRanges, r.2 < b.1 ∨ b.2 < r.1 := by
  decide +kernel

/-- **An alphanumeric character is no blank, no brace and no line break.** -/
theorem alphanumeric_apart {c : Char} (hc : isAlphanumeric c = true) :
    isBlank c = false ∧ c ≠ '{' ∧ c ≠ '}' ∧ c ≠ '\n' := by
  by_cases h : c.toNat < 128
  · exact alphanumeric_ascii h hc
  · have hrange : ∃ rs ∈ alphabeticRanges ++ numericRanges, rs.contains c = true := by
      simp only [isAlphanumeric, isAlphabetic, isNumeric, if_neg h, Bool.or_eq_true,
        List.any_eq_true] at hc
      rcases hc with ⟨rs, hrs, hcontains⟩ | ⟨rs, hrs, hcontains⟩
      · exact ⟨rs, List.mem_append_left _ hrs, hcontains⟩
      · exact ⟨rs, List.mem_append_right _ hrs, hcontains⟩
    refine ⟨?_, ?_, ?_, ?_⟩
    · rw [Bool.eq_false_iff]
      intro hblank
      obtain ⟨rs, hrs, hcontains⟩ := hrange
      obtain ⟨r, hr, hfirst, hlast⟩ := Ranges.contains_iff.mp hcontains
      obtain ⟨b, hb, hbfirst, hblast⟩ := Ranges.contains_iff.mp hblank
      rcases alphanumeric_beside_blank rs hrs r hr b hb with hlt | hlt <;> omega
    all_goals
      rintro rfl
      exact h (by decide)

/-! ## Namespace paths -/

theorem mem_segment {cs : List Char} (h : Identifier.isSegment cs = true) {c : Char}
    (hc : c ∈ cs) : c = '_' ∨ isAlphanumeric c = true := by
  cases cs with
  | nil => cases hc
  | cons x rest =>
    simp only [Identifier.isSegment, Bool.and_eq_true, Bool.or_eq_true, beq_iff_eq,
      List.all_eq_true] at h
    rcases List.mem_cons.mp hc with rfl | hc
    · rcases h.1 with h | h
      · exact .inl h
      · exact .inr (by simp [isAlphanumeric, h])
    · exact h.2 c hc

/-- **A namespace path** is not empty, and no character of it is a blank, a brace or a line break. -/
theorem namespacePath_chars {name : String} (h : Identifier.isNamespacePath name = true) :
    name.toList ≠ [] ∧
      ∀ c ∈ name.toList, isBlank c = false ∧ c ≠ '{' ∧ c ≠ '}' ∧ c ≠ '\n' := by
  rw [Identifier.isNamespacePath, List.all_eq_true] at h
  refine ⟨?_, ?_⟩
  · intro hnil
    rw [hnil] at h
    exact absurd (h [] (by simp [splitOn])) (by decide)
  · intro c hc
    rcases mem_splitOn '.' hc with rfl | ⟨part, hpart, hc⟩
    · decide
    · rcases mem_segment (h part hpart) hc with rfl | halpha
      · decide
      · exact alphanumeric_apart halpha

end ValueObject.Text
