/-
# ValueObject.Text.Ranges -- character classes as ranges of code points

A class of characters that a standard lists is kept as closed ranges of code points in ascending
order. This module holds the look-up and nothing of any one class.
-/

namespace ValueObject.Text

/-- Closed ranges of code points: the first and the last of each. -/
abbrev Ranges := List (Nat × Nat)

/-- The character lies in one of the ranges. -/
def Ranges.contains (ranges : Ranges) (c : Char) : Bool :=
  ranges.any fun r => decide (r.1 ≤ c.toNat) && decide (c.toNat ≤ r.2)

theorem Ranges.contains_iff {ranges : Ranges} {c : Char} :
    ranges.contains c = true ↔ ∃ r ∈ ranges, r.1 ≤ c.toNat ∧ c.toNat ≤ r.2 := by
  simp [Ranges.contains]

end ValueObject.Text
