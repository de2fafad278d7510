/-
# ValueObject.Proofs.DerivedNames -- how names derived from properties meet

A property gives rise to a parameter and to a backing field. Both come from its name with the first
character in lower case, and lower-casing that character twice does no more than doing it once. A
derived name that starts with a mark, `@` or `_`, is therefore left alone by every further
derivation, and deriving a parameter from a parameter gives the same parameter
(`parameterName_parameterName`).

From this the three ways in which a parameter can coincide with another name are read off exactly:
with a backing field, with the name of its own property, and with that of another one.
-/

import ValueObject.Proofs.Text.LowerCase
import ValueObject.Identifier

namespace ValueObject.Identifier

/-! ## Marked names -/

/-- The name starts with one of the marks that derived names start with. -/
def Marked (name : String) : Prop :=
  name.toList.head? = some '@' ∨ name.toList.head? = some '_'

theorem keyword_starts_with_letter :
    ∀ k ∈ keywords, (k.toList.head?.any fun c => decide (Text.IsLetter c)) = true := by
  decide +kernel

/-- No keyword is marked. -/
theorem Marked.not_keyword {name : String} (h : Marked name) : isKeyword name = false := by
  rw [Bool.eq_false_iff]
  intro hkeyword
  have hletter := keyword_starts_with_letter name (by simpa [isKeyword] using hkeyword)
  rcases h with h | h
  · rw [h] at hletter
    exact absurd hletter (by decide)
  · rw [h] at hletter
    exact absurd hletter (by decide)

/-- A name that starts with its own lower case is left alone. -/
theorem lowerFirst_eq_self {name : String} {c : Char} (hc : name.toList.head? = some c)
    (hlower : Text.lowercase c = [c]) : lowerFirst name = name := by
  obtain ⟨rest, hrest⟩ := List.head?_eq_some_iff.mp hc
  rw [lowerFirst, hrest, Text.lowerFirst, hlower, List.singleton_append, ← hrest,
    String.ofList_toList]

/-- A mark has no lower case. -/
theorem Marked.lowerFirst {name : String} (h : Marked name) : lowerFirst name = name := by
  rcases h with h | h
  · exact lowerFirst_eq_self h (by decide)
  · exact lowerFirst_eq_self h (by decide)

/-- **A marked name is its own parameter.** -/
theorem Marked.parameterName {name : String} (h : Marked name) : parameterName name = name := by
  rw [Identifier.parameterName, h.lowerFirst, escape, h.not_keyword]
  rfl

theorem marked_at (name : String) : Marked ("@" ++ name) := by
  simp [Marked]

theorem marked_backingName (property : String) : Marked (backingName property) := by
  simp [Marked, backingName]

/-! ## Parameters -/

/-- Lower-casing the first character makes no mark. -/
theorem marked_of_lowerFirst {name : String} (h : Marked (lowerFirst name)) : Marked name := by
  have hhead {c : Char} (hc : (lowerFirst name).toList.head? = some c) (hascii : c.toNat < 128)
      (hletter : ¬ Text.IsLetter c) : name.toList.head? = some c := by
    rw [lowerFirst, String.toList_ofList] at hc
    exact (Text.head?_of_head?_lowerFirst hc hascii).resolve_right hletter
  rcases h with h | h
  · exact .inl (hhead h (by decide) (by decide))
  · exact .inr (hhead h (by decide) (by decide))

theorem lowerFirst_lowerFirst (name : String) : lowerFirst (lowerFirst name) = lowerFirst name := by
  simp only [lowerFirst, String.toList_ofList, Text.lowerFirst_lowerFirst]

/-- **The parameter of a parameter is that parameter.** -/
theorem parameterName_parameterName (property : String) :
    parameterName (parameterName property) = parameterName property := by
  by_cases hkeyword : isKeyword (lowerFirst property) = true
  · have hparameter : parameterName property = "@" ++ lowerFirst property := by
      rw [parameterName, escape, if_pos hkeyword]
    rw [hparameter]
    exact (marked_at _).parameterName
  · have hparameter : parameterName property = lowerFirst property := by
      rw [parameterName, escape, if_neg hkeyword]
    rw [hparameter, parameterName, lowerFirst_lowerFirst, escape, if_neg hkeyword]

/-- No parameter is a keyword: one that would be is marked. -/
theorem isKeyword_parameterName (property : String) :
    isKeyword (parameterName property) = false := by
  unfold parameterName escape
  split
  · exact (marked_at _).not_keyword
  · next hkeyword => simpa using hkeyword

/-- A property is called like its parameter when there is nothing to derive: it starts in lower case
and is no keyword. -/
theorem parameterName_eq_self_iff {name : String} :
    parameterName name = name ↔ lowerFirst name = name ∧ isKeyword name = false := by
  constructor
  · intro h
    by_cases hkeyword : isKeyword (lowerFirst name) = true
    · -- an escaped parameter is marked, so it would be its own lower case and longer than itself
      rw [parameterName, escape, if_pos hkeyword] at h
      have hmarked : Marked name := by
        rw [← h]
        exact marked_at _
      have hlength := congrArg (fun s => s.toList.length) h
      rw [hmarked.lowerFirst] at hlength
      simp at hlength
    · rw [parameterName, escape, if_neg hkeyword] at h
      rw [h] at hkeyword
      exact ⟨h, by simpa using hkeyword⟩
  · rintro ⟨hlower, hkeyword⟩
    rw [parameterName, hlower, escape, hkeyword]
    rfl

/-- **A parameter coincides with a backing field** exactly when its property is called like that
backing field. -/
theorem parameterName_eq_backingName_iff {p q : String} :
    parameterName p = backingName q ↔ p = backingName q := by
  constructor
  · intro h
    by_cases hkeyword : isKeyword (lowerFirst p) = true
    · rw [parameterName, escape, if_pos hkeyword] at h
      have hhead := congrArg (fun s => s.toList.head?) h
      simp [backingName] at hhead
    · rw [parameterName, escape, if_neg hkeyword] at h
      have hmarked : Marked p := by
        apply marked_of_lowerFirst
        rw [h]
        exact marked_backingName q
      rwa [hmarked.lowerFirst] at h
  · rintro rfl
    exact (marked_backingName q).parameterName

end ValueObject.Identifier
