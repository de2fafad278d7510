/-
# ValueObject.Proofs.TypeSpelling -- how a type may be spelled

A type name is brought to its canonical spelling before it is compared. What this forgets is said the
other way round here: `Spells` puts blanks around a name and `global::` in front of it or not, and these
are the names that come out as the one name (`unqualified_eq_iff`). With the table of aliases, the type of
texts has two names that may be spelled so (`canonical_eq_text_iff`).

A generic name is taken apart at its first `<` and at the `>` that ends it, so an argument may hold
either of them (`splitGeneric_of_base`).
-/

import ValueObject.Proofs.Text.Trim
import ValueObject.TypeName

namespace ValueObject.Text

/-! ## Leading parts -/

/-- Without its leading part a text is `rest` if it is `rest`, or `rest` behind that part. -/
theorem dropLead_eq_iff {lead : String} {cs rest : List Char}
    (h : afterLead? lead.toList rest = none) :
    dropLead lead cs = rest ↔ cs = rest ∨ cs = lead.toList ++ rest := by
  rw [dropLead]
  rcases hafter : afterLead? lead.toList cs with _ | found
  · have hne : cs ≠ lead.toList ++ rest := by
      rintro rfl
      rw [afterLead?_append] at hafter
      cases hafter
    simp [hne]
  · obtain rfl := afterLead?_eq_some.mp hafter
    have hne : lead.toList ++ found ≠ rest := by
      rintro rfl
      rw [h] at hafter
      cases hafter
    simp [hne]

end ValueObject.Text

namespace ValueObject.TypeName

open Text

/-! ## Spellings -/

/-- **A spelling of a name**: blanks around it, and `global::` in front of it or not. -/
def Spells (name t : String) : Prop :=
  ∃ before lead after : String, isBlankText before = true ∧ isBlankText after = true ∧
    (lead = "" ∨ lead = "global::") ∧ t = before ++ lead ++ name ++ after

theorem unqualified_trim (t : String) : unqualified (trim t) = unqualified t := by
  rw [unqualified, toList_trim, trimChars_trimChars]
  rfl

@[simp]
theorem canonical_trim (t : String) : canonical (trim t) = canonical t := by
  rw [canonical, canonical, unqualified_trim]

/-- What is left of a text without blanks and `global::`, as the text without blanks. -/
theorem unqualified_eq_iff_trimChars {name t : String}
    (hlead : afterLead? "global::".toList name.toList = none) :
    unqualified t = name ↔
      trimChars t.toList = name.toList ∨ trimChars t.toList = ("global::" ++ name).toList := by
  rw [unqualified, ← String.toList_inj, String.toList_ofList, dropLead_eq_iff hlead,
    String.toList_append]

/-- **The spellings of a name are what the name is left of**, if it is trimmed and does not start with
`global::` itself. -/
theorem unqualified_eq_iff {name t : String} (htrimmed : Trimmed name.toList)
    (hlead : afterLead? "global::".toList name.toList = none) :
    unqualified t = name ↔ Spells name t := by
  rw [unqualified_eq_iff_trimChars hlead]
  constructor
  · intro h
    obtain ⟨before, after, hbefore, hafter, ht⟩ := exists_eq_around t.toList
    have hblank {cs : List Char} (hcs : ∀ c ∈ cs, isBlank c = true) :
        isBlankText (String.ofList cs) = true := by
      rw [isBlankText, isEmpty_trim_iff, String.toList_ofList]
      exact hcs
    obtain ⟨lead, hlead, hmiddle⟩ : ∃ lead : String, (lead = "" ∨ lead = "global::") ∧
        trimChars t.toList = (lead ++ name).toList := by
      rcases h with h | h
      · exact ⟨"", .inl rfl, by rw [h, String.empty_append]⟩
      · exact ⟨"global::", .inr rfl, h⟩
    refine ⟨.ofList before, lead, .ofList after, hblank hbefore, hblank hafter, hlead, ?_⟩
    rw [← String.toList_inj, ht, hmiddle]
    simp only [String.toList_append, String.toList_ofList, List.append_assoc]
  · rintro ⟨before, lead, after, hbefore, hafter, hlead, rfl⟩
    rw [isBlankText, isEmpty_trim_iff] at hbefore hafter
    have hmiddle : Trimmed (lead ++ name).toList := by
      have htrimmedLead : Trimmed lead.toList := by
        rcases hlead with rfl | rfl
        · decide
        · decide
      rw [String.toList_append]
      exact htrimmedLead.append htrimmed
    have hcut : trimChars (before ++ lead ++ name ++ after).toList = (lead ++ name).toList := by
      rw [← trimChars_around hbefore hmiddle hafter]
      simp only [String.toList_append, List.append_assoc]
    rw [hcut]
    rcases hlead with rfl | rfl
    · exact .inl (by rw [String.empty_append])
    · exact .inr rfl

/-! ## The type of texts -/

/-- **A spelling of the type of texts**, with `mark` at the end of the name. -/
def SpellsText (mark t : String) : Prop :=
  Spells ("string" ++ mark) t ∨ Spells ("System.String" ++ mark) t

/-- The two names of the type of texts may be nullable. -/
theorem spellsText_iff {mark t : String} (hmark : mark = "" ∨ mark = "?") :
    SpellsText mark t ↔ unqualified t = "string" ++ mark ∨ unqualified t = "System.String" ++ mark := by
  have hname : ∀ name ∈ ["string", "System.String"],
      (unqualified t = name ++ mark ↔ Spells (name ++ mark) t) := by
    intro name hname
    -- each of the four names is trimmed and starts otherwise than with `global::`
    have hplain : Trimmed (name ++ mark).toList ∧
        afterLead? "global::".toList (name ++ mark).toList = none := by
      revert name
      rcases hmark with rfl | rfl
      · decide
      · decide
    exact unqualified_eq_iff hplain.1 hplain.2
  rw [SpellsText, hname "string" (by decide), hname "System.String" (by decide)]

theorem mem_aliases_of_lookup {name s : String} (h : aliases.lookup name = some s) :
    (name, s) ∈ aliases := by
  obtain ⟨before, after, haliases, -⟩ := List.lookup_eq_some_iff.mp h
  rw [haliases]
  simp

/-- Of the aliases only one stands for the type of texts. -/
theorem canonical_eq_text_iff_unqualified {t : String} :
    canonical t = "System.String" ↔ unqualified t = "string" ∨ unqualified t = "System.String" := by
  rw [canonical]
  generalize unqualified t = u
  constructor
  · intro h
    rcases hlookup : aliases.lookup u with _ | s
    · rw [hlookup] at h
      exact .inr h
    · rw [hlookup] at h
      obtain rfl : s = "System.String" := h
      have honly : ∀ p ∈ aliases, p.2 = "System.String" → p.1 = "string" := by decide +kernel
      exact .inl (honly _ (mem_aliases_of_lookup hlookup) rfl)
  · rintro (rfl | rfl)
    · decide +kernel
    · decide +kernel

/-- **The type of texts is found under its two names**, and under no other. -/
theorem canonical_eq_text_iff {t : String} : canonical t = "System.String" ↔ SpellsText "" t := by
  rw [canonical_eq_text_iff_unqualified, spellsText_iff (.inl rfl), String.append_empty,
    String.append_empty]

/-- A nullable name of the type of texts is not found. -/
theorem canonical_ne_text_of_nullable {t : String} (h : SpellsText "?" t) :
    canonical t ≠ "System.String" := by
  rw [Ne, canonical_eq_text_iff_unqualified]
  rcases (spellsText_iff (.inr rfl)).mp h with h | h
  · rw [h]
    decide
  · rw [h]
    decide

/-- What spells the type of texts is no blank text. -/
theorem not_missing_of_spellsText {mark t : String} (hmark : mark = "" ∨ mark = "?")
    (h : SpellsText mark t) : ¬ Missing (some t) := by
  intro hmissing
  have hnone : unqualified t = "" := by
    rw [missing_some_iff, isBlankText, String.isEmpty_iff] at hmissing
    rw [← unqualified_trim, hmissing]
    decide
  rw [spellsText_iff hmark, hnone] at h
  revert h
  rcases hmark with rfl | rfl
  · decide
  · decide

/-! ## Generic names -/

/-- **A generic name is taken apart** at the first `<`; the `>` that belongs to it is the last one. -/
theorem splitGeneric_of_base {base : String} (argument : String) (htrimmed : Trimmed base.toList)
    (hbase : '<' ∉ base.toList) :
    splitGeneric (base ++ "<" ++ argument ++ ">") =
      some (String.ofList (dropLead "System." (dropLead "global::" base.toList)), trim argument) := by
  have hlist : (base ++ "<" ++ argument ++ ">").toList =
      base.toList ++ '<' :: (argument.toList ++ ['>']) := by
    simp [String.toList_append]
  have hends : Trimmed ('<' :: (argument.toList ++ ['>'])) := by
    refine ⟨?_, ?_⟩
    · intro c hc
      obtain rfl : '<' = c := by simpa using hc
      decide
    · intro c hc
      rw [← List.cons_append, List.getLast?_concat, Option.mem_some_iff] at hc
      rw [← hc]
      decide
  have hbefore : ∀ c ∈ base.toList, decide (c ≠ '<') = true := by
    intro c hc
    rw [decide_eq_true_eq]
    rintro rfl
    exact hbase hc
  have hfront : (base.toList ++ '<' :: (argument.toList ++ ['>'])).takeWhile (· ≠ '<') =
      base.toList := by
    rw [List.takeWhile_append_of_pos hbefore]
    simp
  have hback : (base.toList ++ '<' :: (argument.toList ++ ['>'])).dropWhile (· ≠ '<') =
      '<' :: (argument.toList ++ ['>']) := by
    rw [List.dropWhile_append_of_pos hbefore]
    simp
  rw [splitGeneric, hlist, trimChars_eq_self (htrimmed.append hends)]
  simp only [hfront, hback, List.reverse_append, List.reverse_singleton, List.singleton_append,
    List.reverse_reverse, trimChars_eq_self htrimmed, trim]

end ValueObject.TypeName
