/-
# ValueObject.Proofs.NormalSpelling -- when a canonical spelling is final

A name is in normal form when nothing can be taken off or looked up any more: it is trimmed, does not
start with `global::` and is no alias. These are exactly the names that are their own canonical spelling
(`canonical_eq_self_iff`).

Not every canonical spelling is in normal form. Blanks are taken off once, and before `global::` is, so a
blank or a second `global::` right behind the first is kept, and an alias behind it is not looked up. That
is the only way: `canonical_settled_iff` says for every name whether its canonical spelling is in normal
form, is its own canonical spelling, and denotes the same type as the name.
-/

import ValueObject.Proofs.TypeSpelling

namespace ValueObject.Text

theorem startsWith_iff {lead s : String} :
    startsWith lead s = true ↔ ∃ rest, s = lead ++ rest := by
  rw [startsWith, List.isPrefixOf_iff_prefix]
  constructor
  · rintro ⟨rest, hrest⟩
    refine ⟨.ofList rest, ?_⟩
    rw [← String.toList_inj, ← hrest, String.toList_append, String.toList_ofList]
  · rintro ⟨rest, rfl⟩
    rw [String.toList_append]
    exact List.prefix_append _ _

end ValueObject.Text

namespace ValueObject.TypeName

open Text

/-! ## Names in normal form -/

/-- **A name in normal form**: there is nothing to take off and nothing to look up. -/
structure Normal (name : String) : Prop where
  trimmed : Trimmed name.toList
  unqualified : startsWith "global::" name = false
  noAlias : name ∉ aliases.map Prod.fst

theorem normal_iff {name : String} :
    Normal name ↔ Trimmed name.toList ∧ startsWith "global::" name = false ∧
      name ∉ aliases.map Prod.fst :=
  ⟨fun h => ⟨h.trimmed, h.unqualified, h.noAlias⟩, fun h => ⟨h.1, h.2.1, h.2.2⟩⟩

instance (name : String) : Decidable (Normal name) :=
  decidable_of_iff _ normal_iff.symm

/-- The name begins with something to take off. -/
def Loose (name : String) : Prop :=
  name.toList.head?.any isBlank = true ∨ startsWith "global::" name = true

instance (name : String) : Decidable (Loose name) :=
  inferInstanceAs (Decidable (_ ∨ _))

/-- **Something is hidden behind `global::`**: a blank, or `global::` once more. -/
def Hides (t : String) : Prop :=
  ∃ rest, trim t = "global::" ++ rest ∧ Loose rest

/-- A name in normal form does not begin loosely. -/
theorem Normal.not_loose {name : String} (h : Normal name) : ¬ Loose name := by
  rintro (hblank | hlead)
  · obtain ⟨c, hc, hblank⟩ := Option.any_eq_true _ _ |>.mp hblank
    rw [h.trimmed.front c hc] at hblank
    cases hblank
  · rw [h.unqualified] at hlead
    cases hlead

/-- The `System` names are in normal form, and no alias begins loosely. -/
theorem normal_of_mem_aliases : ∀ p ∈ aliases, Normal p.2 ∧ ¬ Loose p.1 := by
  decide +kernel

/-! ## What is left of a name -/

theorem unqualified_of_trim_eq {t rest : String} (h : trim t = "global::" ++ rest) :
    unqualified t = rest := by
  rw [unqualified, ← toList_trim, h, String.toList_append, dropLead, afterLead?_append,
    Option.getD_some, String.ofList_toList]

theorem unqualified_of_not_startsWith {t : String} (h : startsWith "global::" (trim t) = false) :
    unqualified t = trim t := by
  have hnone : afterLead? "global::".toList (trim t).toList = none := by
    rw [Option.eq_none_iff_forall_ne_some]
    intro rest hrest
    rw [startsWith, afterLead?_eq_some.mp hrest] at h
    simp at h
  rw [unqualified, ← toList_trim, dropLead, hnone, Option.getD_none, String.ofList_toList]

/-- Either nothing stands in front of what is left, or `global::` does. -/
theorem trim_cases (t : String) :
    (startsWith "global::" (trim t) = false ∧ unqualified t = trim t) ∨
      trim t = "global::" ++ unqualified t := by
  rcases hlead : startsWith "global::" (trim t) with _ | _
  · exact .inl ⟨rfl, unqualified_of_not_startsWith hlead⟩
  · obtain ⟨rest, hrest⟩ := startsWith_iff.mp hlead
    rw [unqualified_of_trim_eq hrest]
    exact .inr hrest

theorem hides_iff {t : String} : Hides t ↔ Loose (unqualified t) := by
  constructor
  · rintro ⟨rest, hrest, hloose⟩
    rwa [unqualified_of_trim_eq hrest]
  · intro hloose
    rcases trim_cases t with ⟨hlead, hself⟩ | hlead
    · -- a trimmed name that does not start with `global::` is not loose
      rw [hself] at hloose
      rcases hloose with hblank | hagain
      · obtain ⟨c, hc, hblank⟩ := Option.any_eq_true _ _ |>.mp hblank
        rw [toList_trim] at hc
        rw [isBlank_head?_trimChars hc] at hblank
        cases hblank
      · rw [hlead] at hagain
        cases hagain
    · exact ⟨unqualified t, hlead, hloose⟩

/-- No blank is left at the end. -/
theorem isBlank_getLast?_unqualified {t : String} {c : Char}
    (h : c ∈ (unqualified t).toList.getLast?) : isBlank c = false := by
  have hlast : c ∈ (trimChars t.toList).getLast? := by
    rw [← toList_trim]
    rcases trim_cases t with ⟨-, hself⟩ | hlead
    · rwa [← hself]
    · rw [hlead, String.toList_append, List.getLast?_append, h, Option.some_or]
      rfl
  exact isBlank_getLast?_trimChars hlast

/-- The canonical spelling is what an alias stands for, or what is left of a name that is no alias. -/
theorem canonical_cases (t : String) :
    (∃ s, (unqualified t, s) ∈ aliases ∧ canonical t = s) ∨
      (unqualified t ∉ aliases.map Prod.fst ∧ canonical t = unqualified t) := by
  rw [canonical]
  rcases hlookup : aliases.lookup (unqualified t) with _ | s
  · refine .inr ⟨?_, rfl⟩
    rw [List.lookup_eq_none_iff] at hlookup
    rintro hmem
    obtain ⟨p, hp, heq⟩ := List.mem_map.mp hmem
    simpa [heq] using hlookup p hp
  · exact .inl ⟨s, mem_aliases_of_lookup hlookup, rfl⟩

/-! ## Canonical spellings -/

/-- **A name in normal form is its own canonical spelling**, and no other name is. -/
theorem canonical_eq_self_iff {name : String} : canonical name = name ↔ Normal name := by
  constructor
  · intro h
    rcases canonical_cases name with ⟨s, hs, hcanonical⟩ | ⟨hnone, hcanonical⟩
    · obtain rfl : s = name := hcanonical.symm.trans h
      exact (normal_of_mem_aliases _ hs).1
    · have hself : unqualified name = name := hcanonical.symm.trans h
      rcases trim_cases name with ⟨hlead, htrim⟩ | hlead
      · have hname : trim name = name := htrim.symm.trans hself
        rw [hname] at hlead
        rw [hself] at hnone
        refine ⟨?_, hlead, hnone⟩
        rw [← hname, toList_trim]
        exact trimmed_trimChars _
      · -- a name is not longer once it is trimmed, so nothing can stand in front of it then
        have hlength := length_trimChars_le name.toList
        rw [← toList_trim, hlead, hself, String.toList_append, List.length_append] at hlength
        have height : "global::".toList.length = 8 := by decide
        omega
  · intro h
    have htrim : trim name = name := by
      rw [trim, trimChars_eq_self h.trimmed, String.ofList_toList]
    have hself : unqualified name = name := by
      rw [unqualified_of_not_startsWith (by rw [htrim]; exact h.unqualified), htrim]
    rcases canonical_cases name with ⟨s, hs, -⟩ | ⟨-, hcanonical⟩
    · rw [hself] at hs
      exact absurd (List.mem_map.mpr ⟨_, hs, rfl⟩) h.noAlias
    · exact hcanonical.trans hself

/-- **A canonical spelling is in normal form** unless something was hidden behind `global::`. -/
theorem normal_canonical_iff {t : String} : Normal (canonical t) ↔ ¬ Hides t := by
  rw [hides_iff]
  rcases canonical_cases t with ⟨s, hs, hcanonical⟩ | ⟨hnone, hcanonical⟩
  · obtain ⟨hnormal, hloose⟩ := normal_of_mem_aliases _ hs
    rw [hcanonical]
    exact iff_of_true hnormal hloose
  · rw [hcanonical]
    constructor
    · exact Normal.not_loose
    · intro hloose
      rw [Loose, not_or, Bool.not_eq_true, Bool.not_eq_true] at hloose
      refine ⟨⟨?_, fun c hc => isBlank_getLast?_unqualified hc⟩, hloose.2, hnone⟩
      intro c hc
      by_contra hblank
      have hany := Option.any_eq_true _ _ |>.mpr ⟨c, hc, by simpa using hblank⟩
      rw [hloose.1] at hany
      cases hany

/-- Whatever a name is, its canonical spelling is no alias. -/
theorem canonical_not_mem_aliases (t : String) : canonical t ∉ aliases.map Prod.fst := by
  rcases canonical_cases t with ⟨s, hs, hcanonical⟩ | ⟨hnone, hcanonical⟩
  · rw [hcanonical]
    exact (normal_of_mem_aliases _ hs).1.noAlias
  · rwa [hcanonical]

/-- Whatever a name is, its canonical spelling does not end in a blank. -/
theorem isBlank_getLast?_canonical {t : String} {c : Char}
    (h : c ∈ (canonical t).toList.getLast?) : isBlank c = false := by
  rcases canonical_cases t with ⟨s, hs, hcanonical⟩ | ⟨-, hcanonical⟩
  · rw [hcanonical] at h
    exact (normal_of_mem_aliases _ hs).1.trimmed.back c h
  · rw [hcanonical] at h
    exact isBlank_getLast?_unqualified h

/-- What is hidden behind `global::` is kept as it stands there. -/
theorem Hides.trim_eq {t : String} (h : Hides t) : trim t = "global::" ++ canonical t := by
  have hloose := hides_iff.mp h
  rcases canonical_cases t with ⟨s, hs, -⟩ | ⟨-, hcanonical⟩
  · exact absurd hloose (normal_of_mem_aliases _ hs).2
  · obtain ⟨rest, hrest, -⟩ := h
    rw [hcanonical, unqualified_of_trim_eq hrest, hrest]

/-- **When a canonical spelling is final.** It is in normal form, it is its own canonical spelling, and it
denotes the type that the name denotes, each exactly if nothing is hidden behind `global::`. In any case it
is no alias and does not end in a blank; and what is hidden is kept as it stands behind `global::`. -/
theorem canonical_settled_iff (t : String) :
    (Normal (canonical t) ↔ ¬ Hides t) ∧
    (canonical (canonical t) = canonical t ↔ ¬ Hides t) ∧
    (same t (canonical t) = true ↔ ¬ Hides t) ∧
    canonical t ∉ aliases.map Prod.fst ∧
    (∀ c ∈ (canonical t).toList.getLast?, isBlank c = false) ∧
    (Hides t → trim t = "global::" ++ canonical t) := by
  have hagain : canonical (canonical t) = canonical t ↔ ¬ Hides t :=
    canonical_eq_self_iff.trans normal_canonical_iff
  refine ⟨normal_canonical_iff, hagain, ?_, canonical_not_mem_aliases t, ?_, Hides.trim_eq⟩
  · rw [same_iff, eq_comm, hagain]
  · exact fun c hc => isBlank_getLast?_canonical hc

theorem canonical_settled_iff_doubled :
    let t := "\tglobal::global::System.Int32 "
    Hides t ∧ trim t = "global::" ++ canonical t ∧ ¬ Normal (canonical t) := by
  intro t
  have hhides : Hides t := ⟨"global::System.Int32", by decide +kernel, by decide +kernel⟩
  obtain ⟨hnormal, -, -, -, -, hkept⟩ := canonical_settled_iff t
  exact ⟨hhides, hkept hhides, fun h => hnormal.mp h hhides⟩

/-- **A blank behind `global::` is kept**, and the alias behind it is found only the second time. -/
theorem canonical_not_settled :
    canonical "global:: int" = " int" ∧ ¬ Normal (canonical "global:: int") ∧
      canonical (canonical "global:: int") = "System.Int32" ∧
      same "global:: int" (canonical "global:: int") = false := by
  decide +kernel

end ValueObject.TypeName
