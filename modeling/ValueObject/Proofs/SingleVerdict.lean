/-
# ValueObject.Proofs.SingleVerdict -- how the review of a declaration over one value ends

The review of a declaration over one value has four ends, and each has one constructor here
(`SingleVerdict`), with what the declaration is like then. The review of every such declaration ends in
one of them (`singleVerdict`), so a proof about it goes through the four and opens no descriptor and no
resolution. Only the third of them depends on interfaces and options: text is asked to be parsed into
text (`Declaration.Conflicts`).
-/

import ValueObject.Proofs.Verdict

namespace ValueObject

open Text

/-- **Parsing is asked for, and the datatype is the type of texts.** -/
def Declaration.Conflicts (d : Declaration) (t : Option String) (options : List ValueOption) : Prop :=
  (∃ s, t = some s ∧ TypeName.canonical s = "System.String") ∧ d.AsksParsing options

/-- **The ends of the review of a declaration over one value.** -/
inductive SingleVerdict (d : Declaration) (t : Option String) (options : List ValueOption) :
    Review → Prop
  | missingNamespace : Missing d.namespaceName →
      SingleVerdict d t options (.rejected [d.report .missingNamespace])
  | unresolvableDatatype : ¬ Missing d.namespaceName → Missing t →
      SingleVerdict d t options (.rejected [d.report .unresolvableDatatype])
  | stringNotParsable : ¬ Missing d.namespaceName → ¬ Missing t → d.Conflicts t options →
      SingleVerdict d t options (.rejected [d.report .stringNotParsable])
  | accepted {a : Accepted} : ¬ Missing d.namespaceName → ¬ Missing t → ¬ d.Conflicts t options →
      SingleVerdict d t options (.accepted a)

section

variable {d : Declaration} {t : Option String} {options : List ValueOption}

/-- A datatype that is not missing is declared. -/
theorem exists_ofDescriptor_eq (husage : d.usage = .single t options)
    (hnamespace : ¬ Missing d.namespaceName) (hdatatype : ¬ Missing t) :
    ∃ s n, t = some s ∧ Review.ofDescriptor (.ofDeclaration d) =
      .ofSingle (.ofDeclaration d) n (some (trim s)) (.ofList options) := by
  obtain ⟨s, rfl⟩ : ∃ s, t = some s := by
    refine Option.ne_none_iff_exists'.mp ?_
    rintro rfl
    exact hdatatype fun _ h => by cases h
  obtain ⟨n, hreview⟩ := ofDescriptor_single hnamespace husage
  rw [trimmed?_eq_some_iff.mpr ⟨hdatatype, s, rfl, rfl⟩] at hreview
  exact ⟨s, n, rfl, hreview⟩

theorem Declaration.conflicts_some_iff {s : String} : d.Conflicts (some s) options ↔
    TypeName.canonical s = "System.String" ∧ d.AsksParsing options := by
  simp [Conflicts]

theorem ofDescriptor_of_conflicts (husage : d.usage = .single t options)
    (hnamespace : ¬ Missing d.namespaceName) (hdatatype : ¬ Missing t)
    (hconflict : d.Conflicts t options) :
    Review.ofDescriptor (.ofDeclaration d) = .rejected [d.report .stringNotParsable] := by
  obtain ⟨s, n, rfl, hreview⟩ := exists_ofDescriptor_eq husage hnamespace hdatatype
  obtain ⟨hstring, hparsable⟩ := conflict_iff.mpr (Declaration.conflicts_some_iff.mp hconflict)
  exact hreview.trans (Review.ofSingle_conflict hstring hparsable)

theorem ofDescriptor_of_not_conflicts (husage : d.usage = .single t options)
    (hnamespace : ¬ Missing d.namespaceName) (hdatatype : ¬ Missing t)
    (hconflict : ¬ d.Conflicts t options) :
    ∃ a, Review.ofDescriptor (.ofDeclaration d) = .accepted a := by
  obtain ⟨s, n, rfl, hreview⟩ := exists_ofDescriptor_eq husage hnamespace hdatatype
  rw [Declaration.conflicts_some_iff] at hconflict
  obtain ⟨a, ha⟩ := Review.ofSingle_accepts (mt conflict_iff.mp hconflict)
  exact ⟨a, hreview.trans ha⟩

/-- **Every review of a declaration over one value ends so.** -/
theorem singleVerdict (husage : d.usage = .single t options) :
    SingleVerdict d t options (Review.ofDescriptor (.ofDeclaration d)) := by
  by_cases hnamespace : Missing d.namespaceName
  · rw [ofDescriptor_missing hnamespace]
    exact .missingNamespace hnamespace
  by_cases hdatatype : Missing t
  · obtain ⟨n, hreview⟩ := ofDescriptor_single hnamespace husage
    rw [hreview, trimmed?_eq_none_iff.mpr hdatatype]
    exact .unresolvableDatatype hnamespace hdatatype
  by_cases hconflict : d.Conflicts t options
  · rw [ofDescriptor_of_conflicts husage hnamespace hdatatype hconflict]
    exact .stringNotParsable hnamespace hdatatype hconflict
  · obtain ⟨a, ha⟩ := ofDescriptor_of_not_conflicts husage hnamespace hdatatype hconflict
    rw [ha]
    exact .accepted hnamespace hdatatype hconflict

/-- The outcome of a generator tells the end of the review apart from the others. -/
theorem generate_eq_stringNotParsable_iff {g : Generator} (husage : d.usage = .single t options) :
    g.generate d = .rejected [d.report .stringNotParsable] ↔
      ¬ Missing d.namespaceName ∧ ¬ Missing t ∧ d.Conflicts t options := by
  have hverdict := singleVerdict husage
  generalize hreview : Review.ofDescriptor (.ofDeclaration d) = r at hverdict
  cases hverdict with
  | missingNamespace hnamespace =>
    rw [generate_of_rejected hreview]
    simp [Declaration.report, hnamespace]
  | unresolvableDatatype _ hdatatype =>
    rw [generate_of_rejected hreview]
    simp [Declaration.report, hdatatype]
  | stringNotParsable hnamespace hdatatype hconflict =>
    rw [generate_of_rejected hreview]
    simp [hnamespace, hdatatype, hconflict]
  | accepted _ _ hconflict =>
    obtain ⟨u, hu⟩ := generate_of_accepted (g := g) hreview
    rw [hu]
    simp [hconflict]

end

end ValueObject
