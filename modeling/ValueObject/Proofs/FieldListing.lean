/-
# ValueObject.Proofs.FieldListing -- every listing of the fields is in their order

The unit of a declaration over several values names the fields in up to sixteen sections: as
parameters, as arguments, in assignments, as properties, in hashes and so on. Two fields of one type
that changed places in one section would compile and mix up values.

They cannot. The unit is one template filled with the fields, each section of it has an entry for each
field in their order, and that is the order in which the names of the properties first occur
(`sections_follow_fields`). Which sections there are is said in terms of the declaration.
-/

import ValueObject.Proofs.Acceptance
import ValueObject.Proofs.FieldOrder
import ValueObject.Proofs.Source.FieldTemplate

namespace ValueObject

open Text Source

/-! ## The sections that a declaration asks for -/

/-- **The unit of the declaration has the section.** -/
def Declaration.HasSection (d : Declaration) (options : List MultiOption) : Section → Prop
  | .row .display | .row .constructorParameters | .column .assignments | .column .properties => True
  | .row .constructorGuard | .row .tryParameters | .row .tryGuard | .row .tryArguments =>
    (Descriptor.ofDeclaration d).predicate.isSome
  | .row .text | .row .comparisons => d.kind = .plain
  | .row .combinedHash => d.kind = .plain ∧ (Field.collect d).length ≤ 8
  | .column .accumulatedHash => d.kind = .plain ∧ 8 < (Field.collect d).length
  | .row .factoryParameters | .row .factoryArguments =>
    .explicitFrom ∈ options ∨ (Descriptor.ofDeclaration d).factory.isSome
  | .row .outParameters | .column .handedOut => .deconstruct ∈ options

/-- These are the sections of the outline of the type that is generated. -/
theorem Declaration.has_outline_iff {d : Declaration} {s : Settings} {options : List MultiOption}
    {x : Section} :
    (d.multiValue s options).outline.has x = true ↔ d.HasSection options x := by
  have hlimit : MultiValue.combineLimit = 8 := rfl
  rcases x with r | c
  · cases r <;> simp [HasSection, Outline.has, hlimit, ← isRecord_eq_false_iff]
  · cases c <;> simp [HasSection, Outline.has, hlimit, ← isRecord_eq_false_iff]

/-! ## Accepted declarations -/

/-- **Every section lists the fields, each once and in their order.** The fields have the names of the
public partial properties, in the order in which these first occur, and each is what the last property
of its name becomes. The unit is the template of the declaration with these fields in its sections. No
section occurs twice, and there are exactly those that the declaration asks for. -/
theorem sections_follow_fields (g : Generator) (d : Declaration) (options : List MultiOption)
    (u : GeneratedUnit) (husage : d.usage = .multi options) (hu : g.generate d = .accepted u) :
    (Field.collect d).map Field.name = (d.fieldProperties.map Property.name).eraseDups ∧
    (∀ f, f ∈ Field.collect d ↔ ∃ p, LastOfName d.fieldProperties p ∧ f = .ofProperty p) ∧
    ∃ n template, trimmed? d.namespaceName = some n ∧
      template = (d.multiValue g.settings options).outline.unitTemplate g.settings n
        (typeHeader (d.acceptedMulti n options) "") ∧
      u.source = Code.unitText
        (Template.fillAll (d.multiValue g.settings options).outline (Field.collect d) template) ∧
      (Template.sectionsAll template).Nodup ∧
      ∀ x, x ∈ Template.sectionsAll template ↔ d.HasSection options x := by
  obtain ⟨n, hnamespace, hsource⟩ := Generator.source_of_multi husage hu
  refine ⟨Field.names_collect d, fun f => Field.mem_collect_iff, n, _, hnamespace, rfl, ?_, ?_, ?_⟩
  · have hfill := (d.multiValue g.settings options).fillAll_unitTemplate
      (d.acceptedMulti n options) g.settings ""
    rw [Declaration.multiValue_fields, Declaration.acceptedMulti_namespaceName] at hfill
    rw [hsource, hfill]
  · rw [Outline.sectionsAll_unitTemplate]
    exact Section.nodup_all.filter _
  · intro x
    rw [Outline.sectionsAll_unitTemplate, List.mem_filter, Declaration.has_outline_iff]
    exact and_iff_right (Section.mem_all x)

/-- Nine squares of a board. The first is declared again at the end. -/
def squaresDeclaration : Declaration where
  name := "Squares"
  namespaceName := some "Board"
  kind := .plain
  usage := .multi [.explicitFrom, .deconstruct]
  members := ["A", "B", "C", "D", "E", "F", "G", "H", "I", "A"].map fun p =>
    .property { name := p, typeName := "int", isValueType := true }

theorem sections_follow_fields_squares :
    ∃ u template, Generator.standard.generate squaresDeclaration = .accepted u ∧
      (Field.collect squaresDeclaration).map Field.name =
        ["A", "B", "C", "D", "E", "F", "G", "H", "I"] ∧
      u.source = Code.unitText
        (Template.fillAll (squaresDeclaration.multiValue {} [.explicitFrom, .deconstruct]).outline
          (Field.collect squaresDeclaration) template) ∧
      Section.column .accumulatedHash ∈ Template.sectionsAll template ∧
      Section.row .combinedHash ∉ Template.sectionsAll template := by
  have haccepted : (Generator.standard.generate squaresDeclaration).isAccepted = true := by
    decide +kernel
  obtain ⟨u, hu⟩ := Outcome.isAccepted_iff.mp haccepted
  obtain ⟨hnames, -, _, template, -, -, hsource, -, hsections⟩ :=
    sections_follow_fields .standard squaresDeclaration [.explicitFrom, .deconstruct] u rfl hu
  have hnine : (Field.collect squaresDeclaration).length = 9 := by decide +kernel
  refine ⟨u, template, hu, hnames.trans (by decide +kernel), hsource, ?_, ?_⟩
  · rw [hsections]
    exact ⟨rfl, by omega⟩
  · rw [hsections]
    rintro ⟨-, hfew⟩
    omega

end ValueObject
