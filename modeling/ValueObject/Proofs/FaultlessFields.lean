/-
# ValueObject.Proofs.FaultlessFields -- the fields that reach generated code

The review looks at fields one after the other and keeps the parameters it has seen. What it leaves
through is stated here without the scan: no field of an accepted declaration can be written to or
returns by reference, no two have one parameter, and none of the names that code is generated with is
a keyword. The backing fields are never compared with each other. That they are distinct follows,
since the lower-cased name decides the parameter as well as the backing field
(`accepted_fields`).
-/

import Mathlib.Data.List.Nodup
import ValueObject.Proofs.Acceptance
import ValueObject.Proofs.DerivedNames
import ValueObject.Proofs.FieldOrder

namespace ValueObject

/-! ## Fields without faults -/

namespace Field

theorem faults_eq_nil_iff {taken : List String} {f : Field} :
    f.faults taken = [] ↔ f.readOnly = true ∧ f.returnsByRef = false ∧ f.parameter ∉ taken := by
  simp [faults]

/-- **No field is at fault** when each is read-only, none returns by reference, and no parameter
occurs twice or among those taken before. -/
theorem violationsAfter_eq_nil_iff {taken : List String} {fields : List Field} :
    violationsAfter taken fields = [] ↔
      (∀ f ∈ fields, f.readOnly = true ∧ f.returnsByRef = false ∧ f.parameter ∉ taken) ∧
        (fields.map parameter).Nodup := by
  -- each field adds its parameter to those that are taken for the rest
  induction fields generalizing taken with
  | nil => simp [violationsAfter]
  | cons f rest ih =>
    rw [violationsAfter, List.append_eq_nil_iff, List.map_eq_nil_iff, faults_eq_nil_iff, ih,
      List.map_cons, List.nodup_cons]
    grind

theorem nodup_parameters_of_faultless {fields : List Field} (h : violations fields = []) :
    (fields.map parameter).Nodup :=
  (violationsAfter_eq_nil_iff.mp h).2

/-- **Distinct parameters make distinct backing fields.** -/
theorem nodup_backings_of_nodup_parameters {fields : List Field}
    (h : (fields.map parameter).Nodup) : (fields.map backing).Nodup := by
  rw [List.Nodup, List.pairwise_map] at h ⊢
  refine h.imp ?_
  intro p q hparameter hbacking
  exact hparameter (Identifier.parameterName_eq_of_backingName_eq hbacking)

/-- A field is read-only exactly when its property can neither be set nor initialised. -/
theorem readOnly_ofProperty_iff {p : Property} :
    (ofProperty p).readOnly = true ↔ .set ∉ p.accessors ∧ .init ∉ p.accessors := by
  have hreadOnly : (ofProperty p).readOnly = p.accessors.all (· == .get) := rfl
  rw [hreadOnly, List.all_eq_true]
  constructor
  · intro hget
    constructor
    · intro hset
      exact absurd (hget .set hset) (by decide)
    · intro hinit
      exact absurd (hget .init hinit) (by decide)
  · rintro ⟨hset, hinit⟩ a ha
    cases a with
    | get => rfl
    | set => exact absurd ha hset
    | init => exact absurd ha hinit

end Field

/-! ## Accepted declarations -/

theorem nodup_parameters_of_accepted {g : Generator} {d : Declaration} {u : GeneratedUnit}
    {options : List MultiOption} (husage : d.usage = .multi options)
    (hu : g.generate d = .accepted u) : ((Field.collect d).map Field.parameter).Nodup :=
  Field.nodup_parameters_of_faultless (Generator.fields_of_accepted husage hu).1

/-- **The fields of an accepted declaration.** There is one at least. Each stands for the last property
of its name, which can neither be set nor initialised and returns by value. No two have one
parameter or one backing field, and no parameter is a keyword. -/
theorem accepted_fields (g : Generator) (d : Declaration) (options : List MultiOption)
    (u : GeneratedUnit) (husage : d.usage = .multi options) (hu : g.generate d = .accepted u) :
    Field.collect d ≠ [] ∧
    (∀ f ∈ Field.collect d, f.readOnly = true ∧ f.returnsByRef = false ∧
      ∃ p, LastOfName d.fieldProperties p ∧ f = .ofProperty p ∧
        .set ∉ p.accessors ∧ .init ∉ p.accessors ∧ p.returnsByRef = false) ∧
    ((Field.collect d).map Field.parameter).Nodup ∧
    (∀ f ∈ Field.collect d, f.parameter ∉ Identifier.keywords) ∧
    ((Field.collect d).map Field.backing).Nodup := by
  obtain ⟨hfaultless, hfields⟩ := Generator.fields_of_accepted husage hu
  have hnodup := Field.nodup_parameters_of_faultless hfaultless
  refine ⟨hfields, ?_, hnodup, ?_, Field.nodup_backings_of_nodup_parameters hnodup⟩
  · intro f hf
    obtain ⟨hreadOnly, hbyValue, -⟩ := (Field.violationsAfter_eq_nil_iff.mp hfaultless).1 f hf
    obtain ⟨p, hlast, rfl⟩ := Field.mem_collect_iff.mp hf
    obtain ⟨hset, hinit⟩ := Field.readOnly_ofProperty_iff.mp hreadOnly
    exact ⟨hreadOnly, hbyValue, p, hlast, rfl, hset, hinit, hbyValue⟩
  · intro f _ hkeyword
    have hescaped := Identifier.isKeyword_parameterName f.name
    rw [Identifier.isKeyword, Bool.eq_false_iff] at hescaped
    exact hescaped (List.contains_iff_mem.mpr hkeyword)

/-- A lesson. The first declaration of its class could be written to and the second cannot. -/
def lessonDeclaration : Declaration where
  name := "Lesson"
  namespaceName := some "School"
  usage := .multi []
  members := [
    .property { name := "Class", typeName := "string", accessors := [.get, .set] },
    .property { name := "Hour", typeName := "int", isValueType := true },
    .property { name := "Class", typeName := "string" }]

theorem accepted_fields_lesson :
    ∃ u, Generator.standard.generate lessonDeclaration = .accepted u ∧
      (Field.collect lessonDeclaration).map Field.parameter = ["@class", "hour"] ∧
      (∀ f ∈ Field.collect lessonDeclaration, f.readOnly = true) ∧
      ((Field.collect lessonDeclaration).map Field.backing).Nodup := by
  have haccepted : (Generator.standard.generate lessonDeclaration).isAccepted = true := by
    decide +kernel
  obtain ⟨u, hu⟩ := Outcome.isAccepted_iff.mp haccepted
  obtain ⟨-, hfields, -, -, hbackings⟩ := accepted_fields .standard lessonDeclaration [] u rfl hu
  exact ⟨u, hu, by decide +kernel, fun f hf => (hfields f hf).1, hbackings⟩

end ValueObject
