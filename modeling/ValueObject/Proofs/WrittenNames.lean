/-
# ValueObject.Proofs.WrittenNames -- which names reach generated code

The settings are held to the grammar of namespaces; a declaration is not. All that the review asks of its
namespace is that something is left of it when it is trimmed, and of a property it asks nothing about its
name but a parameter that is free, and nothing about its type. What is left of the namespace, and what is
written of every field, is well-formed exactly if it was declared so (`written_names_iff`).

That the review asks no more is said by two laws: another namespace may be put in place, and another
property may be declared, with any text as its name and any text as its type.
-/

import ValueObject.Proofs.NamespacePath
import ValueObject.Proofs.ReplacedProperties
import ValueObject.Proofs.Source.UnitText
import ValueObject.Proofs.Verdict

namespace ValueObject

open Text Source Source.Code Identifier

/-! ## What the review does not ask -/

/-- **Any other namespace would do**, as long as it is not blank. -/
theorem Review.Accepts.inNamespace {d : Declaration} {a : Accepted}
    (ha : Accepts (.ofDeclaration d) a) {name : String} (hname : isBlankText name = false) :
    ∃ a', Accepts (.ofDeclaration (d.inNamespace name)) a' ∧ a'.namespaceName = trim name := by
  have hpresent : trimmed? (Descriptor.ofDeclaration (d.inNamespace name)).namespaceName =
      some (trim name) := by
    apply trimmed?_eq_some_iff.mpr
    refine ⟨?_, name, rfl, rfl⟩
    show ¬ Missing (some name)
    rw [missing_some_iff, hname]
    exact Bool.false_ne_true
  -- the shape of a declaration does not depend on its namespace
  cases ha with
  | single _ hshape hresolve => exact ⟨_, .single hpresent hshape hresolve, rfl⟩
  | multi _ hshape hfaultless hfields => exact ⟨_, .multi hpresent hshape hfaultless hfields, rfl⟩

theorem generate_inNamespace {g : Generator} {d : Declaration} {u : GeneratedUnit}
    (hu : g.generate d = .accepted u) {name : String} (hname : isBlankText name = false) :
    ∃ u' body, g.generate (d.inNamespace name) = .accepted u' ∧
      u'.source = namespaceText (trim name) body := by
  obtain ⟨a, ha, -⟩ := Generator.generate_eq_accepted_iff.mp hu
  obtain ⟨a', ha', hnamespace⟩ := ha.inNamespace hname
  obtain ⟨datatype, display, rest, hcode⟩ := a'.exists_code_eq g.settings
  have hsource : unitText (a'.code g.settings) = namespaceText (trim name)
      (typeText g.settings display (typeHeader a' datatype)
        (textAt 2 (defaultConstructor a'.descriptor.name g.settings.runtimeNamespace :: rest))) := by
    rw [hcode, unitText_unitOf_eq, hnamespace]
  exact ⟨_, _, Generator.generate_eq_accepted_iff.mpr ⟨a', ha', rfl⟩, hsource⟩

/-- The property that is declared last has a field of its own at the end, if its parameter is free. -/
theorem Field.collect_withMember {d : Declaration} {p : Property}
    (hp : (Member.property p).isField = true)
    (hfree : parameterName p.name ∉ (collect d).map parameter) :
    collect (d.withMember (.property p)) = collect d ++ [.ofProperty p] := by
  have hmembers : (d.withMember (.property p)).members = d.members ++ .property p :: [] := rfl
  have hproperties : (d.withMember (.property p)).fieldProperties = d.fieldProperties ++ [p] := by
    rw [Declaration.fieldProperties_of_members hmembers hp, Declaration.fieldProperties_eq_filterMap]
    rfl
  rw [collect_eq_ofProperties, hproperties, ofProperties_append_singleton, put_of_not_mem]
  · rfl
  · intro hmem
    obtain ⟨f, hf, hname⟩ := List.mem_map.mp hmem
    exact hfree (List.mem_map.mpr ⟨f, hf, congrArg parameterName hname⟩)

/-- Fields stay without fault when a well-formed one with a free parameter is added. -/
theorem Field.violations_append_singleton {fields : List Field} {p : Property}
    (hfaultless : violations fields = []) (hp : p.WellFormed)
    (hfree : parameterName p.name ∉ fields.map parameter) :
    violations (fields ++ [.ofProperty p]) = [] := by
  obtain ⟨hfields, hnodup⟩ := violationsAfter_eq_nil_iff.mp hfaultless
  apply violationsAfter_eq_nil_iff.mpr
  constructor
  · intro f hf
    rcases List.mem_append.mp hf with hf | hf
    · exact hfields f hf
    · rw [List.mem_singleton.mp hf]
      refine ⟨?_, hp.byValue, by simp⟩
      show p.accessors.all (· == .get) = true
      rw [List.all_eq_true]
      intro a ha
      rw [hp.getOnly a ha]
      rfl
  · rw [List.map_append, List.map_singleton, List.nodup_append]
    refine ⟨hnodup, by simp, ?_⟩
    rintro a ha b hb rfl
    rw [List.mem_singleton.mp hb] at ha
    exact hfree ha

/-- **Any other property would do**, as long as its parameter is free. -/
theorem generate_withMember {g : Generator} {d : Declaration} {u : GeneratedUnit}
    {options : List MultiOption} (husage : d.usage = .multi options)
    (hu : g.generate d = .accepted u) {p : Property}
    (hp : (Member.property p).isField = true) (hwell : p.WellFormed)
    (hfree : parameterName p.name ∉ (Field.collect d).map Field.parameter) :
    ∃ u', g.generate (d.withMember (.property p)) = .accepted u' := by
  obtain ⟨n, -, -, hnamespace, -⟩ := Generator.source_eq_namespaceText hu
  have hpresent : ¬ Missing (d.withMember (.property p)).namespaceName :=
    (trimmed?_eq_some_iff.mp hnamespace).1
  have husage' : (d.withMember (.property p)).usage = .multi options := husage
  have hcollect := Field.collect_withMember hp hfree
  have hfaultless : Field.violations (Field.collect (d.withMember (.property p))) = [] := by
    rw [hcollect]
    exact Field.violations_append_singleton (Generator.fields_of_accepted husage hu).1 hwell hfree
  obtain ⟨n, hn⟩ := ofDescriptor_multi hpresent husage'
  obtain ⟨a, ha⟩ := Review.ofMulti_accepts (d := .ofDeclaration (d.withMember (.property p)))
    (n := n) (o := .ofList options) hfaultless (by simp [hcollect])
  exact generate_of_accepted (hn.trans ha)

/-! ## Well-formed names -/

/-- **The names of a declaration are well-formed**: its namespace is a path, and the properties that
become fields have a name and a type. -/
structure Declaration.WellNamed (d : Declaration) : Prop where
  namespacePath : ∀ name, d.namespaceName = some name → NamespacePath (trim name).toList
  properties : ∀ options, d.usage = .multi options → ∀ p, LastOfName d.fieldProperties p →
    isBlankText p.name = false ∧ isBlankText p.typeName = false

/-- **The names that generated code is written with are well-formed.** -/
structure Declaration.WritesWellNamed (d : Declaration) (namespaceName : String) : Prop where
  namespacePath : NamespacePath namespaceName.toList
  fields : ∀ options, d.usage = .multi options → ∀ f ∈ Field.collect d,
    isBlankText f.name = false ∧ isBlankText f.typeName = false

/-- A field has the name of its property, and its type without the blanks at either end. -/
theorem Field.blank_iff {d : Declaration} :
    (∀ f ∈ collect d, isBlankText f.name = false ∧ isBlankText f.typeName = false) ↔
      ∀ p, LastOfName d.fieldProperties p →
        isBlankText p.name = false ∧ isBlankText p.typeName = false := by
  have htype (p : Property) : isBlankText (ofProperty p).typeName = isBlankText p.typeName :=
    isBlankText_trim p.typeName
  constructor
  · intro h p hp
    have hfield := h (.ofProperty p) (mem_collect_iff.mpr ⟨p, hp, rfl⟩)
    rwa [htype] at hfield
  · intro h f hf
    obtain ⟨p, hp, rfl⟩ := mem_collect_iff.mp hf
    rw [htype]
    exact h p hp

theorem Declaration.writesWellNamed_iff {d : Declaration} {n : String}
    (hn : trimmed? d.namespaceName = some n) : d.WritesWellNamed n ↔ d.WellNamed := by
  obtain ⟨-, raw, hraw, rfl⟩ := trimmed?_eq_some_iff.mp hn
  constructor
  · intro h
    refine ⟨?_, fun options husage => Field.blank_iff.mp (h.fields options husage)⟩
    intro name hname
    obtain rfl : raw = name := Option.some.inj (hraw.symm.trans hname)
    exact h.namespacePath
  · intro h
    exact ⟨h.namespacePath raw hraw, fun options husage =>
      Field.blank_iff.mpr (h.properties options husage)⟩

/-- **Names are written as they are declared.** The namespace of an accepted declaration is not blank and
is written without blanks at its ends. It is a path, and every field has a name and a type, exactly if
the names were declared so: the review accepts every other namespace that is not blank, and every
further property whose parameter is free, and writes them too. -/
theorem written_names_iff (g : Generator) (d : Declaration) (u : GeneratedUnit)
    (hu : g.generate d = .accepted u) :
    (∃ n body, trimmed? d.namespaceName = some n ∧ u.source = namespaceText n body ∧
      isBlankText n = false ∧ trim n = n ∧ (d.WritesWellNamed n ↔ d.WellNamed)) ∧
    (∀ name, isBlankText name = false →
      ∃ u' body, g.generate (d.inNamespace name) = .accepted u' ∧
        u'.source = namespaceText (trim name) body) ∧
    (∀ options p, d.usage = .multi options → (Member.property p).isField = true → p.WellFormed →
      parameterName p.name ∉ (Field.collect d).map Field.parameter →
      (∃ u', g.generate (d.withMember (.property p)) = .accepted u') ∧
        .ofProperty p ∈ Field.collect (d.withMember (.property p))) := by
  refine ⟨?_, fun name hname => generate_inNamespace hu hname, ?_⟩
  · obtain ⟨n, between, rest, hn, hsource⟩ := Generator.source_eq_namespaceText hu
    refine ⟨n, _, hn, hsource, ?_, ?_, Declaration.writesWellNamed_iff hn⟩
    · obtain ⟨hpresent, raw, hraw, rfl⟩ := trimmed?_eq_some_iff.mp hn
      rw [isBlankText_trim, Bool.eq_false_iff]
      intro hblank
      apply hpresent
      rw [hraw]
      exact missing_some_iff.mpr hblank
    · obtain ⟨-, raw, -, rfl⟩ := trimmed?_eq_some_iff.mp hn
      exact trim_trim raw
  · intro options p husage hp hwell hfree
    refine ⟨generate_withMember husage hu hp hwell hfree, ?_⟩
    rw [Field.collect_withMember hp hfree]
    simp

theorem written_names_score :
    ∃ u, Generator.standard.generate (scoreOf scoreProperties) = .accepted u ∧
      (∃ body, u.source = namespaceText "Games" body) ∧
      (scoreOf scoreProperties).WritesWellNamed "Games" := by
  obtain ⟨u, hu⟩ := accepted_score
  obtain ⟨n, body, hn, hsource, -, -, hnames⟩ := (written_names_iff .standard _ u hu).1
  obtain rfl : "Games" = n := Option.some.inj (Eq.trans (by decide +kernel) hn)
  refine ⟨u, hu, ⟨body, hsource⟩, hnames.mpr ⟨?_, ?_⟩⟩
  · intro name hname
    obtain rfl : "Games" = name := Option.some.inj hname
    exact isNamespacePath_iff.mp (by decide +kernel)
  · have hnamed : ∀ p ∈ (scoreOf scoreProperties).fieldProperties,
        isBlankText p.name = false ∧ isBlankText p.typeName = false := by
      decide +kernel
    intro options _ p hp
    exact hnamed p hp.mem

/-- **Names that are not well-formed are written.** A namespace that is not a path, and a property
without a name and without a type. -/
theorem unnamed_score_accepted :
    let d := (scoreOf ({ name := "", typeName := " " } :: scoreProperties)).inNamespace
      "Games..2nd half"
    (Generator.standard.generate d).isAccepted = true ∧
      trimmed? d.namespaceName = some "Games..2nd half" ∧
      isNamespacePath "Games..2nd half" = false ∧
      ∃ f ∈ Field.collect d, isBlankText f.name = true ∧ isBlankText f.typeName = true := by
  decide +kernel

end ValueObject
