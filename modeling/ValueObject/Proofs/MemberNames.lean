/-
# ValueObject.Proofs.MemberNames -- when a property clashes with another member

A type over several values has a property and a backing field for each of its fields, and methods
besides: those that a plain struct overrides, and `From`, `Deconstruct` and `Try` where they are asked
for. Members of different kinds must not share a name, or the type does not compile.

The review compares parameters with each other and no member with a member of another kind. A backing
field starts with a mark and is called like no method, so that pair is safe. The other two are not: a
property may be called like a method of its own type, and like the backing field of another property.
The names are apart exactly when no property is (`memberNames_apart_iff`).
-/

import ValueObject.Proofs.Acceptance
import ValueObject.Proofs.Source.DeclaredMembers

namespace ValueObject

open Text Source

/-! ## The methods that a declaration asks for -/

/-- **The names of the methods** generated for a declaration over several values. -/
def Declaration.methodNames (d : Declaration) (options : List MultiOption) : List String :=
  (if d.isRecord then [] else ["ToString", "Equals", "GetHashCode"]) ++
  (if .explicitFrom ∈ options ∨ (Descriptor.ofDeclaration d).factory.isSome then ["From"] else []) ++
  (if .deconstruct ∈ options then ["Deconstruct"] else []) ++
  (if (Descriptor.ofDeclaration d).predicate.isSome then ["Try"] else [])

/-- These are the methods of the type that is generated. Equality with the type itself adds no name,
since it comes with the overrides. -/
theorem Declaration.mem_methodNames_multiValue {d : Declaration} {s : Settings}
    {options : List MultiOption} {x : String} :
    x ∈ (d.multiValue s options).methodNames ↔ x ∈ d.methodNames options := by
  simp only [MultiValue.methodNames, methodNames, multiValue_isRecord, multiValue_options,
    multiValue_factory, multiValue_predicate, multiValue_capabilities,
    MultiOptions.explicitFrom_ofList, MultiOptions.deconstruct_ofList,
    CapabilitySet.contains_resolveMulti, List.contains_iff_mem, Bool.or_eq_true, List.mem_append]
  -- equality with the type itself names `Equals` a second time, and only where there are overrides
  cases d.isRecord <;> grind

/-! ## Accepted declarations -/

/-- **When the members of an accepted declaration have different names.** What is generated declares
one member after the other: for each field a backing field and a property, and the methods that are
asked for. No backing field is called like a method. So members of different kinds have different
names exactly when no property is called like a method or like a backing field. -/
theorem memberNames_apart_iff (g : Generator) (d : Declaration) (options : List MultiOption)
    (u : GeneratedUnit) (husage : d.usage = .multi options) (hu : g.generate d = .accepted u) :
    ∃ n members declared, trimmed? d.namespaceName = some n ∧
      u.source = Code.unitText (unitOf (d.acceptedMulti n options) g.settings ""
        (d.multiValue g.settings options).display members) ∧
      List.Forall₂ Code.Declares members declared ∧
      namesOf .property declared = (Field.collect d).map Field.name ∧
      namesOf .backingField declared = (Field.collect d).map Field.backing ∧
      (∀ x, x ∈ namesOf .method declared ↔ x ∈ d.methodNames options) ∧
      (∀ q ∈ Field.collect d, q.backing ∉ d.methodNames options) ∧
      (NamesApart declared ↔
        ∀ p ∈ Field.collect d, p.name ∉ d.methodNames options ∧
          ∀ q ∈ Field.collect d, p.name ≠ q.backing) := by
  obtain ⟨n, hnamespace, hsource⟩ := Generator.source_of_multi husage hu
  obtain ⟨v, hv⟩ : ∃ v, v = d.multiValue g.settings options := ⟨_, rfl⟩
  have hfields : v.fields = Field.collect d := by rw [hv, Declaration.multiValue_fields]
  have hmethods : ∀ x, x ∈ v.methodNames ↔ x ∈ d.methodNames options := by
    intro x
    rw [hv, Declaration.mem_methodNames_multiValue]
  rw [← hv] at hsource ⊢
  refine ⟨n, v.members, v.declaredMembers, hnamespace, hsource, v.declares_members, ?_, ?_, ?_, ?_,
    ?_⟩
  · rw [v.namesOf_property, hfields]
  · rw [v.namesOf_backingField, hfields]
  · rw [v.namesOf_method]
    exact hmethods
  · intro q _ hmethod
    exact v.backing_not_mem_methodNames q ((hmethods q.backing).mpr hmethod)
  · rw [v.namesApart_iff, hfields]
    simp only [hmethods]

/-- A period between two days, made by a factory. -/
def periodOf (properties : List String) : Declaration where
  name := "Period"
  namespaceName := some "Test"
  usage := .multi [.explicitFrom]
  members := properties.map fun p => .property { name := p, typeName := "int", isValueType := true }

theorem memberNames_apart_period :
    ∃ u declared, Generator.standard.generate (periodOf ["Start", "End"]) = .accepted u ∧
      namesOf .property declared = ["Start", "End"] ∧ "From" ∈ namesOf .method declared ∧
      NamesApart declared := by
  have haccepted : (Generator.standard.generate (periodOf ["Start", "End"])).isAccepted = true := by
    decide +kernel
  obtain ⟨u, hu⟩ := Outcome.isAccepted_iff.mp haccepted
  obtain ⟨_, _, declared, -, -, -, hproperties, -, hmethods, -, hapart⟩ :=
    memberNames_apart_iff .standard (periodOf ["Start", "End"]) [.explicitFrom] u rfl hu
  have hnames : (Field.collect (periodOf ["Start", "End"])).map Field.name = ["Start", "End"] := by
    decide +kernel
  refine ⟨u, declared, hu, hproperties.trans hnames, ?_, ?_⟩
  · rw [hmethods]
    decide +kernel
  · rw [hapart]
    decide +kernel

/-- **Properties that clash are accepted.** The property `From` is called like the factory, and `_to`
like the backing field of `To`. -/
theorem period_names_clash :
    (Generator.standard.generate (periodOf ["From", "To", "_to"])).isAccepted = true ∧
      "From" ∈ (Field.collect (periodOf ["From", "To", "_to"])).map Field.name ∧
      "From" ∈ (periodOf ["From", "To", "_to"]).methodNames [.explicitFrom] ∧
      "_to" ∈ (Field.collect (periodOf ["From", "To", "_to"])).map Field.name ∧
      "_to" ∈ (Field.collect (periodOf ["From", "To", "_to"])).map Field.backing := by
  decide +kernel

end ValueObject
