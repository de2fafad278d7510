/-
# ValueObject.Proofs.PredicateGuard -- a predicate reaches every place that makes an instance

A declaration may bring a predicate over the types of its constructor. Reading it finds the predicate by
a search, and five pieces of code in either shape depend on what was found: the constructor, `Try`,
`TryParse`, and by way of the constructor the conversion, `From` and `Parse`. Whether there is a
predicate is said here of the declaration itself (`Declaration.HasPredicate`), and what the members of
the type do about instances is read off their phrases. Either all of them work with the predicate, or
none does and there is no `Try` (`instances_guarded`).

`From` is written for a factory that the declaration begins, or for an option; only the former makes it
partial.
-/

import ValueObject.Proofs.Acceptance
import ValueObject.Proofs.KnownMethods
import ValueObject.Proofs.ParsingRequest
import ValueObject.Proofs.Source.MultiValueScript
import ValueObject.Proofs.Source.SingleValueScript
import ValueObject.Proofs.Source.UnitText

namespace ValueObject

open Text Source

/-! ## What the constructor takes -/

namespace Declaration

/-- **The values that the constructor takes**: the one value, or the fields. -/
def slots (d : Declaration) : List Slot :=
  match d.usage with
  | .single datatype _ => (trimmed? datatype).toList.map fun t => ⟨t, "value", "_value"⟩
  | .multi _ => (Field.collect d).map fun f => ⟨f.typeName, f.parameter, f.backing⟩

/-- The types of the constructor's parameters. -/
def constructorTypes (d : Declaration) : List String :=
  d.slots.map Slot.typeName

/-- The texts that the declaration gives to its members. -/
def ownTexts (d : Declaration) : List String :=
  d.name :: MultiValue.outParameter (Field.collect d) :: (Field.collect d).map Field.name ++
    d.slots.flatMap fun s => [s.typeName, s.parameter, s.backing]

/-- A conversion from the raw value is among the options. -/
def AsksConversion (d : Declaration) : Prop :=
  match d.usage with
  | .single _ options => .implicitFrom ∈ options
  | .multi _ => False

/-- `ExplicitFrom` is among the options. -/
def AsksFactory (d : Declaration) : Prop :=
  match d.usage with
  | .single _ options => .explicitFrom ∈ options
  | .multi options => .explicitFrom ∈ options

variable {d : Declaration}

theorem slots_of_single {t : Option String} {options : List ValueOption} {datatype : String}
    (husage : d.usage = .single t options) (hdatatype : trimmed? t = some datatype) :
    d.slots = [⟨datatype, "value", "_value"⟩] := by
  simp [slots, husage, hdatatype]

theorem parameterTypes?_of_single {t : Option String} {options : List ValueOption}
    {datatype : String} (husage : d.usage = .single t options)
    (hdatatype : trimmed? t = some datatype) :
    (Descriptor.shapeOf d).parameterTypes? = some d.constructorTypes := by
  simp [Descriptor.shapeOf, husage, hdatatype, Shape.parameterTypes?, constructorTypes,
    slots_of_single husage hdatatype]

theorem parameterTypes?_of_multi {options : List MultiOption} (husage : d.usage = .multi options) :
    (Descriptor.shapeOf d).parameterTypes? = some d.constructorTypes := by
  simp [Descriptor.shapeOf, husage, Shape.parameterTypes?, constructorTypes, slots]

end Declaration

/-! ## What is found -/

namespace Descriptor

variable {d : Declaration}

/-- Over the types of the constructor, a predicate is found exactly when one is declared. -/
theorem predicate_eq_iff (h : (shapeOf d).parameterTypes? = some d.constructorTypes) :
    (ofDeclaration d).predicate = some predicateName ↔ d.HasPredicate d.constructorTypes := by
  rw [predicate_eq_some_iff]
  simp [h]

theorem predicate_eq_none_iff (h : (shapeOf d).parameterTypes? = some d.constructorTypes) :
    (ofDeclaration d).predicate = none ↔ ¬ d.HasPredicate d.constructorTypes := by
  rw [← predicate_eq_iff h]
  cases hpredicate : (ofDeclaration d).predicate with
  | none => simp
  | some p => simp [eq_predicateName hpredicate]

theorem factory_isSome_iff (h : (shapeOf d).parameterTypes? = some d.constructorTypes) :
    (ofDeclaration d).factory.isSome = true ↔ d.HasFactory d.constructorTypes := by
  rw [Option.isSome_iff_exists]
  simp [factory_eq_some_iff, h]

end Descriptor

/-! ## Members of accepted declarations -/

/-- **`From` is written as the declaration says**: once and partial for its factory, once and whole for
the option alone, and otherwise not at all. -/
structure Declaration.WritesFactory (d : Declaration) (ms : List Script) : Prop where
  completed : d.HasFactory d.constructorTypes →
    (called .method "From" ms).map (·.declares.front) = ["public static partial " ++ d.name]
  asked : ¬ d.HasFactory d.constructorTypes → d.AsksFactory →
    (called .method "From" ms).map (·.declares.front) = ["public static " ++ d.name]
  absent : ¬ d.HasFactory d.constructorTypes → ¬ d.AsksFactory → called .method "From" ms = []

/-- **What the members of a declared type do about instances.** They are guarded exactly when a
predicate over the types of the constructor is declared, and otherwise nothing in them needs one. `From`
is written as the declaration says, and so is the conversion from the raw value; all instances are made
by the constructor. Between the acts there are only inert words and texts of the declaration. -/
structure Declaration.Conducts (d : Declaration) (runtime : String) (ms : List Script) : Prop where
  guarded_iff : Guarded d.name "IsValid" d.slots ms ↔ d.HasPredicate d.constructorTypes
  unguarded_iff : Unguarded d.name d.slots ms ↔ ¬ d.HasPredicate d.constructorTypes
  writesFactory : d.WritesFactory ms
  converting_iff : ∀ answer, (∃ m ∈ ms, m.declares.kind = .operator ∧
    m.acts answer = [.construct (Slot.arguments d.slots)]) ↔ d.AsksConversion
  madeByConstructor : MadeByConstructor d.name runtime d.slots ms
  words : ∀ m ∈ ms, ∀ w ∈ m.words, w.Plain d.ownTexts

namespace Declaration

variable {d : Declaration} {runtime : String} {ms : List Script} {asksFactory asksConversion : Bool}

theorem writesFactory_of_behaves
    (h : Behaves d.name runtime (Descriptor.ofDeclaration d).predicate
      (Descriptor.ofDeclaration d).factory asksFactory asksConversion d.slots ms)
    (htypes : (Descriptor.shapeOf d).parameterTypes? = some d.constructorTypes)
    (hasks : asksFactory = true ↔ d.AsksFactory) : d.WritesFactory ms := by
  have hfactory := Descriptor.factory_isSome_iff htypes
  have hfronts := h.fronts_from
  refine ⟨?_, ?_, ?_⟩
  · intro hdeclared
    rw [hfronts, hfactory.mpr hdeclared]
    simp [partialWord]
  · intro hdeclared hoption
    rw [hfronts, hasks.mpr hoption, Bool.eq_false_iff.mpr (mt hfactory.mp hdeclared)]
    simp [partialWord]
  · intro hdeclared hoption
    rw [Bool.eq_false_iff.mpr (mt hasks.mp hoption),
      Bool.eq_false_iff.mpr (mt hfactory.mp hdeclared)] at hfronts
    simpa using hfronts

/-- A type that behaves by what was found in a declaration does what the declaration says. -/
theorem conducts_of_behaves
    (h : Behaves d.name runtime (Descriptor.ofDeclaration d).predicate
      (Descriptor.ofDeclaration d).factory asksFactory asksConversion d.slots ms)
    (htypes : (Descriptor.shapeOf d).parameterTypes? = some d.constructorTypes)
    (hfactory : asksFactory = true ↔ d.AsksFactory)
    (hconversion : asksConversion = true ↔ d.AsksConversion)
    (hwords : ∀ m ∈ ms, ∀ w ∈ m.words, w.Plain d.ownTexts) : d.Conducts runtime ms := by
  have hwith : d.HasPredicate d.constructorTypes → Guarded d.name "IsValid" d.slots ms :=
    fun hdeclared => h.guarded _ ((Descriptor.predicate_eq_iff htypes).mpr hdeclared)
  have hwithout : ¬ d.HasPredicate d.constructorTypes → Unguarded d.name d.slots ms :=
    fun hnone => h.unguarded ((Descriptor.predicate_eq_none_iff htypes).mpr hnone)
  -- No type is both guarded and open to all values, so that each half also gives the other direction.
  refine ⟨⟨?_, hwith⟩, ⟨?_, hwithout⟩, writesFactory_of_behaves h htypes hfactory, ?_,
    h.madeByConstructor, hwords⟩
  · intro hguarded
    by_contra hnone
    exact (hwithout hnone).not_guarded hguarded
  · intro hunguarded hdeclared
    exact hunguarded.not_guarded (hwith hdeclared)
  · intro answer
    rw [h.converting_iff, hconversion]

theorem conducts_singleValue {t : Option String} {options : List ValueOption} {datatype : String}
    (s : Settings) (capabilities : CapabilitySet) (husage : d.usage = .single t options)
    (hdatatype : trimmed? t = some datatype) :
    d.Conducts s.runtimeNamespace (d.singleValue s datatype options capabilities).scripts := by
  have hslots := slots_of_single husage hdatatype
  have hfactory : (d.effectiveOptions options).explicitFrom = true ↔ d.AsksFactory := by
    have hoption : (ValueOptions.ofList options).explicitFrom = options.contains .explicitFrom :=
      ValueOptions.has_ofList (x := .explicitFrom) (by decide)
    simp [effectiveOptions, ValueOptions.infer, hoption, AsksFactory, husage]
  have hconversion : (d.effectiveOptions options).implicitFrom = true ↔ d.AsksConversion := by
    have hoption : (ValueOptions.ofList options).implicitFrom = options.contains .implicitFrom :=
      ValueOptions.has_ofList (x := .implicitFrom) (by decide)
    simp [effectiveOptions, ValueOptions.infer, hoption, AsksConversion, husage]
  refine conducts_of_behaves ?_ (parameterTypes?_of_single husage hdatatype) hfactory hconversion ?_
  · rw [hslots]
    exact (d.singleValue s datatype options capabilities).behaves
  · intro m hm w hw
    refine ((d.singleValue s datatype options capabilities).plain_words m hm w hw).mono ?_
    simp [ownTexts, hslots]

theorem conducts_multiValue {options : List MultiOption} (s : Settings)
    (husage : d.usage = .multi options) :
    d.Conducts s.runtimeNamespace (d.multiValue s options).scripts := by
  have hslots : d.slots = (d.multiValue s options).slots := by
    rw [slots, husage]
    rfl
  have hfactory : (MultiOptions.ofList options).explicitFrom = true ↔ d.AsksFactory := by
    simp [AsksFactory, husage]
  have hconversion : false = true ↔ d.AsksConversion := by
    simp [AsksConversion, husage]
  refine conducts_of_behaves ?_ (parameterTypes?_of_multi husage) hfactory hconversion ?_
  · rw [hslots]
    exact (d.multiValue s options).behaves
  · intro m hm w hw
    refine ((d.multiValue s options).plain_words m hm w hw).mono ?_
    rw [ownTexts, hslots]
    intro text htext
    simp only [MultiValue.texts, multiValue_name, multiValue_fields, MultiValue.slots] at htext ⊢
    grind

end Declaration

/-- A percentage that is checked, with a factory that it begins itself. -/
def percentageDeclaration : Declaration where
  name := "Percentage"
  namespaceName := some "Units"
  usage := .single (some "int") [.implicitFrom, .parsable]
  members := [
    .method { name := "IsValid", isStatic := true, returnType := "System.Boolean"
              parameters := [⟨"n", "System.Int32"⟩] },
    .method { name := "From", isStatic := true, isPartial := true, returnType := "Units.Percentage"
              parameters := [⟨"value", "int"⟩] }]

end ValueObject
