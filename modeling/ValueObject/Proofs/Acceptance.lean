/-
# ValueObject.Proofs.Acceptance -- what an accepted declaration is known to be

A review has many ways to reject a descriptor and two ways to accept it. `Accepts` lists the two with
everything that was found on the way, and acceptance is exactly that (`ofDescriptor_eq_accepted_iff`).
A proof about generated code starts from these two cases and does not open the review again.
-/

import Mathlib.Tactic.Simps.Basic
import ValueObject.Generation
import ValueObject.Proofs.OptionBits
import ValueObject.Proofs.Text.Trim

namespace ValueObject

open Text Source

/-! ## Reviews -/

namespace Review

/-- **A descriptor and what its review accepts it as.** -/
inductive Accepts (d : Descriptor) : Accepted → Prop
  | single {namespaceName datatype : String} {options : ValueOptions}
      {capabilities : CapabilitySet} :
      trimmed? d.namespaceName = some namespaceName →
      d.shape = .single (some datatype) options →
      CapabilitySet.resolveSingle (options.infer d.declared) d.declared datatype d.isRecord =
        .ok capabilities →
      Accepts d
        { descriptor := d, namespaceName
          model := .single datatype (options.infer d.declared), capabilities }
  | multi {namespaceName : String} {fields : List Field} {options : MultiOptions} :
      trimmed? d.namespaceName = some namespaceName →
      d.shape = .multi fields options →
      Field.violations fields = [] →
      fields ≠ [] →
      Accepts d
        { descriptor := d, namespaceName, model := .multi fields options
          capabilities := .resolveMulti d.isRecord }

theorem ofSingle_some_eq_accepted_iff {d : Descriptor} {n t : String} {o : ValueOptions}
    {a : Accepted} :
    ofSingle d n (some t) o = .accepted a ↔
      ∃ capabilities,
        CapabilitySet.resolveSingle (o.infer d.declared) d.declared t d.isRecord =
          .ok capabilities ∧
        a = { descriptor := d, namespaceName := n, model := .single t (o.infer d.declared)
              capabilities } := by
  unfold ofSingle
  dsimp only
  split
  · next hconflict => simp [reject, hconflict]
  · next capabilities hok => simp [hok, eq_comm]

theorem ofMulti_eq_accepted_iff {d : Descriptor} {n : String} {fields : List Field}
    {o : MultiOptions} {a : Accepted} :
    ofMulti d n fields o = .accepted a ↔
      Field.violations fields = [] ∧ fields ≠ [] ∧
        a = { descriptor := d, namespaceName := n, model := .multi fields o
              capabilities := .resolveMulti d.isRecord } := by
  unfold ofMulti
  split
  · next hnone =>
    -- no fault is reported, so it is the number of fields that decides
    rw [List.map_eq_nil_iff] at hnone
    by_cases hfields : fields = []
    · simp [hfields, reject]
    · simp only [List.isEmpty_iff, hfields, if_false, hnone, ne_eq, not_false_eq_true, true_and,
        accepted.injEq]
      exact eq_comm
  · next hsome =>
    have hviolations : Field.violations fields ≠ [] := by
      intro hnil
      rw [hnil] at hsome
      exact hsome rfl
    simp [hviolations]

/-- **Acceptance is one of the two cases.** -/
theorem ofDescriptor_eq_accepted_iff {d : Descriptor} {a : Accepted} :
    ofDescriptor d = .accepted a ↔ Accepts d a := by
  constructor
  · intro h
    unfold ofDescriptor at h
    split at h
    · cases h
    · next namespaceName hnamespace =>
      split at h
      · next datatype options hshape =>
        cases datatype with
        | none => cases h
        | some datatype =>
          obtain ⟨capabilities, hresolve, rfl⟩ := ofSingle_some_eq_accepted_iff.mp h
          exact .single hnamespace hshape hresolve
      · next fields options hshape =>
        obtain ⟨hviolations, hfields, rfl⟩ := ofMulti_eq_accepted_iff.mp h
        exact .multi hnamespace hshape hviolations hfields
  · intro h
    cases h with
    | single hnamespace hshape hresolve =>
      simp only [ofDescriptor, hnamespace, hshape]
      exact ofSingle_some_eq_accepted_iff.mpr ⟨_, hresolve, rfl⟩
    | multi hnamespace hshape hviolations hfields =>
      simp only [ofDescriptor, hnamespace, hshape]
      exact ofMulti_eq_accepted_iff.mpr ⟨hviolations, hfields, rfl⟩

end Review

/-! ## Generators -/

theorem Outcome.isAccepted_iff {o : Outcome} : o.isAccepted = true ↔ ∃ u, o = .accepted u := by
  cases o <;> simp [isAccepted]

/-- The generator with the settings that hold where nothing else is said. -/
def Generator.standard : Generator where
  settings := {}
  sound := by decide

/-- A generator writes what the review accepts, under the name of the type. -/
theorem Generator.generate_eq_accepted_iff {g : Generator} {d : Declaration} {u : GeneratedUnit} :
    g.generate d = .accepted u ↔
      ∃ a, Review.Accepts (.ofDeclaration d) a ∧
        u = { hintName := (Descriptor.ofDeclaration d).hintName, source := a.source g.settings } := by
  simp only [← Review.ofDescriptor_eq_accepted_iff]
  unfold generate
  dsimp only
  split
  · next a ha => simp [ha, eq_comm]
  · next ds hds => simp [hds]

/-! ## Accepted declarations over several values -/

/-- An option that is not the one that stands in for an empty list is in force when it is listed. -/
theorem MultiOptions.has_ofList {options : List MultiOption} {x : MultiOption}
    (hx : x ≠ .constructor) : (ofList options).has x = options.contains x := by
  rw [Bool.eq_iff_iff, List.contains_iff_mem]
  exact lawful.has_ofList_iff hx

@[simp]
theorem MultiOptions.explicitFrom_ofList (options : List MultiOption) :
    (ofList options).explicitFrom = options.contains .explicitFrom :=
  has_ofList (x := .explicitFrom) (by decide)

@[simp]
theorem MultiOptions.deconstruct_ofList (options : List MultiOption) :
    (ofList options).deconstruct = options.contains .deconstruct :=
  has_ofList (x := .deconstruct) (by decide)

/-- A type over several values that is no record is equatable with itself, and nothing more. -/
@[simp]
theorem CapabilitySet.contains_resolveMulti (isRecord : Bool) (c : Capability) :
    (resolveMulti isRecord).contains c = (!isRecord && c == .selfEquatable) := by
  cases isRecord <;> cases c <;> decide

namespace Declaration

/-- What a declaration over several values is accepted as, in a namespace. -/
@[simps]
def acceptedMulti (d : Declaration) (namespaceName : String) (options : List MultiOption) :
    Accepted where
  descriptor := .ofDeclaration d
  namespaceName := namespaceName
  model := .multi (Field.collect d) (.ofList options)
  capabilities := .resolveMulti d.isRecord

/-- The type over several values that a declaration asks for. -/
@[simps]
def multiValue (d : Declaration) (s : Settings) (options : List MultiOption) : MultiValue where
  name := d.name
  fields := Field.collect d
  options := .ofList options
  predicate := (Descriptor.ofDeclaration d).predicate
  factory := (Descriptor.ofDeclaration d).factory
  isRecord := d.isRecord
  capabilities := .resolveMulti d.isRecord
  runtime := s.runtimeNamespace

theorem source_acceptedMulti (d : Declaration) (n : String) (options : List MultiOption)
    (s : Settings) :
    (d.acceptedMulti n options).source s =
      Code.unitText (unitOf (d.acceptedMulti n options) s "" (d.multiValue s options).display
        (d.multiValue s options).members) := by
  have hvalue : (d.acceptedMulti n options).multiValue s (Field.collect d) (.ofList options) =
      d.multiValue s options := rfl
  rw [← hvalue]
  rfl

end Declaration

theorem Review.Accepts.of_multi {d : Declaration} {a : Accepted} {options : List MultiOption}
    (husage : d.usage = .multi options) (ha : Accepts (.ofDeclaration d) a) :
    Field.violations (Field.collect d) = [] ∧ Field.collect d ≠ [] ∧
      ∃ n, trimmed? d.namespaceName = some n ∧ a = d.acceptedMulti n options := by
  have hshape : (Descriptor.ofDeclaration d).shape =
      .multi (Field.collect d) (.ofList options) := by
    simp only [Descriptor.ofDeclaration, Descriptor.shapeOf, husage]
  cases ha with
  | single _ hsingle _ =>
    rw [hshape] at hsingle
    cases hsingle
  | @multi n _ _ hnamespace hmulti hfaultless hfields =>
    rw [hshape] at hmulti
    obtain ⟨rfl, rfl⟩ := Shape.multi.inj hmulti
    exact ⟨hfaultless, hfields, n, hnamespace, rfl⟩

/-- The fields of an accepted declaration: none is at fault, and there is one at least. -/
theorem Generator.fields_of_accepted {g : Generator} {d : Declaration} {u : GeneratedUnit}
    {options : List MultiOption} (husage : d.usage = .multi options)
    (hu : g.generate d = .accepted u) :
    Field.violations (Field.collect d) = [] ∧ Field.collect d ≠ [] := by
  obtain ⟨a, ha, -⟩ := Generator.generate_eq_accepted_iff.mp hu
  obtain ⟨hfaultless, hfields, -⟩ := ha.of_multi husage
  exact ⟨hfaultless, hfields⟩

/-- **The file of an accepted declaration over several values** is written around the members of the
type that the declaration asks for. -/
theorem Generator.source_of_multi {g : Generator} {d : Declaration} {u : GeneratedUnit}
    {options : List MultiOption} (husage : d.usage = .multi options)
    (hu : g.generate d = .accepted u) :
    ∃ n, trimmed? d.namespaceName = some n ∧
      u.source = Code.unitText (unitOf (d.acceptedMulti n options) g.settings ""
        (d.multiValue g.settings options).display (d.multiValue g.settings options).members) := by
  obtain ⟨a, ha, rfl⟩ := Generator.generate_eq_accepted_iff.mp hu
  obtain ⟨-, -, n, hnamespace, rfl⟩ := ha.of_multi husage
  refine ⟨n, hnamespace, ?_⟩
  rw [d.source_acceptedMulti]

/-! ## Accepted declarations over one value -/

namespace Declaration

/-- The options of a declaration over one value: those listed and those that its interfaces imply. -/
def effectiveOptions (d : Declaration) (options : List ValueOption) : ValueOptions :=
  (ValueOptions.ofList options).infer (Descriptor.ofDeclaration d).declared

/-- What a declaration over one value is accepted as, in a namespace and with its capabilities. -/
@[simps]
def acceptedSingle (d : Declaration) (namespaceName datatype : String) (options : List ValueOption)
    (capabilities : CapabilitySet) : Accepted where
  descriptor := .ofDeclaration d
  namespaceName := namespaceName
  model := .single datatype (d.effectiveOptions options)
  capabilities := capabilities

/-- The type over one value that a declaration asks for, with its capabilities. -/
@[simps]
def singleValue (d : Declaration) (s : Settings) (datatype : String) (options : List ValueOption)
    (capabilities : CapabilitySet) : SingleValue where
  name := d.name
  datatype := datatype
  options := d.effectiveOptions options
  predicate := (Descriptor.ofDeclaration d).predicate
  factory := (Descriptor.ofDeclaration d).factory
  capabilities := capabilities
  runtime := s.runtimeNamespace

theorem source_acceptedSingle (d : Declaration) (n t : String) (options : List ValueOption)
    (c : CapabilitySet) (s : Settings) :
    (d.acceptedSingle n t options c).source s =
      Code.unitText (unitOf (d.acceptedSingle n t options c) s t SingleValue.display
        (d.singleValue s t options c).members) := by
  have hvalue : (d.acceptedSingle n t options c).singleValue s t (d.effectiveOptions options) =
      d.singleValue s t options c := rfl
  rw [← hvalue]
  rfl

end Declaration

theorem Review.Accepts.of_single {d : Declaration} {a : Accepted} {t : Option String}
    {options : List ValueOption} (husage : d.usage = .single t options)
    (ha : Accepts (.ofDeclaration d) a) :
    ∃ n datatype capabilities, trimmed? d.namespaceName = some n ∧ trimmed? t = some datatype ∧
      CapabilitySet.resolveSingle (d.effectiveOptions options)
        (Descriptor.ofDeclaration d).declared datatype d.isRecord = .ok capabilities ∧
      a = d.acceptedSingle n datatype options capabilities := by
  have hshape : (Descriptor.ofDeclaration d).shape = .single (trimmed? t) (.ofList options) := by
    simp only [Descriptor.ofDeclaration, Descriptor.shapeOf, husage]
  cases ha with
  | multi _ hmulti _ _ =>
    rw [hshape] at hmulti
    cases hmulti
  | @single n datatype _ capabilities hnamespace hsingle hresolve =>
    rw [hshape] at hsingle
    obtain ⟨hdatatype, rfl⟩ := Shape.single.inj hsingle
    exact ⟨n, datatype, capabilities, hnamespace, hdatatype, hresolve, rfl⟩

/-- **The file of an accepted declaration over one value** is written around the members of the type
that the declaration asks for, with the capabilities that are resolved for it. -/
theorem Generator.source_of_single {g : Generator} {d : Declaration} {u : GeneratedUnit}
    {t : Option String} {options : List ValueOption} (husage : d.usage = .single t options)
    (hu : g.generate d = .accepted u) :
    ∃ n datatype capabilities, trimmed? d.namespaceName = some n ∧ trimmed? t = some datatype ∧
      CapabilitySet.resolveSingle (d.effectiveOptions options)
        (Descriptor.ofDeclaration d).declared datatype d.isRecord = .ok capabilities ∧
      u.source = Code.unitText (unitOf (d.acceptedSingle n datatype options capabilities) g.settings
        datatype SingleValue.display
        (d.singleValue g.settings datatype options capabilities).members) := by
  obtain ⟨a, ha, rfl⟩ := Generator.generate_eq_accepted_iff.mp hu
  obtain ⟨n, datatype, capabilities, hnamespace, hdatatype, hresolve, rfl⟩ := ha.of_single husage
  refine ⟨n, datatype, capabilities, hnamespace, hdatatype, hresolve, ?_⟩
  rw [d.source_acceptedSingle]

/-! ## The predicate -/

namespace Descriptor

/-- What is found as a predicate is called by the one name that a predicate has. -/
theorem eq_predicateName {d : Declaration} {p : String}
    (h : (ofDeclaration d).predicate = some p) : p = predicateName := by
  obtain ⟨types, -, hfind⟩ := Option.bind_eq_some_iff.mp h
  obtain ⟨m, hm, rfl⟩ := Option.map_eq_some_iff.mp hfind
  have hpredicate := List.find?_some hm
  simp only [isPredicate, Bool.and_eq_true, beq_iff_eq] at hpredicate
  exact hpredicate.1.1.1.1

end Descriptor

end ValueObject
