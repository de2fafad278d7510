/-
# ValueObject.Proofs.GrowingDeclaration -- what more options and interfaces change

A declaration over one value **extends** another when it differs in nothing but further options and
further interfaces. What is listed or marked stays so, hence what is called for is called for still
(`Extends.callsFor`), and a datatype that cannot be parsed stays one. The option that stands in for an
empty list of options goes as soon as one is listed, but no capability depends on it.

So the capabilities of an accepted declaration can only grow with it. The one thing that can go wrong is
that parsing is asked for and the datatype is the type of texts, and nothing that is added afterwards
makes up for that (`resolution_monotone`).
-/

import ValueObject.Proofs.ImplementedCapabilities
import ValueObject.Proofs.SingleVerdict

namespace ValueObject

/-! ## Extended declarations -/

/-- The declaration with more options listed and more interfaces written on it. -/
def Declaration.extended (d : Declaration) (options : List ValueOption) (interfaces : List String) :
    Declaration :=
  { d.withOptions options with interfaces := d.interfaces ++ interfaces }

/-- **The second declaration extends the first**: both are over one value, and the second has the options
and the interfaces of the first among its own. -/
structure Extends (d d' : Declaration) (t : Option String) (options options' : List ValueOption) :
    Prop where
  name : d'.name = d.name
  namespaceName : d'.namespaceName = d.namespaceName
  kind : d'.kind = d.kind
  location : d'.location = d.location
  usage : d.usage = .single t options
  usage' : d'.usage = .single t options'
  options : options ⊆ options'
  interfaces : d.interfaces ⊆ d'.interfaces

theorem extends_extended {d : Declaration} {t : Option String} {options : List ValueOption}
    (husage : d.usage = .single t options) (more : List ValueOption) (interfaces : List String) :
    Extends d (d.extended more interfaces) t options (options ++ more) := by
  have hextended : d.extended more interfaces =
      { d with
        usage := .single t (options ++ more)
        interfaces := d.interfaces ++ interfaces } := by
    rw [Declaration.extended, Declaration.withOptions, husage]
  rw [hextended]
  exact ⟨rfl, rfl, rfl, rfl, husage, rfl, List.subset_append_left .., List.subset_append_left ..⟩

namespace Extends

variable {d d' : Declaration} {t : Option String} {options options' : List ValueOption}

theorem report (h : Extends d d' t options options') : d'.report = d.report := by
  funext kind
  rw [Declaration.report, Declaration.report, h.name, h.location]

/-- What is marked is marked still. -/
theorem marked (h : Extends d d' t options options') {c : Capability} (hc : d.Marked c) :
    d'.Marked c := by
  rw [Declaration.marked_iff_of_single h.usage] at hc
  rw [Declaration.marked_iff_of_single h.usage', h.name]
  obtain ⟨i, hi, hmarks⟩ := hc
  exact ⟨i, h.interfaces hi, hmarks⟩

/-- **What is called for is called for still.** -/
theorem callsFor (h : Extends d d' t options options') {c : Capability}
    (hc : d.CallsFor options c) : d'.CallsFor options' c := by
  cases c with
  | selfEquatable => exact h.kind.trans hc
  | valueEquatable => exact hc.imp (.imp (h.options ·) (h.options ·)) h.marked
  | selfComparable => exact hc.imp (h.options ·) h.marked
  | valueComparable =>
    exact hc.imp (.imp (.imp (h.options ·) h.marked) (.imp (h.options ·) (h.options ·))) h.marked
  | parsable | spanParsable => exact hc.imp (h.options ·) (.imp h.marked h.marked)

/-- Text that is asked to be parsed into text is asked so still. -/
theorem conflicts (h : Extends d d' t options options') (hc : d.Conflicts t options) :
    d'.Conflicts t options' := by
  refine ⟨hc.1, hc.2.imp (h.options ·) ?_⟩
  rintro ⟨i, hi, hmarks⟩
  exact ⟨i, h.interfaces hi, h.name ▸ hmarks⟩

end Extends

/-! ## Reviews of one value -/

section

variable {d : Declaration} {t : Option String} {options : List ValueOption} {a : Accepted}

/-- **What is resolved is what is called for.** -/
theorem mem_capabilities_iff (husage : d.usage = .single t options)
    (ha : Review.ofDescriptor (.ofDeclaration d) = .accepted a) {c : Capability} :
    c ∈ a.capabilities.toList ↔ d.CallsFor options c := by
  obtain ⟨n, datatype, capabilities, -, -, hresolve, rfl⟩ :=
    (Review.ofDescriptor_eq_accepted_iff.mp ha).of_single husage
  exact Declaration.mem_resolved_iff hresolve

/-- The options that are inferred decide on order with the type itself and on both kinds of parsing: the
resolution asks the interfaces again, to the same effect. -/
theorem CapabilitySet.calledFor_infer (o : ValueOptions) (declared : CapabilitySet)
    (isRecord : Bool) :
    calledFor (o.infer declared) declared isRecord .selfComparable = (o.infer declared).comparable ∧
      calledFor (o.infer declared) declared isRecord .parsable = (o.infer declared).parsable ∧
      calledFor (o.infer declared) declared isRecord .spanParsable = (o.infer declared).parsable := by
  simp only [calledFor, ValueOptions.infer]
  grind

/-- **The options in force** of what is accepted, and what they decide. -/
theorem exists_effective (husage : d.usage = .single t options)
    (ha : Review.ofDescriptor (.ofDeclaration d) = .accepted a) :
    ∃ datatype effective, a.model = .single datatype effective ∧
      (.selfComparable ∈ a.capabilities.toList ↔ effective.comparable = true) ∧
      (.parsable ∈ a.capabilities.toList ↔ effective.parsable = true) ∧
      (.spanParsable ∈ a.capabilities.toList ↔ effective.parsable = true) := by
  obtain ⟨n, datatype, capabilities, -, -, hresolve, rfl⟩ :=
    (Review.ofDescriptor_eq_accepted_iff.mp ha).of_single husage
  obtain ⟨hcomparable, hparsable, hspan⟩ := CapabilitySet.calledFor_infer (.ofList options)
    (Descriptor.ofDeclaration d).declared d.isRecord
  refine ⟨datatype, d.effectiveOptions options, rfl, ?_, ?_, ?_⟩
  all_goals
    rw [CapabilitySet.mem_toList, Declaration.acceptedSingle_capabilities,
      CapabilitySet.contains_of_resolveSingle hresolve]
  · rw [Declaration.effectiveOptions, hcomparable]
  · rw [Declaration.effectiveOptions, hparsable]
  · rw [Declaration.effectiveOptions, hspan]

end

/-! ## Reviews of extended declarations -/

namespace Extends

variable {d d' : Declaration} {t : Option String} {options options' : List ValueOption}

/-- What extends an accepted declaration is accepted with no capability less, or asks for the parsing of
text into text. -/
theorem accepted_or_rejected (h : Extends d d' t options options') {a : Accepted}
    (ha : Review.ofDescriptor (.ofDeclaration d) = .accepted a) :
    (∃ a', Review.ofDescriptor (.ofDeclaration d') = .accepted a' ∧
      a.capabilities.toList ⊆ a'.capabilities.toList) ∨
    Review.ofDescriptor (.ofDeclaration d') = .rejected [d.report .stringNotParsable] := by
  have hverdict := singleVerdict h.usage
  rw [ha] at hverdict
  cases hverdict with
  | accepted hnamespace hdatatype _ =>
    rw [← h.namespaceName] at hnamespace
    rw [← h.report]
    by_cases hconflict : d'.Conflicts t options'
    · exact .inr (ofDescriptor_of_conflicts h.usage' hnamespace hdatatype hconflict)
    · obtain ⟨a', ha'⟩ := ofDescriptor_of_not_conflicts h.usage' hnamespace hdatatype hconflict
      refine .inl ⟨a', ha', ?_⟩
      intro c hc
      rw [mem_capabilities_iff h.usage ha] at hc
      exact (mem_capabilities_iff h.usage' ha').mpr (h.callsFor hc)

/-- What is rejected because text cannot be parsed into text stays rejected for that reason. -/
theorem rejected (h : Extends d d' t options options') {ds : List Diagnostic}
    (hds : Review.ofDescriptor (.ofDeclaration d) = .rejected ds)
    (hkind : ∃ x ∈ ds, x.kind = .stringNotParsable) :
    Review.ofDescriptor (.ofDeclaration d') = .rejected ds := by
  have hverdict := singleVerdict h.usage
  rw [hds] at hverdict
  cases hverdict with
  | missingNamespace _ | unresolvableDatatype _ _ => simp [Declaration.report] at hkind
  | stringNotParsable hnamespace hdatatype hconflict =>
    rw [← h.namespaceName] at hnamespace
    rw [← h.report]
    exact ofDescriptor_of_conflicts h.usage' hnamespace hdatatype (h.conflicts hconflict)

end Extends

/-- **Capabilities grow with the declaration.** In an accepted declaration over one value, order with the
type itself and both kinds of parsing are resolved exactly as the options in force say. With further
options and interfaces it is accepted with no capability less, or it is rejected because text cannot be
parsed into text; and what is rejected for that reason is so with any further options and interfaces. -/
theorem resolution_monotone (d : Declaration) (t : Option String) (options : List ValueOption)
    (husage : d.usage = .single t options) :
    (∀ a, Review.ofDescriptor (.ofDeclaration d) = .accepted a →
      (∃ datatype effective, a.model = .single datatype effective ∧
        (.selfComparable ∈ a.capabilities.toList ↔ effective.comparable = true) ∧
        (.parsable ∈ a.capabilities.toList ↔ effective.parsable = true) ∧
        (.spanParsable ∈ a.capabilities.toList ↔ effective.parsable = true)) ∧
      ∀ more interfaces,
        (∃ a', Review.ofDescriptor (.ofDeclaration (d.extended more interfaces)) = .accepted a' ∧
          a.capabilities.toList ⊆ a'.capabilities.toList) ∨
        Review.ofDescriptor (.ofDeclaration (d.extended more interfaces)) =
          .rejected [d.report .stringNotParsable]) ∧
    ∀ ds, Review.ofDescriptor (.ofDeclaration d) = .rejected ds →
      (∃ x ∈ ds, x.kind = .stringNotParsable) →
      ∀ more interfaces,
        Review.ofDescriptor (.ofDeclaration (d.extended more interfaces)) = .rejected ds := by
  refine ⟨fun a ha => ⟨exists_effective husage ha, ?_⟩, ?_⟩
  · intro more interfaces
    exact (extends_extended husage more interfaces).accepted_or_rejected ha
  · intro ds hds hkind more interfaces
    exact (extends_extended husage more interfaces).rejected hds hkind

/-- A label, which is a text. -/
def labelDeclaration : Declaration where
  name := "Label"
  namespaceName := some "Shop"
  kind := .plain
  usage := .single (some "global::System.String") []

/-- The label may be compared, whatever options are listed besides; once it is to be parsed, it stays
rejected. -/
theorem resolution_monotone_label :
    let parsed := labelDeclaration.extended [] ["System.IParsable<Shop.Label>"]
    (∃ a a', Review.ofDescriptor (.ofDeclaration labelDeclaration) = .accepted a ∧
      Review.ofDescriptor (.ofDeclaration
        (labelDeclaration.extended [.implicitAs] ["IComparable<Label>"])) = .accepted a' ∧
      a.capabilities.toList ⊆ a'.capabilities.toList) ∧
    Review.ofDescriptor (.ofDeclaration parsed) =
      .rejected [labelDeclaration.report .stringNotParsable] ∧
    Review.ofDescriptor (.ofDeclaration (parsed.extended [.toText] ["IEquatable<string>"])) =
      .rejected [labelDeclaration.report .stringNotParsable] := by
  intro parsed
  have hparsed : Review.ofDescriptor (.ofDeclaration parsed) =
      .rejected [labelDeclaration.report .stringNotParsable] := by decide +kernel
  have hcompared : (Review.ofDescriptor (.ofDeclaration
      (labelDeclaration.extended [.implicitAs] ["IComparable<Label>"]))).state = .accepted := by
    decide +kernel
  refine ⟨?_, hparsed, ?_⟩
  · rcases hlabel : Review.ofDescriptor (.ofDeclaration labelDeclaration) with a | ds
    · obtain ⟨-, hgrows⟩ := (resolution_monotone labelDeclaration _ _ rfl).1 a hlabel
      rcases hgrows [.implicitAs] ["IComparable<Label>"] with ⟨a', ha', hsubset⟩ | hrejected
      · exact ⟨a, a', rfl, ha', hsubset⟩
      · rw [hrejected] at hcompared
        cases hcompared
    · have haccepted : (Review.ofDescriptor (.ofDeclaration labelDeclaration)).state = .accepted := by
        decide +kernel
      rw [hlabel] at haccepted
      cases haccepted
  · exact (resolution_monotone parsed _ _ rfl).2 _ hparsed ⟨_, List.mem_singleton_self _, rfl⟩ _ _

end ValueObject
