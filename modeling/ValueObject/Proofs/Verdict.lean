/-
# ValueObject.Proofs.Verdict -- how a declaration is decided

`Decided` says what becomes of a declaration in terms of the declaration alone: no descriptor, no
resolved capability and no review occurs in it. Each line names the faults that come before it as
absent, so of several faults the first one decides, and together the lines leave no declaration out.
Every generator decides every declaration that way, whatever its settings (`generate_decided`).
-/

import ValueObject.Proofs.Acceptance
import ValueObject.Proofs.ParsingRequest

namespace ValueObject

open Text

/-! ## The decision in terms of the declaration -/

/-- A diagnostic about the declaration as a whole. -/
def Declaration.report (d : Declaration) (kind : DiagnosticKind) : Diagnostic where
  kind := kind
  subject := d.name
  location := d.location

/-- A diagnostic about a fault of a field, at the field or else at the declaration. -/
def Declaration.reportFault (d : Declaration) (v : Field × Field.Fault) : Diagnostic where
  kind := Review.faultKind v.2
  subject := d.name
  field := some v.1.name
  location := if v.1.location.isSome then v.1.location else d.location

/-- **How a declaration is decided.** -/
structure Decided (d : Declaration) (o : Outcome) : Prop where
  missingNamespace : Missing d.namespaceName → o = .rejected [d.report .missingNamespace]
  unresolvableDatatype : ∀ t options, ¬ Missing d.namespaceName → d.usage = .single t options →
    Missing t → o = .rejected [d.report .unresolvableDatatype]
  stringNotParsable : ∀ t options, ¬ Missing d.namespaceName →
    d.usage = .single (some t) options → ¬ Missing (some t) →
    TypeName.canonical t = "System.String" → d.AsksParsing options →
    o = .rejected [d.report .stringNotParsable]
  single : ∀ t options, ¬ Missing d.namespaceName → d.usage = .single (some t) options →
    ¬ Missing (some t) → ¬ (TypeName.canonical t = "System.String" ∧ d.AsksParsing options) →
    ∃ u, o = .accepted u
  faults : ∀ options, ¬ Missing d.namespaceName → d.usage = .multi options →
    Field.violations (Field.collect d) ≠ [] →
    o = .rejected ((Field.violations (Field.collect d)).map d.reportFault)
  noFields : ∀ options, ¬ Missing d.namespaceName → d.usage = .multi options →
    Field.collect d = [] → o = .rejected [d.report .noFields]
  multi : ∀ options, ¬ Missing d.namespaceName → d.usage = .multi options →
    Field.violations (Field.collect d) = [] → Field.collect d ≠ [] → ∃ u, o = .accepted u
  notEmpty : o ≠ .rejected []

/-! ## Reviews that reject -/

namespace Review

theorem ofSingle_conflict {d : Descriptor} {n t : String} {o : ValueOptions}
    (hstring : TypeName.isString t = true) (hparsable : (o.infer d.declared).parsable = true) :
    ofSingle d n (some t) o = reject d .stringNotParsable := by
  simp [ofSingle, CapabilitySet.resolveSingle, hstring, hparsable]

theorem ofSingle_accepts {d : Descriptor} {n t : String} {o : ValueOptions}
    (h : ¬ (TypeName.isString t = true ∧ (o.infer d.declared).parsable = true)) :
    ∃ a, ofSingle d n (some t) o = .accepted a := by
  have hresolve : ∃ capabilities, CapabilitySet.resolveSingle (o.infer d.declared) d.declared t
      d.isRecord = .ok capabilities := by
    unfold CapabilitySet.resolveSingle
    rw [if_neg]
    · exact ⟨_, rfl⟩
    · rw [Bool.and_eq_true]
      exact fun hboth => h ⟨hboth.2, hboth.1⟩
  obtain ⟨capabilities, hcapabilities⟩ := hresolve
  exact ⟨_, ofSingle_some_eq_accepted_iff.mpr ⟨capabilities, hcapabilities, rfl⟩⟩

theorem ofMulti_faults {d : Descriptor} {n : String} {fields : List Field} {o : MultiOptions}
    (h : Field.violations fields ≠ []) :
    ofMulti d n fields o = .rejected ((Field.violations fields).map (reportFault d)) := by
  unfold ofMulti
  split
  · next hnil => exact absurd (List.map_eq_nil_iff.mp hnil) h
  · rfl

theorem ofMulti_accepts {d : Descriptor} {n : String} {fields : List Field} {o : MultiOptions}
    (hfaultless : Field.violations fields = []) (hfields : fields ≠ []) :
    ∃ a, ofMulti d n fields o = .accepted a :=
  ⟨_, ofMulti_eq_accepted_iff.mpr ⟨hfaultless, hfields, rfl⟩⟩

/-- A rejection says why. -/
theorem ofDescriptor_ne_rejected_nil (d : Descriptor) : ofDescriptor d ≠ .rejected [] := by
  unfold ofDescriptor
  split
  · simp [reject]
  · split
    · unfold ofSingle
      split
      · simp [reject]
      · dsimp only
        split <;> simp [reject]
    · unfold ofMulti
      split
      · split <;> simp [reject]
      · next hsome =>
        intro hnil
        exact hsome (rejected.inj hnil)

end Review

/-! ## The review of a declaration -/

section

variable {d : Declaration}

theorem reportFault_eq : Review.reportFault (.ofDeclaration d) = d.reportFault := by
  funext v
  unfold Review.reportFault Declaration.reportFault
  cases v.1.location <;> rfl

theorem ofDescriptor_missing (h : Missing d.namespaceName) :
    Review.ofDescriptor (.ofDeclaration d) = .rejected [d.report .missingNamespace] := by
  have hnone : trimmed? (Descriptor.ofDeclaration d).namespaceName = none :=
    trimmed?_eq_none_iff.mpr h
  rw [Review.ofDescriptor, hnone]
  rfl

/-- Inside a namespace, the shape decides which questions are asked. -/
theorem ofDescriptor_present (h : ¬ Missing d.namespaceName) :
    ∃ n, Review.ofDescriptor (.ofDeclaration d) =
      match Descriptor.shapeOf d with
      | .single t o => .ofSingle (.ofDeclaration d) n t o
      | .multi fields o => .ofMulti (.ofDeclaration d) n fields o := by
  rcases hn : trimmed? d.namespaceName with _ | n
  · exact absurd (trimmed?_eq_none_iff.mp hn) h
  · refine ⟨n, ?_⟩
    have hsome : trimmed? (Descriptor.ofDeclaration d).namespaceName = some n := hn
    rw [Review.ofDescriptor, hsome]
    rfl

theorem ofDescriptor_single (h : ¬ Missing d.namespaceName) {t : Option String}
    {options : List ValueOption} (husage : d.usage = .single t options) :
    ∃ n, Review.ofDescriptor (.ofDeclaration d) =
      .ofSingle (.ofDeclaration d) n (trimmed? t) (.ofList options) := by
  obtain ⟨n, hn⟩ := ofDescriptor_present h
  have hshape : Descriptor.shapeOf d = .single (trimmed? t) (.ofList options) := by
    rw [Descriptor.shapeOf, husage]
  exact ⟨n, by rw [hn, hshape]⟩

theorem ofDescriptor_multi (h : ¬ Missing d.namespaceName) {options : List MultiOption}
    (husage : d.usage = .multi options) :
    ∃ n, Review.ofDescriptor (.ofDeclaration d) =
      .ofMulti (.ofDeclaration d) n (Field.collect d) (.ofList options) := by
  obtain ⟨n, hn⟩ := ofDescriptor_present h
  have hshape : Descriptor.shapeOf d = .multi (Field.collect d) (.ofList options) := by
    rw [Descriptor.shapeOf, husage]
  exact ⟨n, by rw [hn, hshape]⟩

/-- The two things that keep a datatype from being generated, as the review asks for them. -/
theorem conflict_iff {t : String} {options : List ValueOption} :
    (TypeName.isString (trim t) = true ∧
      ((ValueOptions.ofList options).infer (Descriptor.ofDeclaration d).declared).parsable = true) ↔
      TypeName.canonical t = "System.String" ∧ d.AsksParsing options :=
  and_congr TypeName.isString_trim (parsable_infer_iff d options _)

end

/-! ## The decision of a generator -/

section

variable {g : Generator} {d : Declaration}

theorem generate_of_rejected {ds : List Diagnostic}
    (h : Review.ofDescriptor (.ofDeclaration d) = .rejected ds) : g.generate d = .rejected ds := by
  simp only [Generator.generate, h]

theorem generate_of_accepted {a : Accepted}
    (h : Review.ofDescriptor (.ofDeclaration d) = .accepted a) :
    ∃ u, g.generate d = .accepted u := by
  simp only [Generator.generate, h]
  exact ⟨_, rfl⟩

end

/-- **Every generator decides every declaration as described.** -/
theorem generate_decided (g : Generator) (d : Declaration) : Decided d (g.generate d) where
  missingNamespace h := generate_of_rejected (ofDescriptor_missing h)
  unresolvableDatatype t options hpresent husage hmissing := by
    obtain ⟨n, hn⟩ := ofDescriptor_single hpresent husage
    rw [trimmed?_eq_none_iff.mpr hmissing] at hn
    exact generate_of_rejected hn
  stringNotParsable t options hpresent husage hknown hstring hasks := by
    obtain ⟨n, hn⟩ := ofDescriptor_single hpresent husage
    rw [trimmed?_eq_some_iff.mpr ⟨hknown, t, rfl, rfl⟩] at hn
    obtain ⟨hisString, hparsable⟩ := conflict_iff.mpr ⟨hstring, hasks⟩
    exact generate_of_rejected (hn.trans (Review.ofSingle_conflict hisString hparsable))
  single t options hpresent husage hknown hallowed := by
    obtain ⟨n, hn⟩ := ofDescriptor_single hpresent husage
    rw [trimmed?_eq_some_iff.mpr ⟨hknown, t, rfl, rfl⟩] at hn
    obtain ⟨a, ha⟩ := Review.ofSingle_accepts (mt conflict_iff.mp hallowed)
    exact generate_of_accepted (hn.trans ha)
  faults options hpresent husage hfaults := by
    obtain ⟨n, hn⟩ := ofDescriptor_multi hpresent husage
    rw [Review.ofMulti_faults hfaults, reportFault_eq] at hn
    exact generate_of_rejected hn
  noFields options hpresent husage hnone := by
    obtain ⟨n, hn⟩ := ofDescriptor_multi hpresent husage
    rw [hnone] at hn
    exact generate_of_rejected hn
  multi options hpresent husage hfaultless hfields := by
    obtain ⟨n, hn⟩ := ofDescriptor_multi hpresent husage
    obtain ⟨a, ha⟩ := Review.ofMulti_accepts hfaultless hfields
    exact generate_of_accepted (hn.trans ha)
  notEmpty := by
    rcases hreview : Review.ofDescriptor (.ofDeclaration d) with a | ds
    · obtain ⟨u, hu⟩ := generate_of_accepted (g := g) hreview
      rw [hu]
      simp
    · rw [generate_of_rejected hreview]
      intro hnil
      rw [Outcome.rejected.inj hnil] at hreview
      exact Review.ofDescriptor_ne_rejected_nil _ hreview

end ValueObject
