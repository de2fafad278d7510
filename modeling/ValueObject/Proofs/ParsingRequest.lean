/-
# ValueObject.Proofs.ParsingRequest -- when parsing is asked for

Parsing can be asked for in two places: by the option, or by an interface that marks the type as
parsable. Between the declaration and the review stand the folding of the options, the recognition of
the interfaces and the inference of options from what was recognised. `parsable_infer_iff` goes
through all of it at once.
-/

import ValueObject.Proofs.InterfaceMarks
import ValueObject.Proofs.OptionBits
import ValueObject.Proofs.TypeSpelling
import ValueObject.Review

namespace ValueObject

/-! ## Options -/

/-- An option that is not the one that stands in for an empty list is in force when it is listed. -/
theorem ValueOptions.has_ofList {options : List ValueOption} {x : ValueOption}
    (hx : x ≠ .constructor) : (ofList options).has x = options.contains x := by
  rw [Bool.eq_iff_iff, List.contains_iff_mem]
  exact lawful.has_ofList_iff hx

/-! ## Interfaces -/

namespace CapabilitySet

/-- What marks a type as parsable: its base name, with the type itself as the argument. -/
def MarksParsable (name interface : String) : Prop :=
  ∃ base argument, TypeName.splitGeneric interface = some (base, argument) ∧
    (base = "IParsable" ∨ base = "ISpanParsable") ∧ namesType argument name = true

/-- Such an interface marks one of the two kinds of parsing, whatever the datatype is. -/
theorem marksParsable_iff {name interface : String} {datatype : Option String} :
    MarksParsable name interface ↔
      Marks name datatype .parsable interface ∨ Marks name datatype .spanParsable interface := by
  constructor
  · rintro ⟨base, argument, hsplit, rfl | rfl, hname⟩
    · exact .inl ⟨argument, hsplit, hname⟩
    · exact .inr ⟨argument, hsplit, hname⟩
  · rintro (⟨argument, hsplit, hname⟩ | ⟨argument, hsplit, hname⟩)
    · exact ⟨_, argument, hsplit, .inl rfl, hname⟩
    · exact ⟨_, argument, hsplit, .inr rfl, hname⟩

/-- One of the two kinds of parsing is among what the interfaces mark. -/
theorem detect_parsable_iff {interfaces : List String} {name : String} {datatype : Option String} :
    ((detect interfaces name datatype).contains .parsable = true ∨
      (detect interfaces name datatype).contains .spanParsable = true) ↔
        ∃ i ∈ interfaces, MarksParsable name i := by
  simp only [contains_detect, @marksParsable_iff name _ datatype, and_or_left, exists_or]

end CapabilitySet

/-! ## The whole declaration -/

/-- **Parsing is asked for**: by the option, or by an interface over the type itself. -/
def Declaration.AsksParsing (d : Declaration) (options : List ValueOption) : Prop :=
  .parsable ∈ options ∨ ∃ i ∈ d.interfaces, CapabilitySet.MarksParsable d.name i

theorem parsable_infer_iff (d : Declaration) (options : List ValueOption)
    (datatype : Option String) :
    ((ValueOptions.ofList options).infer
      (.detect d.interfaces d.name datatype)).parsable = true ↔ d.AsksParsing options := by
  have hoption : (ValueOptions.ofList options).parsable = options.contains .parsable :=
    ValueOptions.has_ofList (x := .parsable) (by decide)
  simp only [ValueOptions.infer, hoption, Bool.or_eq_true, or_assoc,
    CapabilitySet.detect_parsable_iff, List.contains_iff_mem, Declaration.AsksParsing]

/-! ## The type of texts -/

/-- A type is found to be the type of texts with or without the blanks around its name. -/
theorem TypeName.isString_trim {t : String} :
    isString (Text.trim t) = true ↔ canonical t = "System.String" := by
  rw [isString, beq_iff_eq, canonical_trim]

end ValueObject
