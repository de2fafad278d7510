/-
# ValueObject.Proofs.Source.MultiValueTidy -- the members of a type over several values are tidy

The names that a property is given in generated code, its parameter and its backing field, are as
plain as its own name: lower-casing the first character brings in letters only. With that, each part
is tidy for any number of fields, since what a part lists of the fields is clean when each entry is.
-/

import ValueObject.Proofs.Source.FrameTidy
import ValueObject.Proofs.Source.OutParameter

namespace ValueObject.Source

/-! ## Names derived from a property -/

theorem Plain.lowerFirst {name : String} (h : Plain name) :
    Plain (Identifier.lowerFirst name) := by
  constructor
  intro c hc
  rw [Identifier.lowerFirst, String.toList_ofList] at hc
  by_cases hascii : c.toNat < 128
  · rcases Text.mem_or_letter_of_mem_lowerFirst hc hascii with hmem | ⟨hfirst, hlast⟩
    · exact h.chars c hmem
    · refine ⟨?_, ?_, ?_⟩
      -- the marks lie outside the letters `a` to `z`
      all_goals
        rintro rfl
        revert hfirst hlast
        decide
  · refine ⟨?_, ?_, ?_⟩
    all_goals
      rintro rfl
      exact hascii (by decide)

theorem Plain.prefixed {name : String} (h : Plain name) (mark : Char)
    (hmark : mark ≠ '{' ∧ mark ≠ '}' ∧ mark ≠ '\n') : Plain (String.singleton mark ++ name) := by
  constructor
  intro c hc
  rw [String.toList_append, String.toList_singleton, List.singleton_append, List.mem_cons] at hc
  rcases hc with rfl | hc
  · exact hmark
  · exact h.chars c hc

theorem Plain.parameterName {name : String} (h : Plain name) :
    Plain (Identifier.parameterName name) := by
  unfold Identifier.parameterName Identifier.escape
  split
  · exact h.lowerFirst.prefixed '@' (by decide)
  · exact h.lowerFirst

theorem Plain.backingName {name : String} (h : Plain name) : Plain (Identifier.backingName name) :=
  h.lowerFirst.prefixed '_' (by decide)

/-- A parameter opens a line where the property could. -/
theorem Opens.parameterName {name : String} (h : Opens name) :
    Opens (Identifier.parameterName name) := by
  obtain ⟨c, hc, hne⟩ := h.front
  unfold Identifier.parameterName Identifier.escape
  split
  · exact .append (.lit rfl) _
  · -- a space in front would have to be there before, since lower-casing makes letters only
    rcases hlist : Text.lowerFirst name.toList with _ | ⟨d, rest⟩
    · obtain ⟨cs, hcs⟩ : ∃ cs, name.toList = c :: cs := List.head?_eq_some_iff.mp hc
      rw [hcs, Text.lowerFirst, List.append_eq_nil_iff] at hlist
      exact absurd hlist.1 (Text.lowercase_ne_nil c)
    · refine ⟨d, ?_, ?_⟩
      · rw [Identifier.lowerFirst, String.toList_ofList, hlist]
        rfl
      · rintro rfl
        have hhead : (Text.lowerFirst name.toList).head? = some ' ' := by rw [hlist]; rfl
        rcases Text.head?_of_head?_lowerFirst hhead (by decide) with hspace | hletter
        · rw [hc] at hspace
          exact hne (Option.some.inj hspace)
        · exact absurd hletter (by decide)

/-- The texts of a field are plain, and its name can begin a line. -/
structure PlainField (f : Field) : Prop where
  name : Plain f.name
  typeName : Plain f.typeName
  opens : Opens f.name

namespace MultiValue

/-! ## The out parameter of `Try` -/

theorem plain_toString (n : Nat) : Plain (toString n) := by
  constructor
  intro c hc
  rw [Nat.toString_eq_repr, Nat.toList_repr] at hc
  have hdigit : c.isDigit = true := Nat.isDigit_of_mem_toDigits (by decide) (by decide) hc
  refine ⟨?_, ?_, ?_⟩
  all_goals
    rintro rfl
    exact absurd hdigit (by decide)

theorem outParameter_ends (fields : List Field) :
    Clean (outParameter fields) ∧ Opens (outParameter fields) := by
  obtain ⟨n, hn, hfree⟩ := exists_firstFree fields
  rw [outParameter_eq_of_firstFree hn hfree]
  cases n with
  | zero => exact ⟨.lit rfl, .lit rfl⟩
  | succ n => exact ⟨Clean.append (.lit rfl) (plain_toString (n + 1)).clean, .append (.lit rfl) _⟩

/-! ## What parts list of the fields -/

-- what a part lists of the fields is one text inside its line
attribute [local irreducible] Code.braced throwing access partialWord TypeName.nullable
  Field.parameter Field.backing commaList outParameter comparison parameters arguments display
  assignments hashCode

/-- The texts of the user in the members are plain. -/
structure PlainTexts (v : MultiValue) : Prop where
  name : Plain v.name
  fields : ∀ f ∈ v.fields, PlainField f
  predicate : ∀ p ∈ v.predicate, Plain p
  runtime : Plain v.runtime

variable {v : MultiValue}

/-- A list over the fields is clean when each entry is. -/
theorem Clean.listed (h : v.PlainTexts) {entry : Field → String}
    (hentry : ∀ f, PlainField f → Clean (entry f)) : Clean (commaList (v.fields.map entry)) := by
  apply Clean.commaList
  intro p hp
  obtain ⟨f, hf, rfl⟩ := List.mem_map.mp hp
  exact hentry f (h.fields f hf)

theorem clean_parameter {f : Field} (h : PlainField f) : Clean f.parameter := by
  unfold Field.parameter
  exact h.name.parameterName.clean

theorem clean_backing {f : Field} (h : PlainField f) : Clean f.backing := by
  unfold Field.backing
  exact h.name.backingName.clean

theorem clean_parameters (h : v.PlainTexts) : Clean v.parameters := by
  unfold parameters
  apply Clean.listed h
  intro f hf
  exact (hf.typeName.clean.append (.lit rfl)).append (clean_parameter hf)

theorem clean_arguments (h : v.PlainTexts) : Clean v.arguments := by
  unfold arguments
  exact Clean.listed h fun f hf => clean_parameter hf

theorem clean_display (h : v.PlainTexts) : Clean v.display := by
  unfold display
  apply Clean.listed h
  intro f hf
  exact (hf.name.clean.append (.lit rfl)).append (.braced hf.name.clean)

theorem allTidy_assignments (h : v.PlainTexts) : Code.AllTidy v.assignments := by
  unfold assignments
  apply Code.allTidy_map_line
  intro f hf
  have hbacking := clean_backing (h.fields f hf)
  have hparameter := clean_parameter (h.fields f hf)
  have hopens : Opens f.backing := by
    unfold Field.backing
    exact .append (.lit rfl) _
  apply_rules [Tidy.of_ends, Clean.append, Clean.lit, Opens.append, Closes.append, Closes.lit, rfl]

/-! ## The code of a part -/

theorem allTidy_constructorCode (h : v.PlainTexts) : Code.AllTidy [v.constructorCode] := by
  have hname := h.name.clean
  have hruntime := h.runtime.clean
  have hparameters := clean_parameters h
  have harguments := clean_arguments h
  have hassignments := allTidy_assignments h
  have hheader : Tidy (access v.options.constructor ++ " " ++ v.name ++ "(" ++ v.parameters ++
      ")") := by
    apply_rules [Tidy.of_ends, Clean.append, Clean.lit, Clean.access, Opens.append, Opens.access,
      Closes.append, Closes.lit, rfl]
  rw [constructorCode, Code.allTidy_block_cons, and_iff_left Code.allTidy_nil]
  refine ⟨hheader, ?_⟩
  split
  · exact hassignments
  · next predicate hsome =>
    have hpredicate := (h.predicate predicate hsome).clean
    simp only [Code.allTidy_line_cons, Code.allTidy_block_cons, Code.allTidy_nil, and_true]
    refine ⟨?_, hassignments, ?_⟩
    all_goals
      apply_rules [Tidy.of_ends, Clean.append, Clean.lit, Clean.throwing, Opens.append, Opens.lit,
        Closes.append, Closes.lit, rfl]

theorem allTidy_propertyCode (h : v.PlainTexts) {f : Field} (hf : PlainField f) :
    Code.AllTidy (v.propertyCode f) := by
  have hname := h.name.clean
  have hruntime := h.runtime.clean
  have hfield := hf.name.clean
  have htype := hf.typeName.clean
  have hnullable := hf.typeName.nullable.clean
  have hbacking := clean_backing hf
  simp only [propertyCode, Code.allTidy_line_cons, Code.allTidy_nil, and_true]
  constructor
  all_goals
    apply_rules [Tidy.of_ends, Clean.append, Clean.lit, Clean.throwing, Opens.append, Opens.lit,
      Closes.append, Closes.lit, rfl]

/-- The hash is one line or a block with a line for each field. -/
theorem allTidy_hashCode (h : v.PlainTexts) : Code.AllTidy [v.hashCode] := by
  unfold hashCode
  split
  · have hbackings : Clean (commaList (v.fields.map Field.backing)) :=
      Clean.listed h fun f hf => clean_backing hf
    rw [Code.allTidy_line_cons, and_iff_left Code.allTidy_nil]
    apply_rules [Tidy.of_ends, Clean.append, Clean.lit, Opens.append, Opens.lit, Closes.append,
      Closes.lit, rfl]
  · simp only [Code.allTidy_block_cons, Code.allTidy_append, Code.allTidy_line_cons,
      Code.allTidy_nil, and_true]
    refine ⟨?_, ⟨?_, ?_⟩, ?_⟩
    · apply_rules [Tidy.of_ends, Clean.lit, Opens.lit, Closes.lit, rfl]
    · apply_rules [Tidy.of_ends, Clean.lit, Opens.lit, Closes.lit, rfl]
    · apply Code.allTidy_map_line
      intro f hf
      have hbacking := clean_backing (h.fields f hf)
      apply_rules [Tidy.of_ends, Clean.append, Clean.lit, Opens.append, Opens.lit, Closes.append,
        Closes.lit, rfl]
    · apply_rules [Tidy.of_ends, Clean.lit, Opens.lit, Closes.lit, rfl]

theorem allTidy_overridesCode (h : v.PlainTexts) : Code.AllTidy v.overridesCode := by
  have hname := h.name.clean
  have hdisplay := clean_display h
  simp only [overridesCode, Code.allTidy_line_cons, allTidy_hashCode h, and_true]
  constructor
  all_goals
    apply_rules [Tidy.of_ends, Clean.append, Clean.lit, Clean.braced, Opens.append, Opens.lit,
      Closes.append, Closes.lit, rfl]

/-- A line of `Deconstruct` begins with a parameter. -/
theorem allTidy_deconstructCode (h : v.PlainTexts) : Code.AllTidy [v.deconstructCode] := by
  have hout : Clean (commaList (v.fields.map fun f => "out " ++ f.typeName ++ " " ++ f.parameter)) := by
    apply Clean.listed h
    intro f hf
    have htype := hf.typeName.clean
    have hparameter := clean_parameter hf
    apply_rules [Clean.append, Clean.lit, rfl]
  rw [deconstructCode, Code.allTidy_block_cons, and_iff_left Code.allTidy_nil]
  constructor
  · apply_rules [Tidy.of_ends, Clean.append, Clean.lit, Opens.append, Opens.lit, Closes.append,
      Closes.lit, rfl]
  · apply Code.allTidy_map_line
    intro f hf
    have hfield := (h.fields f hf).name.clean
    have hparameter := clean_parameter (h.fields f hf)
    have hopens : Opens f.parameter := by
      unfold Field.parameter
      exact (h.fields f hf).opens.parameterName
    apply_rules [Tidy.of_ends, Clean.append, Clean.lit, Opens.append, Closes.append, Closes.lit, rfl]

theorem allTidy_tryCode (h : v.PlainTexts) {predicate : String} (hp : Plain predicate) :
    Code.AllTidy [v.tryCode predicate] := by
  have hname := h.name.clean
  have hpredicate := hp.clean
  have hparameters := clean_parameters h
  have harguments := clean_arguments h
  obtain ⟨hout, hopens⟩ := outParameter_ends v.fields
  simp only [tryCode, Code.allTidy_line_cons, Code.allTidy_block_cons, Code.allTidy_nil, and_true]
  refine ⟨?_, ?_, ?_, ?_⟩
  all_goals
    apply_rules [Tidy.of_ends, Clean.append, Clean.lit, Clean.braced, Opens.append, Opens.lit,
      Closes.append, Closes.braced, Closes.lit, rfl]

theorem clean_comparison {f : Field} (h : PlainField f) : Clean (comparison f) := by
  have hname := h.name.clean
  have htype := h.typeName.clean
  unfold comparison
  split
  all_goals
    apply_rules [Clean.append, Clean.lit, rfl]

theorem allTidy_equalityCode (h : v.PlainTexts) : Code.AllTidy v.equalityCode := by
  have hname := h.name.clean
  have hcomparisons : Clean (" && ".intercalate (v.fields.map comparison)) := by
    apply Clean.intercalate (.lit rfl)
    intro p hp
    obtain ⟨f, hf, rfl⟩ := List.mem_map.mp hp
    exact clean_comparison (h.fields f hf)
  rw [equalityCode, Code.allTidy_line_cons]
  refine ⟨?_, allTidy_equalityOperators hname hname⟩
  generalize " && ".intercalate (v.fields.map comparison) = comparisons at hcomparisons ⊢
  apply_rules [Tidy.of_ends, Clean.append, Clean.lit, Opens.append, Opens.lit, Closes.append,
    Closes.lit, rfl]

/-! ## Parts and members -/

/-- There is a property for each field, and for nothing else. -/
theorem property_mem_parts {f : Field} : .property f ∈ v.parts ↔ f ∈ v.fields := by
  simp [parts]

/-- **Every part is tidy.** -/
theorem allTidy_code (h : v.PlainTexts) {p : Part} (hp : p ∈ v.parts) : Code.AllTidy (v.code p) := by
  have hname := h.name.clean
  cases p with
  | defaultConstructor => exact allTidy_defaultConstructor hname h.runtime.clean
  | constructor => exact allTidy_constructorCode h
  | property f => exact allTidy_propertyCode h (h.fields f (property_mem_parts.mp hp))
  | overrides => exact allTidy_overridesCode h
  | factory =>
    have hparameters := clean_parameters h
    have harguments := clean_arguments h
    rw [code, Code.allTidy_line_cons, and_iff_left Code.allTidy_nil]
    apply_rules [Tidy.of_ends, Clean.append, Clean.lit, Clean.partialWord, Opens.append, Opens.lit,
      Closes.append, Closes.lit, rfl]
  | deconstruct => exact allTidy_deconstructCode h
  | tryCreate =>
    rw [code]
    rcases hsome : v.predicate with _ | predicate
    · exact Code.allTidy_nil
    · exact allTidy_tryCode h (h.predicate predicate hsome)
  | equality => exact allTidy_equalityCode h

/-- **The members are tidy**, whichever they are. -/
theorem allTidy_members (h : v.PlainTexts) : Code.AllTidy v.members :=
  Code.allTidy_flatMap fun _ hp => allTidy_code h hp

end MultiValue

end ValueObject.Source
