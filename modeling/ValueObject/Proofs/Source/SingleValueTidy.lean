/-
# ValueObject.Proofs.Source.SingleValueTidy -- the members of a type over one value are tidy

Each part is shown to be tidy by itself. Which parts a type has is a matter of options, predicate,
factory and capabilities, but its members are parts one after the other in any case, so no
combination of them needs a proof of its own.
-/

import ValueObject.Proofs.Source.FrameTidy
import ValueObject.Source.SingleValue

namespace ValueObject.Source.SingleValue

-- a line is taken apart where its text is joined, not inside these
attribute [local irreducible] Code.braced throwing access partialWord TypeName.nullable parsedCode

/-- The texts of the user in the members are plain. -/
structure PlainTexts (v : SingleValue) : Prop where
  name : Plain v.name
  datatype : Plain v.datatype
  predicate : ∀ p ∈ v.predicate, Plain p
  runtime : Plain v.runtime

variable {v : SingleValue}

theorem allTidy_constructorCode (h : v.PlainTexts) : Code.AllTidy [v.constructorCode] := by
  have hname := h.name.clean
  have hdatatype := h.datatype.clean
  have hruntime := h.runtime.clean
  unfold constructorCode
  dsimp only
  split
  · rw [Code.allTidy_line_cons, and_iff_left Code.allTidy_nil]
    apply_rules [Tidy.of_ends, Clean.append, Clean.lit, Clean.access, Opens.append, Opens.access,
      Closes.append, Closes.lit, rfl]
  · next predicate hsome =>
    have hpredicate := (h.predicate predicate hsome).clean
    simp only [Code.allTidy_line_cons, Code.allTidy_block_cons, Code.allTidy_nil, and_true]
    refine ⟨?_, ?_, ?_⟩
    all_goals
      apply_rules [Tidy.of_ends, Clean.append, Clean.lit, Clean.access, Clean.throwing,
        Clean.braced, Opens.append, Opens.lit, Opens.access, Closes.append, Closes.lit, rfl]

theorem allTidy_valueCode (h : v.PlainTexts) : Code.AllTidy [v.valueCode] := by
  have hname := h.name.clean
  have hdatatype := h.datatype.clean
  have hruntime := h.runtime.clean
  simp only [valueCode, Code.allTidy_line_cons, Code.allTidy_nil, and_true]
  apply_rules [Tidy.of_ends, Clean.append, Clean.lit, Clean.throwing, Opens.append, Opens.lit,
    Closes.append, Closes.lit, rfl]

theorem allTidy_tryCode (h : v.PlainTexts) {predicate : String} (hp : Plain predicate) :
    Code.AllTidy [v.tryCode predicate] := by
  have hname := h.name.clean
  have hdatatype := h.datatype.clean
  have hpredicate := hp.clean
  simp only [tryCode, Code.allTidy_line_cons, Code.allTidy_block_cons, Code.allTidy_nil, and_true]
  refine ⟨?_, ?_, ?_, ?_⟩
  all_goals
    apply_rules [Tidy.of_ends, Clean.append, Clean.lit, Clean.braced, Opens.append, Opens.lit,
      Closes.append, Closes.braced, Closes.lit, rfl]

/-! ## Capabilities -/

theorem allTidy_comparableCode (h : v.PlainTexts) {otherType otherValue : String}
    (ht : Clean otherType) (hv : Clean otherValue) :
    Code.AllTidy (v.comparableCode otherType otherValue) := by
  have hname := h.name.clean
  rw [comparableCode, Code.allTidy_line_cons]
  constructor
  · apply_rules [Tidy.of_ends, Clean.append, Clean.lit, Opens.append, Opens.lit, Closes.append,
      Closes.lit, rfl]
  · apply Code.allTidy_map_line
    intro op hop
    have hclean : Clean op := by
      simp only [List.mem_cons, List.not_mem_nil, or_false] at hop
      rcases hop with rfl | rfl | rfl | rfl <;> exact .lit rfl
    apply_rules [Tidy.of_ends, Clean.append, Clean.lit, Opens.append, Opens.lit, Closes.append,
      Closes.lit, rfl]

/-- What follows a parsed value ends in a semicolon or in a brace. -/
theorem parsedCode_ends (h : v.PlainTexts) : Clean v.parsedCode ∧ Closes v.parsedCode := by
  unfold parsedCode
  split
  · exact ⟨((Clean.lit rfl).append h.name.clean).append (.lit rfl), .append (.lit rfl) _⟩
  · exact ⟨.braced (.lit rfl), .braced _⟩

theorem allTidy_parsableCode (h : v.PlainTexts) {input : String} (hi : Clean input) :
    Code.AllTidy (v.parsableCode input) := by
  have hname := h.name.clean
  have hdatatype := h.datatype.clean
  obtain ⟨hparsed, hcloses⟩ := parsedCode_ends h
  simp only [parsableCode, Code.allTidy_line_cons, Code.allTidy_block_cons, Code.allTidy_nil,
    and_true]
  refine ⟨?_, ?_, ?_, ?_, ?_⟩
  all_goals
    apply_rules [Tidy.of_ends, Clean.append, Clean.lit, Opens.append, Opens.lit, Closes.append,
      Closes.lit, rfl]

theorem allTidy_capabilityCode (h : v.PlainTexts) (c : Capability) :
    Code.AllTidy (v.capabilityCode c) := by
  have hname := h.name.clean
  have hdatatype := h.datatype.clean
  cases c with
  | selfEquatable =>
    simp only [capabilityCode, Code.allTidy_append, Code.allTidy_line_cons, Code.allTidy_nil,
      and_true]
    refine ⟨⟨?_, ?_, ?_⟩, allTidy_equalityOperators hname hname⟩
    all_goals
      apply_rules [Tidy.of_ends, Clean.append, Clean.lit, Opens.append, Opens.lit, Closes.append,
        Closes.lit, rfl]
  | valueEquatable =>
    rw [capabilityCode, Code.allTidy_line_cons]
    refine ⟨?_, allTidy_equalityOperators hname hdatatype⟩
    apply_rules [Tidy.of_ends, Clean.append, Clean.lit, Opens.append, Opens.lit, Closes.append,
      Closes.lit, rfl]
  | selfComparable => exact allTidy_comparableCode h hname (.lit rfl)
  | valueComparable => exact allTidy_comparableCode h hdatatype (.lit rfl)
  | parsable => exact allTidy_parsableCode h (.lit rfl)
  | spanParsable => exact allTidy_parsableCode h (.lit rfl)

/-! ## Parts and members -/

/-- **Every part is tidy.** -/
theorem allTidy_code (h : v.PlainTexts) (p : Part) : Code.AllTidy (v.code p) := by
  have hname := h.name.clean
  have hdatatype := h.datatype.clean
  have hnullable := h.datatype.nullable.clean
  cases p with
  | defaultConstructor => exact allTidy_defaultConstructor hname h.runtime.clean
  | constructor => exact allTidy_constructorCode h
  | value => exact allTidy_valueCode h
  | capability c => exact allTidy_capabilityCode h c
  | tryCreate =>
    rw [code]
    rcases hp : v.predicate with _ | predicate
    · exact Code.allTidy_nil
    · exact allTidy_tryCode h (h.predicate predicate hp)
  -- the parts that are one line of fixed text around the names
  | backingField | fromRaw | toRaw | factory | toText =>
    rw [code, Code.allTidy_line_cons, and_iff_left Code.allTidy_nil]
    apply_rules [Tidy.of_ends, Clean.append, Clean.lit, Clean.partialWord, Opens.append, Opens.lit,
      Closes.append, Closes.lit, rfl]

/-- **The members are tidy**, whichever they are. -/
theorem allTidy_members (h : v.PlainTexts) : Code.AllTidy v.members :=
  Code.allTidy_flatMap fun p _ => allTidy_code h p

end ValueObject.Source.SingleValue
