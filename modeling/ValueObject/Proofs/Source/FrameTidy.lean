/-
# ValueObject.Proofs.Source.FrameTidy -- what is written around the members is tidy

The lines that every unit shares, and those of the support unit: each is tidy as soon as the texts
of the user that it holds are plain. The header of the type and the line of the namespace are the
only lines that may end in a text of the user, so they ask in addition that this text closes.
-/

import ValueObject.Proofs.Source.Tidy
import ValueObject.Proofs.Text.Classes
import ValueObject.Source.Support

namespace ValueObject.Source

-- a line is taken apart where its text is joined, not inside these
attribute [local irreducible] Code.braced throwing Support.hexByte

/-! ## Shared pieces of lines -/

theorem namespacePath_ends {name : String} (h : Identifier.isNamespacePath name = true) :
    Clean name ∧ Closes name := by
  obtain ⟨hne, hchars⟩ := Text.namespacePath_chars h
  refine ⟨Plain.clean ⟨fun c hc => (hchars c hc).2⟩, ?_⟩
  exact ⟨_, List.getLast?_eq_some_getLast hne, (hchars _ (List.getLast_mem hne)).1⟩

theorem Clean.throwing {runtime message : String} (hr : Clean runtime) (hm : Clean message) :
    Clean (throwing runtime message) := by
  unfold Source.throwing
  apply_rules [Clean.append, Clean.lit, rfl]

theorem Clean.access (isPublic : Bool) : Clean (access isPublic) := by
  cases isPublic <;> exact .lit rfl

theorem Opens.access (isPublic : Bool) : Opens (access isPublic) := by
  cases isPublic <;> exact .lit rfl

theorem Clean.partialWord (isPartial : Bool) : Clean (partialWord isPartial) := by
  cases isPartial <;> exact .lit rfl

theorem tidy_generatedCode {s : Settings} (hn : Clean s.toolName) (hv : Clean s.toolVersion) :
    Tidy (generatedCode s) := by
  unfold generatedCode
  apply_rules [Tidy.of_ends, Clean.append, Clean.lit, Opens.append, Opens.lit, Closes.append,
    Closes.lit, rfl]

theorem allTidy_defaultConstructor {name runtime : String} (hn : Clean name) (hr : Clean runtime) :
    Code.AllTidy [defaultConstructor name runtime] := by
  simp only [defaultConstructor, Code.allTidy_line_cons, Code.allTidy_nil, and_true]
  apply_rules [Tidy.of_ends, Clean.append, Clean.throwing, Clean.lit, Opens.append, Opens.lit,
    Closes.append, Closes.lit, rfl]

theorem allTidy_equalityOperators {name right : String} (hn : Clean name) (hr : Clean right) :
    Code.AllTidy (equalityOperators name right) := by
  simp only [equalityOperators, Code.allTidy_line_cons, Code.allTidy_nil, and_true]
  constructor <;>
    apply_rules [Tidy.of_ends, Clean.append, Clean.lit, Opens.append, Opens.lit, Closes.append,
      Closes.lit, rfl]

/-! ## The header of the type -/

theorem Clean.marker {name datatype : String} (hn : Clean name) (hd : Clean datatype)
    (c : Capability) : Clean (c.marker name datatype) := by
  cases c with
  | valueEquatable | valueComparable => exact .append (.append (.lit rfl) hd) (.lit rfl)
  | selfEquatable | selfComparable | parsable | spanParsable =>
    exact .append (.append (.lit rfl) hn) (.lit rfl)

theorem Closes.marker (name datatype : String) (c : Capability) :
    Closes (c.marker name datatype) := by
  cases c <;> exact .append (.lit rfl) _

theorem markerList_ends (markers : CapabilitySet) {name datatype : String} (hn : Clean name)
    (hd : Clean datatype) : Clean (markerList markers name datatype) ∧
      ((markerList markers name datatype).isEmpty = false →
        Closes (markerList markers name datatype)) := by
  constructor
  · apply Clean.commaList
    intro p hp
    obtain ⟨c, -, rfl⟩ := List.mem_map.mp hp
    exact .marker hn hd c
  · intro hne
    apply Closes.intercalate
    · intro p hp
      obtain ⟨c, -, rfl⟩ := List.mem_map.mp hp
      exact .marker name datatype c
    · intro hnil
      rw [markerList, commaList, hnil] at hne
      cases hne

/-- The line that declares the type ends in a marker or in the name of the type. -/
theorem tidy_typeHeader {a : Accepted} {datatype : String} (hn : Clean a.descriptor.name)
    (hclose : Closes a.descriptor.name) (hd : Clean datatype) : Tidy (typeHeader a datatype) := by
  obtain ⟨hclean, hcloses⟩ := markerList_ends a.headerMarkers hn hd
  have hrecord : Clean (if a.descriptor.isRecord then "record " else "") := by
    split <;> exact .lit rfl
  unfold typeHeader
  dsimp only
  -- the word for a record stands in the middle of the line, so which it is does not matter here
  generalize (if a.descriptor.isRecord then "record " else "") = record at hrecord ⊢
  split
  · next hempty =>
    rw [String.append_empty]
    apply_rules [Tidy.of_ends, Clean.append, Clean.lit, Opens.append, Opens.lit, Closes.append, rfl]
  · next hmarkers =>
    replace hcloses := hcloses (Bool.eq_false_iff.mpr hmarkers)
    apply_rules [Tidy.of_ends, Clean.append, Clean.lit, Opens.append, Opens.lit, Closes.append, rfl]

/-- **A unit is tidy** when its members are. -/
theorem allTidy_unitOf {a : Accepted} {s : Settings} {datatype display : String}
    {members : List Code} (htool : Clean s.toolName) (hversion : Clean s.toolVersion)
    (hspace : Clean a.namespaceName) (hspaceClose : Closes a.namespaceName)
    (hname : Clean a.descriptor.name) (hnameClose : Closes a.descriptor.name)
    (hdatatype : Clean datatype) (hdisplay : Clean display) (hmembers : Code.AllTidy members) :
    Code.AllTidy (unitOf a s datatype display members) := by
  simp only [unitOf, openingLines, closingLines, nullableWarning, Code.allTidy_append, Code.allTidy_line_cons,
    Code.allTidy_block_cons, Code.allTidy_nil, and_true]
  refine ⟨⟨⟨?_, ?_, ?_⟩, ?_, tidy_generatedCode htool hversion, ?_,
    tidy_typeHeader hname hnameClose hdatatype, hmembers⟩, ?_, ?_⟩
  all_goals
    apply_rules [Tidy.of_ends, Clean.append, Clean.lit, Opens.append, Opens.lit, Closes.append,
      Closes.lit, rfl]

/-! ## The support unit -/

theorem Tidy.empty : Tidy "" where
  balanced := rfl
  unbroken := by simp
  front := by simp
  back := by simp

theorem plain_hexDigit : ∀ d < 16, (Nat.digitChar d).toUpper ≠ '{' ∧
    (Nat.digitChar d).toUpper ≠ '}' ∧ (Nat.digitChar d).toUpper ≠ '\n' := by
  decide

theorem Clean.hexByte (n : Nat) : Clean (Support.hexByte n) := by
  apply Plain.clean
  constructor
  intro c hc
  simp only [Support.hexByte, String.toList_ofList, List.mem_map, List.mem_cons, List.not_mem_nil,
    or_false] at hc
  rcases hc with ⟨d, rfl | rfl, rfl⟩
  · exact plain_hexDigit _ (Nat.mod_lt _ (by decide))
  · exact plain_hexDigit _ (Nat.mod_lt _ (by decide))

/-- A flags enum over options whose labels can begin a line, whatever their bits are. -/
theorem allTidy_flagsEnum {α : Type} {name : String} {options : List α} {label : α → String}
    {bit : α → Nat} (hn : Clean name) (hclose : Closes name)
    (hlabel : ∀ o, Clean (label o) ∧ Opens (label o)) :
    Code.AllTidy (Support.flagsEnum name (options.map fun o => (label o, bit o))) := by
  simp only [Support.flagsEnum, Code.allTidy_line_cons, Code.allTidy_block_cons, Code.allTidy_nil,
    and_true]
  refine ⟨?_, ?_, ?_, ?_⟩
  · apply_rules [Tidy.of_ends, Clean.lit, Opens.lit, Closes.lit, rfl]
  · apply_rules [Tidy.of_ends, Clean.append, Clean.lit, Opens.append, Opens.lit, Closes.append, rfl]
  · apply_rules [Tidy.of_ends, Clean.lit, Opens.lit, Closes.lit, rfl]
  · apply Code.allTidy_map_line
    intro v hv
    obtain ⟨o, -, rfl⟩ := List.mem_map.mp hv
    obtain ⟨hclean, hopen⟩ := hlabel o
    apply_rules [Tidy.of_ends, Clean.append, Clean.hexByte, Clean.lit, Opens.append, Closes.append,
      Closes.lit, rfl]

theorem valueOption_ends (o : ValueOption) : Clean o.name ∧ Opens o.name := by
  cases o <;> exact ⟨.lit rfl, .lit rfl⟩

theorem multiOption_ends (o : MultiOption) : Clean o.name ∧ Opens o.name := by
  cases o <;> exact ⟨.lit rfl, .lit rfl⟩

theorem allTidy_exceptionCode : Code.AllTidy [Support.exceptionCode] := by
  simp only [Support.exceptionCode, Code.allTidy_line_cons, Code.allTidy_block_cons,
    Code.allTidy_nil, and_true]
  refine ⟨?_, ?_, ?_, ?_⟩
  all_goals
    apply_rules [Tidy.of_ends, Clean.append, Clean.lit, Clean.braced, Opens.append, Opens.lit,
      Closes.append, Closes.braced, Closes.lit, rfl]

theorem allTidy_singleAttributeCode (typeName parameters source : String) (ht : Clean typeName)
    (hp : Clean parameters) (hs : Clean source) :
    Code.AllTidy [Support.singleAttributeCode typeName parameters source] := by
  simp only [Support.singleAttributeCode, Code.allTidy_line_cons, Code.allTidy_block_cons,
    Code.allTidy_nil, and_true]
  refine ⟨?_, ?_, ⟨?_, ?_⟩, ?_, ?_⟩
  all_goals
    apply_rules [Tidy.of_ends, Clean.append, Clean.lit, Clean.braced, Opens.append, Opens.lit,
      Closes.append, Closes.braced, Closes.lit, rfl]

theorem allTidy_multiAttributeCode : Code.AllTidy [Support.multiAttributeCode] := by
  simp only [Support.multiAttributeCode, Code.allTidy_line_cons, Code.allTidy_block_cons,
    Code.allTidy_nil, and_true]
  refine ⟨?_, ?_, ?_, ?_⟩
  all_goals
    apply_rules [Tidy.of_ends, Clean.append, Clean.lit, Clean.braced, Opens.append, Opens.lit,
      Closes.append, Closes.braced, Closes.lit, rfl]

/-- **The support unit is tidy** in every namespace that settings allow. -/
theorem allTidy_supportUnit {s : Settings} (htool : Clean s.toolName)
    (hversion : Clean s.toolVersion) (hpath : Identifier.isNamespacePath s.runtimeNamespace = true) :
    Code.AllTidy (Support.unit s) := by
  obtain ⟨hclean, hclose⟩ := namespacePath_ends hpath
  have hmade := tidy_generatedCode htool hversion
  have hplain := allTidy_singleAttributeCode "ValueObjectAttribute"
    "System.Type dataType" "dataType" (.lit rfl) (.lit rfl) (.lit rfl)
  have hgeneric := allTidy_singleAttributeCode "ValueObjectAttribute<T>" "" "typeof(T)"
    (.lit rfl) (.lit rfl) (.lit rfl)
  have hflags : Code.AllTidy (Support.flagsEnum "ValueObjectOptions"
      (ValueOption.all.map fun o => (o.name, o.bit))) :=
    allTidy_flagsEnum (.lit rfl) (.lit rfl) valueOption_ends
  have hmultiFlags : Code.AllTidy (Support.flagsEnum "MultiValueObjectOptions"
      (MultiOption.all.map fun o => (o.name, o.bit))) :=
    allTidy_flagsEnum (.lit rfl) (.lit rfl) multiOption_ends
  have husage : Tidy Support.attributeUsage := .of_ends (.lit rfl) (.lit rfl) (.lit rfl)
  -- what is left are the lines of the unit itself
  simp only [Support.unit, Code.allTidy_append, Code.allTidy_line_cons, Code.allTidy_block_cons,
    Code.allTidy_nil, Code.allTidy_cons_of allTidy_exceptionCode, Code.allTidy_cons_of hplain,
    Code.allTidy_cons_of hgeneric, Code.allTidy_cons_of allTidy_multiAttributeCode, hmade, husage,
    hflags, hmultiFlags, Tidy.empty, true_and, and_true]
  refine ⟨?_, ?_, ?_, ?_, ?_⟩
  all_goals
    apply_rules [Tidy.of_ends, Clean.append, Clean.lit, Opens.append, Opens.lit, Closes.append,
      Closes.lit, rfl]

end ValueObject.Source
