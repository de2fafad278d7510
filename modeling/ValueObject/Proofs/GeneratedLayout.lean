/-
# ValueObject.Proofs.GeneratedLayout -- generated files are well-formed

A declaration is **writable** when the texts of it that reach the output cannot disturb the layout:
none holds a brace or a line break, a property has a name that does not start with a space, and the
name of the type does not end in a blank. Nothing else is asked. Whatever options, members and
interfaces a writable declaration has, the file that is generated for it is well-formed, and it
stands between the three lines that open every file and the two that end it.
-/

import ValueObject.Proofs.Acceptance
import ValueObject.Proofs.Source.MultiValueTidy
import ValueObject.Proofs.Source.SingleValueTidy

namespace ValueObject

open Source

/-! ## Writable declarations -/

/-- **A declaration whose texts keep to their line.** -/
structure Declaration.Writable (d : Declaration) : Prop where
  name : Plain d.name
  nameCloses : Closes d.name
  namespaceName : ∀ n ∈ d.namespaceName, Plain (Text.trim n)
  datatype : ∀ t o, d.usage = .single (some t) o → Plain (Text.trim t)
  fields : ∀ o, d.usage = .multi o → ∀ f ∈ Field.collect d, PlainField f

theorem Declaration.Writable.namespace_ends {d : Declaration} (h : d.Writable) {n : String}
    (hn : Text.trimmed? d.namespaceName = some n) : Clean n ∧ Closes n := by
  obtain ⟨hpresent, raw, hraw, rfl⟩ := Text.trimmed?_eq_some_iff.mp hn
  refine ⟨(h.namespaceName raw hraw).clean, ?_⟩
  have hne : Text.trimChars raw.toList ≠ [] := by
    rw [Ne, Text.trimChars_eq_nil_iff]
    intro hblank
    apply hpresent
    intro t ht
    obtain rfl : raw = t := Option.some.inj (hraw.symm.trans ht)
    exact hblank
  -- something is left of the namespace, and its last character was not trimmed
  have hlast := List.getLast?_eq_some_getLast hne
  refine ⟨_, by rw [Text.toList_trim]; exact hlast, ?_⟩
  exact Text.isBlank_getLast?_trimChars hlast

/-! ## The code of an accepted declaration -/

/-- The predicate has the one name that a predicate can have, and that name is plain. -/
theorem plain_predicate (d : Declaration) :
    ∀ p ∈ (Descriptor.ofDeclaration d).predicate, Plain p := by
  intro p hp
  rw [Descriptor.eq_predicateName hp]
  exact .lit rfl

/-- Sound settings name a namespace. -/
theorem Generator.isNamespacePath_runtimeNamespace (g : Generator) :
    Identifier.isNamespacePath g.settings.runtimeNamespace = true := by
  have hsound := g.sound
  unfold Settings.check at hsound
  split at hsound
  · cases hsound
  · next hpath => simpa using hpath

theorem plain_runtimeNamespace (g : Generator) : Plain g.settings.runtimeNamespace :=
  ⟨fun c hc => ((Text.namespacePath_chars g.isNamespacePath_runtimeNamespace).2 c hc).2⟩

/-- **The code of an accepted declaration is tidy.** -/
theorem Accepted.allTidy_code {g : Generator} {d : Declaration} {a : Accepted}
    (htool : Plain g.settings.toolName) (hversion : Plain g.settings.toolVersion)
    (hd : d.Writable) (ha : Review.Accepts (.ofDeclaration d) a) :
    Code.AllTidy (a.code g.settings) := by
  have hruntime := plain_runtimeNamespace g
  have hpredicate := plain_predicate d
  cases ha with
  | @single namespaceName datatype options capabilities hnamespace hshape hresolve =>
    obtain ⟨hspace, hspaceCloses⟩ := hd.namespace_ends hnamespace
    have hdatatype : Plain datatype := by
      simp only [Descriptor.ofDeclaration, Descriptor.shapeOf] at hshape
      split at hshape
      · next raw o husage =>
        obtain ⟨-, t, rfl, rfl⟩ := Text.trimmed?_eq_some_iff.mp (Shape.single.inj hshape).1
        exact hd.datatype t o husage
      · cases hshape
    apply allTidy_unitOf htool.clean hversion.clean hspace hspaceCloses hd.name.clean hd.nameCloses
      hdatatype.clean (.append (.lit rfl) (.braced (.lit rfl)))
    exact SingleValue.allTidy_members ⟨hd.name, hdatatype, hpredicate, hruntime⟩
  | @multi namespaceName fields options hnamespace hshape hviolations hfields =>
    obtain ⟨hspace, hspaceCloses⟩ := hd.namespace_ends hnamespace
    have hplain : ∀ f ∈ fields, PlainField f := by
      simp only [Descriptor.ofDeclaration, Descriptor.shapeOf] at hshape
      split at hshape
      · cases hshape
      · next o husage =>
        rw [← (Shape.multi.inj hshape).1]
        exact hd.fields o husage
    apply allTidy_unitOf htool.clean hversion.clean hspace hspaceCloses hd.name.clean hd.nameCloses
      (.lit rfl)
    · exact MultiValue.clean_display ⟨hd.name, hplain, hpredicate, hruntime⟩
    · exact MultiValue.allTidy_members ⟨hd.name, hplain, hpredicate, hruntime⟩

/-! ## What stands around the namespace -/

/-- The three lines that open every generated file. -/
def openingText : String :=
  "// <auto-generated/>\n#nullable enable\n" ++
  "#pragma warning disable CS8604 // Possible null reference argument for parameter\n"

/-- The two lines that end every generated file. -/
def closingText : String :=
  "#pragma warning restore CS8604 // Possible null reference argument for parameter\n" ++
  "#nullable restore\n"

theorem unitText_openingLines : Code.unitText openingLines = openingText := by
  simp only [openingLines, Code.unitText_line_cons, Code.unitText_nil]
  rfl

theorem unitText_closingLines : Code.unitText closingLines = closingText := by
  simp only [closingLines, Code.unitText_line_cons, Code.unitText_nil]
  rfl

/-- A file holds the opening lines, the namespace and the closing lines, and the braces are balanced
where the closing lines begin. -/
theorem unitText_unitOf {a : Accepted} {s : Settings} {datatype display : String}
    {members : List Code} (h : Code.AllTidy (unitOf a s datatype display members)) :
    ∃ body, Code.unitText (unitOf a s datatype display members) =
        openingText ++ body ++ closingText ∧
      Balanced (openingText ++ body) := by
  obtain ⟨block, hblock⟩ : ∃ block, unitOf a s datatype display members =
      openingLines ++ block ++ closingLines := ⟨_, rfl⟩
  rw [hblock, Code.allTidy_append] at h
  rw [hblock]
  refine ⟨Code.unitText block, ?_, ?_⟩
  · rw [Code.unitText_append, Code.unitText_append, unitText_openingLines, unitText_closingLines]
  · rw [← unitText_openingLines, ← Code.unitText_append]
    exact (Code.wellFormed_unitText h.1).balanced

/-! ## Every file -/

/-- **Generated files are well-formed.** For settings whose tool has a plain name and version, the
file of every writable declaration that is accepted is well-formed, opens with the three lines and
ends with the two, with the braces balanced in between; and the support unit is well-formed. -/
theorem generated_wellFormed (g : Generator) (htool : Plain g.settings.toolName)
    (hversion : Plain g.settings.toolVersion) :
    (∀ d u, d.Writable → g.generate d = .accepted u →
      WellFormed u.source ∧
        ∃ body, u.source = openingText ++ body ++ closingText ∧ Balanced (openingText ++ body)) ∧
    WellFormed g.supportUnit.source := by
  constructor
  · intro d u hd hu
    obtain ⟨a, ha, rfl⟩ := Generator.generate_eq_accepted_iff.mp hu
    have htidy := Accepted.allTidy_code htool hversion hd ha
    refine ⟨Code.wellFormed_unitText htidy, ?_⟩
    show ∃ body, Code.unitText (a.code g.settings) = openingText ++ body ++ closingText ∧
      Balanced (openingText ++ body)
    -- either model makes a unit around members, and only the members differ
    unfold Accepted.code at htidy ⊢
    split at htidy
    all_goals exact unitText_unitOf htidy
  · apply Code.wellFormed_unitText
    exact allTidy_supportUnit htool.clean hversion.clean g.isNamespacePath_runtimeNamespace

/-- A type over two values with a predicate of its own. -/
def moneyDeclaration : Declaration where
  name := "Money"
  namespaceName := some "Shop"
  kind := .plain
  usage := .multi [.deconstruct]
  members := [
    .property { name := "Amount", typeName := "decimal", isValueType := true },
    .property { name := "Unit", typeName := "string" },
    .method
      { name := "IsValid", isStatic := true, returnType := "bool"
        parameters := [⟨"amount", "decimal"⟩, ⟨"unit", "string"⟩] }]

theorem moneyDeclaration_writable : moneyDeclaration.Writable := by
  refine ⟨.lit rfl, .lit rfl, ?_, ?_, ?_⟩
  · intro n hn
    obtain rfl : "Shop" = n := Option.some.inj hn
    exact .lit rfl
  · intro t o husage
    cases husage
  · intro o _ f hf
    have hfields : Field.collect moneyDeclaration =
        [.ofProperty { name := "Amount", typeName := "decimal", isValueType := true },
          .ofProperty { name := "Unit", typeName := "string" }] := by decide +kernel
    rw [hfields, List.mem_cons, List.mem_singleton] at hf
    rcases hf with rfl | rfl
    · exact ⟨.lit rfl, Plain.trim (.lit rfl), .lit rfl⟩
    · exact ⟨.lit rfl, Plain.trim (.lit rfl), .lit rfl⟩

theorem accepted_money : ∃ u, Generator.standard.generate moneyDeclaration = .accepted u :=
  Outcome.isAccepted_iff.mp (by decide +kernel)

theorem generated_wellFormed_money :
    ∃ u, Generator.standard.generate moneyDeclaration = .accepted u ∧ WellFormed u.source ∧
      WellFormed Generator.standard.supportUnit.source := by
  have haccepted : (Generator.standard.generate moneyDeclaration).isAccepted = true := by
    decide +kernel
  obtain ⟨u, hu⟩ := Outcome.isAccepted_iff.mp haccepted
  obtain ⟨hunit, hsupport⟩ := generated_wellFormed .standard (.lit rfl) (.lit rfl)
  exact ⟨u, hu, (hunit moneyDeclaration u moneyDeclaration_writable hu).1, hsupport⟩

end ValueObject
