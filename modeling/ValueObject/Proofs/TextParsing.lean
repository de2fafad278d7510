/-
# ValueObject.Proofs.TextParsing -- text is not parsed into text

Parsing a text into a text is meaningless, so a declaration over the type of texts that asks for it is
rejected. The review finds the type of texts by its canonical spelling, which forgets blanks, `global::`
and the keyword, but keeps a mark behind the name: `string?` names the same type and is not found.

`text_parsing_rejected_iff` says what follows for every declaration over one value: it is rejected for
parsing exactly if parsing is asked for and the datatype is spelled without that mark, a unit holds the
code that parses exactly if parsing is asked for, and with the mark the declaration is accepted all the
same.
-/

import ValueObject.Proofs.ImplementedCapabilities
import ValueObject.Proofs.SingleVerdict
import ValueObject.Proofs.Source.UnitText

namespace ValueObject

open Text Source
open ValueObject.TypeName (SpellsText)

/-! ## Lines of a unit -/

namespace Source.Code

open Writer

/-- A line among others is part of their text. -/
theorem exists_textAt_of_mem {n : Nat} {cs : List Code} {text : String} (h : .line text ∈ cs) :
    ∃ before after, textAt n cs = before ++ text ++ after := by
  obtain ⟨front, back, rfl⟩ := List.append_of_mem h
  obtain ⟨before, after, hline⟩ := exists_lineAt_eq n text
  refine ⟨textAt n front ++ before, after ++ textAt n back, ?_⟩
  rw [textAt_append, textAt_cons, textAt_line, hline]
  simp only [String.append_assoc]

/-- The members of the type are part of the unit. -/
theorem exists_unitText_of_members (a : Accepted) (s : Settings) (datatype display : String)
    (members : List Code) :
    ∃ before after, unitText (unitOf a s datatype display members) =
      before ++ textAt 2 members ++ after := by
  refine ⟨openingText ++ "namespace " ++ a.namespaceName ++ "\n\x7b\n" ++
      (lineAt 1 (generatedCode s) ++
        lineAt 1 ("[System.Diagnostics.DebuggerDisplay(\"" ++ display ++ "\")]") ++
        lineAt 1 (typeHeader a datatype) ++ lineAt 1 "\x7b"),
    lineAt 1 "\x7d" ++ ("\x7d\n" ++ closingText), ?_⟩
  rw [unitText_unitOf_eq, namespaceText, typeText]
  simp only [String.append_assoc]

end Source.Code

/-! ## Units that parse -/

/-- **The unit parses values of the datatype.** -/
def GeneratedUnit.Parses (u : GeneratedUnit) (datatype : String) : Prop :=
  ∃ before after, u.source = before ++ ("new(" ++ datatype ++ ".Parse(s, provider))") ++ after

/-- A type with the capability has a line that parses. -/
theorem Source.SingleValue.exists_parse_line (v : SingleValue)
    (h : .parsable ∈ v.capabilities.toList) :
    ∃ before after, .line (before ++ ("new(" ++ v.datatype ++ ".Parse(s, provider))") ++ after) ∈
      v.members := by
  refine ⟨"public static " ++ v.name ++ " Parse(string? s, System.IFormatProvider? provider) => ",
    ";", ?_⟩
  rw [members_eq]
  refine List.mem_append_right _ (List.mem_flatMap.mpr ⟨.parsable, h, ?_⟩)
  have hfirst : ∃ rest, v.capabilityCode .parsable =
      .line ("public static " ++ v.name ++ " Parse(" ++ "string?" ++
        " s, System.IFormatProvider? provider) => new(" ++ v.datatype ++ ".Parse(s, provider));") ::
        rest := ⟨_, rfl⟩
  obtain ⟨rest, hcode⟩ := hfirst
  rw [hcode, List.mem_cons]
  refine .inl (congrArg Code.line ?_)
  simp only [← String.toList_inj, String.toList_append, List.append_assoc]
  rfl

namespace Declaration

variable {d : Declaration} {t : String} {options : List ValueOption}

/-- Both kinds of parsing are called for when parsing is asked for. -/
theorem callsFor_iff_asksParsing {c : Capability} (hc : c = .parsable ∨ c = .spanParsable) :
    d.CallsFor options c ↔ d.AsksParsing options := by
  have hmarked : d.Marked .parsable ∨ d.Marked .spanParsable ↔
      ∃ i ∈ d.interfaces, CapabilitySet.MarksParsable d.name i := by
    simp only [Marked, ← exists_or, ← and_or_left, ← CapabilitySet.marksParsable_iff]
  rcases hc with rfl | rfl
  · rw [CallsFor, AsksParsing, hmarked]
  · rw [CallsFor, AsksParsing, hmarked]

/-- **What the unit of a declaration over one value parses.** It has both kinds of parsing or neither, as
is asked for, and then it parses values of the datatype that is declared. -/
def ParsesAsAsked (d : Declaration) (s : Settings) (t : String) (options : List ValueOption)
    (u : GeneratedUnit) : Prop :=
  ∃ n capabilities,
    u.source = Code.unitText (unitOf (d.acceptedSingle n (trim t) options capabilities) s (trim t)
      SingleValue.display (d.singleValue s (trim t) options capabilities).members) ∧
    (∀ c, c = .parsable ∨ c = .spanParsable →
      (c ∈ capabilities.toList ↔ d.AsksParsing options)) ∧
    (d.AsksParsing options → u.Parses (trim t))

theorem parsesAsAsked {g : Generator} {u : GeneratedUnit}
    (husage : d.usage = .single (some t) options) (hu : g.generate d = .accepted u) :
    d.ParsesAsAsked g.settings t options u := by
  obtain ⟨n, datatype, capabilities, -, hdatatype, hresolve, hsource⟩ :=
    Generator.source_of_single husage hu
  obtain ⟨-, s, hs, rfl⟩ := trimmed?_eq_some_iff.mp hdatatype
  obtain rfl := Option.some.inj hs
  have hcalled : ∀ c, c = .parsable ∨ c = .spanParsable →
      (c ∈ capabilities.toList ↔ d.AsksParsing options) := by
    intro c hc
    rw [mem_resolved_iff hresolve, callsFor_iff_asksParsing hc]
  refine ⟨n, capabilities, hsource, hcalled, ?_⟩
  intro hasks
  obtain ⟨before, after, hline⟩ := (d.singleValue g.settings (trim t) options capabilities)
    |>.exists_parse_line ((hcalled .parsable (.inl rfl)).mpr hasks)
  obtain ⟨before', after', hmembers⟩ := Code.exists_textAt_of_mem (n := 2) hline
  obtain ⟨before'', after'', hunit⟩ := Code.exists_unitText_of_members
    (d.acceptedSingle n (trim t) options capabilities) g.settings (trim t) SingleValue.display
    (d.singleValue g.settings (trim t) options capabilities).members
  refine ⟨before'' ++ (before' ++ before), after ++ (after' ++ after''), ?_⟩
  rw [hsource, hunit, hmembers]
  simp only [String.append_assoc, singleValue_datatype]

end Declaration

/-- **When parsing is rejected.** In a namespace, a declaration over one value is rejected for the parsing
of text exactly if parsing is asked for and the datatype is a spelling of the type of texts without a
mark. What is accepted parses as is asked for, never into such a datatype; and a spelling with the mark is
accepted. -/
theorem text_parsing_rejected_iff (g : Generator) (d : Declaration) (t : String)
    (options : List ValueOption) (hnamespace : ¬ Missing d.namespaceName)
    (husage : d.usage = .single (some t) options) :
    (g.generate d = .rejected [d.report .stringNotParsable] ↔
      SpellsText "" t ∧ d.AsksParsing options) ∧
    (∀ u, g.generate d = .accepted u →
      d.ParsesAsAsked g.settings t options u ∧ (d.AsksParsing options → ¬ SpellsText "" t)) ∧
    (SpellsText "?" t → ∃ u, g.generate d = .accepted u) := by
  have hrejected : g.generate d = .rejected [d.report .stringNotParsable] ↔
      SpellsText "" t ∧ d.AsksParsing options := by
    rw [generate_eq_stringNotParsable_iff husage, Declaration.conflicts_some_iff,
      TypeName.canonical_eq_text_iff]
    constructor
    · exact fun h => h.2.2
    · exact fun h => ⟨hnamespace, TypeName.not_missing_of_spellsText (.inl rfl) h.1, h⟩
  refine ⟨hrejected, ?_, ?_⟩
  · intro u hu
    refine ⟨Declaration.parsesAsAsked husage hu, ?_⟩
    intro hasks hspells
    rw [hrejected.mpr ⟨hspells, hasks⟩] at hu
    cases hu
  · intro hnullable
    have hconflict : ¬ d.Conflicts (some t) options := fun h =>
      TypeName.canonical_ne_text_of_nullable hnullable (Declaration.conflicts_some_iff.mp h).1
    obtain ⟨a, ha⟩ := ofDescriptor_of_not_conflicts husage hnamespace
      (TypeName.not_missing_of_spellsText (.inr rfl) hnullable) hconflict
    exact generate_of_accepted ha

/-- A note over a datatype, with these options and interfaces. -/
def noteDeclaration (datatype : String) (options : List ValueOption) (interfaces : List String) :
    Declaration where
  name := "Note"
  namespaceName := some "Shop"
  usage := .single (some datatype) options
  interfaces := interfaces

theorem text_parsing_rejected_note :
    let d := noteDeclaration " global::System.String\t" [] ["System.ISpanParsable< Shop.Note >"]
    SpellsText "" " global::System.String\t" ∧ d.AsksParsing [] ∧
      Generator.standard.generate d = .rejected [d.report .stringNotParsable] := by
  intro d
  have hspells : SpellsText "" " global::System.String\t" :=
    .inr ⟨" ", "global::", "\t", by decide, by decide, .inr rfl, by decide +kernel⟩
  have hasks : d.AsksParsing [] := by
    refine .inr ⟨"System.ISpanParsable< Shop.Note >", by decide, "ISpanParsable", "Shop.Note", ?_⟩
    decide +kernel
  have hnamespace : ¬ Missing d.namespaceName := by
    rw [show d.namespaceName = some "Shop" from rfl, missing_some_iff]
    decide +kernel
  exact ⟨hspells, hasks, (text_parsing_rejected_iff .standard d _ [] hnamespace rfl).1.mpr
    ⟨hspells, hasks⟩⟩

/-- **Text that is parsed into text.** The note is a text that may be null, and it is accepted with the
option that asks for parsing. -/
theorem nullable_note_parsed :
    let d := noteDeclaration "string?" [.parsable] []
    SpellsText "?" "string?" ∧ d.AsksParsing [.parsable] ∧
      ∃ u, Generator.standard.generate d = .accepted u ∧ u.Parses "string?" := by
  intro d
  have hspells : SpellsText "?" "string?" :=
    .inl ⟨"", "", "", by decide, by decide, .inl rfl, by decide⟩
  have hasks : d.AsksParsing [.parsable] := .inl (by decide)
  have haccepted : (Generator.standard.generate d).isAccepted = true := by decide +kernel
  obtain ⟨u, hu⟩ := Outcome.isAccepted_iff.mp haccepted
  obtain ⟨-, -, -, -, hparses⟩ := Declaration.parsesAsAsked (t := "string?") rfl hu
  have htrim : trim "string?" = "string?" := by decide +kernel
  exact ⟨hspells, hasks, u, hu, htrim ▸ hparses hasks⟩

end ValueObject
