/-
# ValueObject.Proofs.AttributeText -- the attribute that names the tool

The name and the version of the tool are put between the quotes of an attribute as they are, and the
attribute stands in every unit. The check of the settings keeps quotes out of them, but not the other
characters that mean something in a literal: the attribute is read as it is meant exactly if neither holds
a backslash or the end of a line. Nor does it keep keywords out of the namespace, which they could not be
a part of without a mark.
-/

import ValueObject.Proofs.SettingsFaults
import ValueObject.Proofs.Source.StringLiteral
import ValueObject.Proofs.Source.UnitText

namespace ValueObject

open Source Source.Code Source.Writer Source.Literal Identifier

/-! ## What the check lets through -/

theorem Identifier.segment_of_isKeyword {name : String} (h : isKeyword name = true) :
    Segment name.toList := by
  have hkeywords : ∀ k ∈ keywords, isSegment k.toList = true := by decide +kernel
  exact isSegment_iff.mp (hkeywords name (List.contains_iff_mem.mp h))

theorem Identifier.namespacePath_intercalate {parts : List String} (hne : parts ≠ [])
    (h : ∀ part ∈ parts, Segment part.toList) : NamespacePath (".".intercalate parts).toList := by
  rw [String.toList_intercalate]
  exact .of_segments (by simpa using hne) (List.forall_mem_map.mpr h)

/-! ## How the attribute is read -/

/-- **A literal in a line**: between quotes stands a value, and a reader that starts behind the first
quote stops at the second, with that value. -/
structure Source.Literal.StandsFor (before value after line : String) : Prop where
  place : line = before ++ "\"" ++ value ++ "\"" ++ after
  meaning : readFrom .plain (value ++ "\"" ++ after).toList = some (units value.toList, after.toList)

/-- What stands between quotes is read as itself exactly if it is verbatim. -/
theorem Source.Literal.standsFor_iff {before value after line : String}
    (hplace : line = before ++ "\"" ++ value ++ "\"" ++ after) (hquote : '"' ∉ value.toList) :
    StandsFor before value after line ↔ Verbatim value.toList := by
  have hlist : (value ++ "\"" ++ after).toList = value.toList ++ '"' :: after.toList := by
    rw [String.toList_append, String.toList_append, List.append_assoc]
    rfl
  rw [← readFrom_plain_iff hquote after.toList, ← hlist]
  exact ⟨StandsFor.meaning, fun hmeaning => ⟨hplace, hmeaning⟩⟩

/-- **The attribute is read as it is meant**: it is one line, and its two literals stand for the name and
the version of the tool. -/
structure Settings.AttributeReadsBack (s : Settings) : Prop where
  oneLine : OnOneLine (generatedCode s).toList
  name : StandsFor attributeLead s.toolName (", \"" ++ s.toolVersion ++ "\")]") (generatedCode s)
  version : StandsFor (attributeLead ++ "\"" ++ s.toolName ++ "\", ") s.toolVersion ")]"
    (generatedCode s)

/-- **Settings that generated code can express.** -/
structure Settings.Expressible (s : Settings) : Prop where
  name : Verbatim s.toolName.toList
  version : Verbatim s.toolVersion.toList
  namespaceParts : ∀ part ∈ segments s.runtimeNamespace, isKeyword part = false

theorem onOneLine_generatedCode {s : Settings} (hname : Verbatim s.toolName.toList)
    (hversion : Verbatim s.toolVersion.toList) : OnOneLine (generatedCode s).toList := by
  have hlead : OnOneLine attributeLead.toList := by decide +kernel
  have hquote : OnOneLine "\"".toList := by decide +kernel
  have hcomma : OnOneLine ", ".toList := by decide +kernel
  have hend : OnOneLine ")]".toList := by decide +kernel
  simp only [generatedCode_eq, String.toList_append, onOneLine_append]
  exact ⟨⟨⟨⟨⟨⟨⟨⟨hlead, hquote⟩, fun c hc => (hname c hc).2⟩, hquote⟩, hcomma⟩, hquote⟩,
    fun c hc => (hversion c hc).2⟩, hquote⟩, hend⟩

/-- The attribute of sound settings is read as it is meant exactly if both literals are verbatim. -/
theorem Settings.attributeReadsBack_iff {s : Settings} (hsound : s.check = .ok ()) :
    s.AttributeReadsBack ↔ Verbatim s.toolName.toList ∧ Verbatim s.toolVersion.toList := by
  obtain ⟨-, -, hname, hversion⟩ := check_eq_ok_iff.mp hsound
  have hfirst : generatedCode s =
      attributeLead ++ "\"" ++ s.toolName ++ "\"" ++ (", \"" ++ s.toolVersion ++ "\")]") := by
    simp only [generatedCode_eq, ← String.toList_inj, String.toList_append, List.append_assoc]
    rfl
  have hsecond : generatedCode s =
      attributeLead ++ "\"" ++ s.toolName ++ "\", " ++ "\"" ++ s.toolVersion ++ "\"" ++ ")]" := by
    simp only [generatedCode_eq, ← String.toList_inj, String.toList_append, List.append_assoc]
    rfl
  constructor
  · intro h
    exact ⟨(standsFor_iff hfirst hname).mp h.name, (standsFor_iff hsecond hversion).mp h.version⟩
  · rintro ⟨hreadName, hreadVersion⟩
    exact ⟨onOneLine_generatedCode hreadName hreadVersion,
      (standsFor_iff hfirst hname).mpr hreadName, (standsFor_iff hsecond hversion).mpr hreadVersion⟩

/-! ## Where it stands -/

/-- The support unit begins with the attribute, too. -/
theorem Generator.exists_supportUnit_eq (g : Generator) :
    ∃ body, g.supportUnit.source = "// <auto-generated/>\n#nullable enable\nnamespace " ++
      g.settings.runtimeNamespace ++ "\n\x7b\n" ++ lineAt 1 (generatedCode g.settings) ++ body := by
  obtain ⟨rest, hunit⟩ : ∃ rest, Support.unit g.settings =
      [.line "// <auto-generated/>", .line "#nullable enable",
        .block ("namespace " ++ g.settings.runtimeNamespace)
          (.line (generatedCode g.settings) :: rest),
        .line "#nullable restore"] := ⟨_, rfl⟩
  have hopening : "// <auto-generated/>" ++ "\n" ++ ("#nullable enable" ++ "\n") ++ "namespace " =
      "// <auto-generated/>\n#nullable enable\nnamespace " := by decide +kernel
  have hbrace : "\n" ++ ("\x7b" ++ "\n") = "\n\x7b\n" := by decide +kernel
  refine ⟨textAt 1 rest ++ lineAt 0 "\x7d" ++ textAt 0 [.line "#nullable restore"], ?_⟩
  show unitText (Support.unit g.settings) = _
  rw [hunit, unitText_eq_textAt, textAt_cons, textAt_line, textAt_cons 0 (.line "#nullable enable"),
    textAt_line, textAt_cons 0 (.block _ _), textAt_block, textAt_cons 1 (.line _) rest, textAt_line,
    lineAt_zero, lineAt_zero, lineAt_zero, lineAt_zero, ← hopening, ← hbrace]
  simp only [String.append_assoc]

/-- **How the settings are read in generated code.** The body of every namespace begins with the
attribute. It is read as it is meant, and no part of the namespace of the support types is a keyword,
exactly if the settings are expressible. The check does not ask for that: it accepts any name, version
and parts without quotes, keywords among them. -/
theorem attribute_reads_back_iff (g : Generator) :
    (∀ d u, g.generate d = .accepted u →
      ∃ n body, u.source = namespaceText n (lineAt 1 (generatedCode g.settings) ++ body)) ∧
    (∃ body, g.supportUnit.source = "// <auto-generated/>\n#nullable enable\nnamespace " ++
      g.settings.runtimeNamespace ++ "\n\x7b\n" ++ lineAt 1 (generatedCode g.settings) ++ body) ∧
    (g.settings.AttributeReadsBack ∧
        (∀ part ∈ segments g.settings.runtimeNamespace, isKeyword part = false) ↔
      g.settings.Expressible) ∧
    ∀ name version parts, Text.isBlankText name = false → '"' ∉ name.toList →
      '"' ∉ version.toList → parts ≠ [] →
      (∀ part ∈ parts, Segment part.toList ∨ isKeyword part = true) →
      ({ g.settings with
          toolName := name
          toolVersion := version
          runtimeNamespace := ".".intercalate parts } : Settings).check = .ok () := by
  refine ⟨?_, g.exists_supportUnit_eq, ?_, ?_⟩
  · intro d u hu
    obtain ⟨n, between, rest, -, hsource⟩ := Generator.source_eq_namespaceText hu
    rw [String.append_assoc, String.append_assoc] at hsource
    exact ⟨n, _, hsource⟩
  · rw [Settings.attributeReadsBack_iff g.sound]
    constructor
    · rintro ⟨⟨hname, hversion⟩, hparts⟩
      exact ⟨hname, hversion, hparts⟩
    · rintro ⟨hname, hversion, hparts⟩
      exact ⟨⟨hname, hversion⟩, hparts⟩
  · intro name version parts hblank hname hversion hne hparts
    refine Settings.check_eq_ok_iff.mpr ⟨?_, hblank, hname, hversion⟩
    exact namespacePath_intercalate hne fun part hpart =>
      (hparts part hpart).elim id segment_of_isKeyword

theorem attribute_of_standard_reads_back :
    ∃ u n body, Generator.standard.generate moneyDeclaration = .accepted u ∧
      u.source =
        namespaceText n (lineAt 1 (generatedCode Generator.standard.settings) ++ body) ∧
      Generator.standard.settings.AttributeReadsBack := by
  obtain ⟨u, hu⟩ := accepted_money
  obtain ⟨hunit, -, hreads, -⟩ := attribute_reads_back_iff .standard
  obtain ⟨n, body, hsource⟩ := hunit moneyDeclaration u hu
  refine ⟨u, n, body, hu, hsource, (hreads.mpr ⟨?_, ?_, ?_⟩).1⟩
  all_goals decide +kernel

/-- A name that ends with a backslash, a version on two lines, and a namespace with a keyword in it. -/
def acmeSettings : Settings where
  runtimeNamespace := "Acme.class"
  toolName := "acme\\"
  toolVersion := "1\n2"

/-- **Settings that generated code cannot express.** The backslash makes the quote behind the name a part
of it, so that the literal ends where the version was to begin. -/
theorem acmeSettings_not_read_back :
    acmeSettings.check = .ok () ∧
      readFrom .plain "acme\\\", \"1\n2\")]".toList =
        some (units "acme\", ".toList, "1\n2\")]".toList) ∧
      ¬ OnOneLine (generatedCode acmeSettings).toList ∧
      ¬ acmeSettings.AttributeReadsBack ∧
      ∃ part ∈ segments acmeSettings.runtimeNamespace, isKeyword part = true := by
  have hline : ¬ OnOneLine (generatedCode acmeSettings).toList := by decide +kernel
  refine ⟨by decide +kernel, by decide +kernel, hline, fun h => hline h.oneLine, ?_⟩
  exact ⟨"class", by decide +kernel, by decide +kernel⟩

end ValueObject
