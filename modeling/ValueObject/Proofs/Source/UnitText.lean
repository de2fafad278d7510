/-
# ValueObject.Proofs.Source.UnitText -- what the text of a unit is made of

The text of code at a depth is that of its lines, each in its margin, and a block is its header, a brace,
its body one level deeper and the other brace (`textAt_block`). So the text of a unit opens with the
three lines that every file opens with and the line of its namespace, and ends with the brace that closes
it and the two lines that end every file (`unitText_unitOf_eq`); none of this depends on what the texts in
it are.

An accepted declaration is written in that way around the attribute that names the tool, the header of
its type and members of which the default constructor is the first
(`Generator.source_eq_namespaceText`).
-/

import ValueObject.Proofs.GeneratedLayout

namespace ValueObject

namespace Source.Code

open Writer

/-- **The text of code that is written at a depth.** -/
def textAt (n : Nat) (cs : List Code) : String :=
  addedBy n (stepsAll cs)

theorem unitText_eq_textAt (cs : List Code) : unitText cs = textAt 0 cs :=
  unitText_eq_addedBy cs

theorem textAt_append (n : Nat) (a b : List Code) : textAt n (a ++ b) = textAt n a ++ textAt n b := by
  rw [textAt, stepsAll_append, addedBy_append, openAfter_stepsAll]
  rfl

theorem textAt_cons (n : Nat) (c : Code) (rest : List Code) :
    textAt n (c :: rest) = textAt n [c] ++ textAt n rest :=
  textAt_append n [c] rest

theorem textAt_line (n : Nat) (text : String) : textAt n [line text] = lineAt n text := by
  show lineAt n text ++ "" = lineAt n text
  rw [String.append_empty]

/-- A block is its header and, between braces, its body one level deeper. -/
theorem textAt_block (n : Nat) (header : String) (body : List Code) :
    textAt n [block header body] =
      lineAt n header ++ lineAt n "\x7b" ++ textAt (n + 1) body ++ lineAt n "\x7d" := by
  have hsteps : stepsAll [block header body] =
      [.openScope header] ++ stepsAll body ++ [.endScope] := by
    simp [stepsAll, steps]
  have hopen : addedBy n [.openScope header] = lineAt n header ++ lineAt n "\x7b" := by
    simp [addedBy, added]
  have hclose : addedBy (n + 1) [.endScope] = lineAt n "\x7d" := by
    simp [addedBy, added]
  rw [textAt, hsteps, addedBy_append, addedBy_append, List.foldl_append, hopen]
  show lineAt n header ++ lineAt n "\x7b" ++ textAt (n + 1) body ++
    addedBy ((stepsAll body).foldl openAfter (n + 1)) [.endScope] = _
  rw [openAfter_stepsAll, hclose]

theorem lineAt_zero (text : String) : lineAt 0 text = text ++ "\n" := by
  unfold lineAt
  split
  · next hempty =>
    rw [hempty]
    rfl
  · show "" ++ text ++ "\n" = text ++ "\n"
    rw [String.empty_append]

/-- A line holds its text. -/
theorem exists_lineAt_eq (n : Nat) (text : String) :
    ∃ before after, lineAt n text = before ++ text ++ after := by
  unfold lineAt
  split
  · next hempty => exact ⟨"", "\n", by rw [hempty]; rfl⟩
  · exact ⟨_, "\n", rfl⟩

end Source.Code

open Source Source.Code Source.Writer

/-! ## The attribute -/

/-- What stands in front of the literals of the attribute. -/
def attributeLead : String :=
  "[System.CodeDom.Compiler.GeneratedCode("

/-- The attribute is its words with the name and the version between quotes. -/
theorem generatedCode_eq (s : Settings) : generatedCode s =
    attributeLead ++ "\"" ++ s.toolName ++ "\"" ++ ", " ++ "\"" ++ s.toolVersion ++ "\"" ++ ")]" := by
  have hlead : attributeLead ++ "\"" = "[System.CodeDom.Compiler.GeneratedCode(\"" := by decide +kernel
  have hbetween : "\"" ++ ", " ++ "\"" = "\", \"" := by decide +kernel
  have hend : "\"" ++ ")]" = "\")]" := by decide +kernel
  calc generatedCode s
      = "[System.CodeDom.Compiler.GeneratedCode(\"" ++ s.toolName ++ "\", \"" ++ s.toolVersion ++
          "\")]" := rfl
    _ = attributeLead ++ "\"" ++ s.toolName ++ ("\"" ++ ", " ++ "\"") ++ s.toolVersion ++
          ("\"" ++ ")]") := by rw [hlead, hbetween, hend]
    _ = _ := by simp only [String.append_assoc]

/-! ## The text of a unit -/

/-- **A file around the body of its namespace.** -/
def namespaceText (namespaceName body : String) : String :=
  openingText ++ "namespace " ++ namespaceName ++ "\n\x7b\n" ++ body ++ "\x7d\n" ++ closingText

/-- What stands in the namespace of a unit. -/
def typeCode (a : Accepted) (s : Settings) (datatype display : String) (members : List Code) :
    List Code :=
  [.line (generatedCode s), .line ("[System.Diagnostics.DebuggerDisplay(\"" ++ display ++ "\")]"),
    .block (typeHeader a datatype) members]

/-- **A type in its namespace**: two attributes, the header, and between braces the members. -/
def typeText (s : Settings) (display header members : String) : String :=
  lineAt 1 (generatedCode s) ++
    lineAt 1 ("[System.Diagnostics.DebuggerDisplay(\"" ++ display ++ "\")]") ++
    lineAt 1 header ++ lineAt 1 "\x7b" ++ members ++ lineAt 1 "\x7d"

theorem textAt_typeCode (a : Accepted) (s : Settings) (datatype display : String)
    (members : List Code) :
    textAt 1 (typeCode a s datatype display members) =
      typeText s display (typeHeader a datatype) (textAt 2 members) := by
  rw [typeCode, textAt_cons, textAt_line, textAt_cons, textAt_line, textAt_block, typeText]
  simp only [String.append_assoc]

/-- **The text of a unit** is that of its members with the type and the namespace around them. -/
theorem unitText_unitOf_eq (a : Accepted) (s : Settings) (datatype display : String)
    (members : List Code) :
    unitText (unitOf a s datatype display members) =
      namespaceText a.namespaceName
        (typeText s display (typeHeader a datatype) (textAt 2 members)) := by
  have hunit : unitOf a s datatype display members =
      openingLines ++
        [.block ("namespace " ++ a.namespaceName) (typeCode a s datatype display members)] ++
        closingLines := rfl
  have hblock : unitText
        [.block ("namespace " ++ a.namespaceName) (typeCode a s datatype display members)] =
      "namespace " ++ a.namespaceName ++ "\n" ++ "\x7b\n" ++
        typeText s display (typeHeader a datatype) (textAt 2 members) ++ "\x7d\n" := by
    rw [unitText_eq_textAt, textAt_block, lineAt_zero, lineAt_zero, lineAt_zero, textAt_typeCode]
    rfl
  rw [hunit, unitText_append, unitText_append, unitText_openingLines, unitText_closingLines, hblock]
  simp only [namespaceText, ← String.toList_inj, String.toList_append, List.append_assoc]
  rfl

/-! ## Accepted declarations -/

/-- The code of an accepted value object is a unit, and the default constructor is its first member. -/
theorem Accepted.exists_code_eq (a : Accepted) (s : Settings) :
    ∃ datatype display rest, a.code s = unitOf a s datatype display
      (defaultConstructor a.descriptor.name s.runtimeNamespace :: rest) := by
  unfold Accepted.code
  split
  · exact ⟨_, _, _, rfl⟩
  · exact ⟨_, _, _, rfl⟩

/-- What the review accepts it accepts in the trimmed namespace. -/
theorem Review.Accepts.frame {d : Descriptor} {a : Accepted} (ha : Review.Accepts d a) :
    a.descriptor = d ∧ Text.trimmed? d.namespaceName = some a.namespaceName := by
  cases ha with
  | single hnamespace _ _ => exact ⟨rfl, hnamespace⟩
  | multi hnamespace _ _ _ => exact ⟨rfl, hnamespace⟩

/-- **The file of an accepted declaration**: in the trimmed namespace the attribute that names the tool,
and a type whose first member is the default constructor. -/
theorem Generator.source_eq_namespaceText {g : Generator} {d : Declaration} {u : GeneratedUnit}
    (hu : g.generate d = .accepted u) :
    ∃ n between rest, Text.trimmed? d.namespaceName = some n ∧
      u.source = namespaceText n (lineAt 1 (generatedCode g.settings) ++ between ++
        textAt 2 [defaultConstructor d.name g.settings.runtimeNamespace] ++ rest) := by
  obtain ⟨a, ha, rfl⟩ := Generator.generate_eq_accepted_iff.mp hu
  obtain ⟨hdescriptor, hnamespace⟩ := ha.frame
  obtain ⟨datatype, display, rest, hcode⟩ := a.exists_code_eq g.settings
  refine ⟨a.namespaceName,
    lineAt 1 ("[System.Diagnostics.DebuggerDisplay(\"" ++ display ++ "\")]") ++
      lineAt 1 (typeHeader a datatype) ++ lineAt 1 "\x7b",
    textAt 2 rest ++ lineAt 1 "\x7d", hnamespace, ?_⟩
  show unitText (a.code g.settings) = _
  have hname : a.descriptor.name = d.name := by rw [hdescriptor]; rfl
  rw [hcode, unitText_unitOf_eq, typeText, textAt_cons, hname]
  simp only [String.append_assoc]

end ValueObject
