/-
# ValueObject.Proofs.Source.MultiValueScript -- a type over several values in phrases

Every part of the type is written again as a script, and its phrases put together are the code of that
part (`MultiValue.code_script`). What is written for the fields in one line is a row. The predicate is
met in the constructor, where all assignments stand in its block, and in `Try`; `From` reaches it through
the constructor, no operator makes an instance, and nothing parses.
-/

import ValueObject.Proofs.Source.Script
import ValueObject.Source.MultiValue

namespace ValueObject.Source

open Phrase (fixed given)

/-- A row of the fields, with commas between them. -/
def Phrase.fieldRow (fields : List Field) (entry : Field → List Word) : Phrase :=
  .row (.fixed ", ") (fields.map entry)

namespace MultiValue

variable (v : MultiValue)

/-- The values that the constructor takes. -/
def slots : List Slot :=
  v.fields.map fun f => ⟨f.typeName, f.parameter, f.backing⟩

/-- The parameters, each with its type. -/
def parameterRow : Phrase :=
  .fieldRow v.fields fun f => [.given f.typeName, .fixed " ", .given f.parameter]

/-- The names with their values. -/
def displayRow : Phrase :=
  .fieldRow v.fields fun f =>
    [.given f.name, .fixed " = \x7b", .given f.name,
      .fixed "\x7d"]

/-- A line for each field that assigns its backing field. -/
def assignmentLines : List (List Phrase) :=
  v.fields.map fun f => [.does (.assign f.backing f.parameter)]

def constructorScript : Script where
  declares := ⟨.constructor, access v.options.constructor, v.name⟩
  head := [v.parameterRow, fixed ")"]
  body := some (match v.predicate with
    | none => v.assignmentLines.map .line
    | some predicate =>
      [.block [.does (.ask predicate v.arguments)] v.assignmentLines,
        .line [.otherwise, .does .refuse,
          fixed "\"Validation Failed. The specified values are not valid for Value Object '",
          given v.name, fixed "'.\");"]])

def propertyScripts (f : Field) : List Script :=
  [{ declares := ⟨.backingField, "private readonly " ++ TypeName.nullable f.typeName, f.backing⟩
     head := [] },
    { declares := ⟨.property, "public partial " ++ f.typeName, f.name⟩
      head := [.does (.demand f.backing), fixed "\"ValueObject '", given v.name,
        fixed "' was not initialized with a valid value for property '", given f.name,
        fixed "'.\");"] }]

def hashScript : Script where
  declares := ⟨.method, "public override int", "GetHashCode"⟩
  head :=
    if v.fields.length ≤ combineLimit then
      [fixed ") => System.HashCode.Combine(", .fieldRow v.fields fun f => [.given f.backing],
        fixed ");"]
    else [fixed ")"]
  body :=
    if v.fields.length ≤ combineLimit then none
    else some (.line [fixed "var hash = new System.HashCode();"] ::
      v.fields.map (fun f => .line [fixed "hash.Add(", given f.backing, fixed ");"]) ++
      [.line [fixed "return hash.ToHashCode();"]])

def overridesScripts : List Script :=
  [{ declares := ⟨.method, "public override string", "ToString"⟩
     head := [fixed ") => $\"", given v.name, fixed " \x7b\x7b ", v.displayRow,
      fixed " \x7d\x7d\";"] },
    { declares := ⟨.method, "public override bool", "Equals"⟩
      head := [fixed "object? obj) => obj is ", given v.name, fixed " other && Equals(other);"] },
    v.hashScript]

def deconstructScript : Script where
  declares := ⟨.method, "public void", "Deconstruct"⟩
  head := [.fieldRow v.fields fun f =>
      [.fixed "out ", .given f.typeName, .fixed " ",
        .given f.parameter],
    fixed ")"]
  body := some (v.fields.map fun f => .line [given f.parameter, fixed " = ", given f.name, fixed ";"])

def tryScript (predicate : String) : Script where
  declares := ⟨.method, "public static bool", "Try"⟩
  head := [v.parameterRow, fixed ", out ", given v.name, fixed " ", given (outParameter v.fields),
    fixed ")"]
  body := some
    [.line [.does (.ask predicate v.arguments), fixed " \x7b ", given (outParameter v.fields),
        fixed " = ", .does (.construct v.arguments), fixed "; return true; \x7d"],
      .line [given (outParameter v.fields), fixed " = default;"],
      .line [fixed "return false;"]]

/-- Equality of one field with that of another instance. -/
def comparisonWords (f : Field) : List Word :=
  if f.isValueType then
    [.given f.name, .fixed ".Equals(other.", .given f.name,
      .fixed ")"]
  else
    [.fixed "System.Collections.Generic.EqualityComparer<", .given f.typeName,
      .fixed ">.Default.Equals(", .given f.name,
      .fixed ", other.", .given f.name, .fixed ")"]

def equalityScripts : List Script :=
  { declares := ⟨.method, "public bool", "Equals"⟩
    head := [given v.name, fixed " other) => ",
      .row (.fixed " && ") (v.fields.map comparisonWords), fixed ";"] } ::
  equalityOperatorScripts v.name v.name

/-- **A part of the type in phrases.** -/
def script : Part → List Script
  | .defaultConstructor => [defaultConstructorScript v.name]
  | .constructor => [v.constructorScript]
  | .property f => v.propertyScripts f
  | .overrides => v.overridesScripts
  | .factory =>
    [{ declares := ⟨.method, "public static " ++ partialWord v.factory.isSome ++ v.name, "From"⟩
       head := [v.parameterRow, fixed ") => ", .does (.construct v.arguments), fixed ";"] }]
  | .deconstruct => [v.deconstructScript]
  | .tryCreate => v.predicate.toList.map v.tryScript
  | .equality => v.equalityScripts

/-- The members of the type in phrases. -/
def scripts : List Script :=
  v.parts.flatMap v.script

/-! ## The phrases put together -/

section

attribute [local simp] Script.code Step.code lineText Act.text Word.text wordsText
  DeclaredMember.signature MemberKind.mark throwing Code.braced Code.lbrace Code.rbrace

@[simp]
theorem text_parameterRow (name runtime : String) :
    v.parameterRow.text name runtime = v.parameters := by
  simp [parameterRow, Phrase.fieldRow, parameters, commaList, Function.comp_def, String.append_assoc]

@[simp]
theorem text_displayRow (name runtime : String) : v.displayRow.text name runtime = v.display := by
  simp [displayRow, Phrase.fieldRow, display, commaList, Function.comp_def, ← String.toList_inj]

theorem wordsText_comparisonWords (f : Field) : wordsText (comparisonWords f) = comparison f := by
  rw [comparisonWords, comparison]
  cases f.isValueType <;> simp [String.append_assoc]

theorem map_lineText_assignmentLines (name runtime : String) :
    v.assignmentLines.map (fun l => .line (lineText name runtime l)) = v.assignments := by
  simp [assignmentLines, assignments]

theorem code_constructorScript : v.constructorScript.code v.name v.runtime = v.constructorCode := by
  rw [constructorCode, constructorScript]
  cases v.predicate with
  | none => simp [assignmentLines, assignments, String.append_assoc]
  | some predicate => simp [map_lineText_assignmentLines, String.append_assoc]

theorem code_propertyScripts (f : Field) :
    (v.propertyScripts f).map (Script.code v.name v.runtime) = v.propertyCode f := by
  simp [propertyScripts, propertyCode, ← String.toList_inj]

theorem code_hashScript : v.hashScript.code v.name v.runtime = v.hashCode := by
  rw [hashScript, hashCode]
  split
  · simp [Phrase.fieldRow, commaList, Function.comp_def, ← String.toList_inj]
  · simp [String.append_assoc]

theorem code_overridesScripts :
    v.overridesScripts.map (Script.code v.name v.runtime) = v.overridesCode := by
  simp only [overridesScripts, overridesCode, List.map_cons, List.map_nil, code_hashScript]
  simp [← String.toList_inj]

theorem code_deconstructScript :
    v.deconstructScript.code v.name v.runtime = v.deconstructCode := by
  simp [deconstructScript, deconstructCode, Phrase.fieldRow, commaList, Function.comp_def,
    String.append_assoc]

theorem code_tryScript (predicate : String) :
    (v.tryScript predicate).code v.name v.runtime = v.tryCode predicate := by
  simp [tryScript, tryCode, ← String.toList_inj]

theorem code_equalityScripts :
    v.equalityScripts.map (Script.code v.name v.runtime) = v.equalityCode := by
  rw [equalityScripts, equalityCode, List.map_cons, code_equalityOperatorScripts]
  simp [wordsText_comparisonWords, Function.comp_def, String.append_assoc]

/-- **The phrases of a part are its code.** -/
theorem code_script (p : Part) : (v.script p).map (Script.code v.name v.runtime) = v.code p := by
  cases p with
  | defaultConstructor =>
    rw [script, code, List.map_cons, List.map_nil, code_defaultConstructorScript]
  | constructor => rw [script, code, List.map_cons, List.map_nil, code_constructorScript]
  | property f => exact v.code_propertyScripts f
  | overrides => exact v.code_overridesScripts
  | factory => simp [script, code, ← String.toList_inj]
  | deconstruct => rw [script, code, List.map_cons, List.map_nil, code_deconstructScript]
  | tryCreate =>
    rw [script, code]
    cases v.predicate with
    | none => rfl
    | some predicate => exact congrArg ([·]) (v.code_tryScript predicate)
  | equality => exact v.code_equalityScripts

end

/-- **The phrases of the type are its members.** -/
theorem code_scripts : v.scripts.map (Script.code v.name v.runtime) = v.members := by
  simp only [scripts, members, List.map_flatMap, code_script]

/-! ## The acts of the members -/

@[simp]
theorem parameters_slots : Slot.parameters v.slots = v.parameters := by
  simp [Slot.parameters, slots, parameters, Function.comp_def]

@[simp]
theorem arguments_slots : Slot.arguments v.slots = v.arguments := by
  simp [Slot.arguments, slots, arguments, Function.comp_def]

theorem flatMap_lineActs_assignmentLines (answer : Bool) :
    v.assignmentLines.flatMap (lineActs answer) = Slot.assignments v.slots := by
  rw [assignmentLines, Slot.assignments, slots, List.flatMap_map, List.map_map,
    List.map_eq_flatMap]
  rfl

section

attribute [local simp] script constructorScript propertyScripts overridesScripts hashScript
  deconstructScript tryScript equalityScripts equalityOperatorScripts defaultConstructorScript
  parameterRow displayRow Phrase.fieldRow called Script.acts Step.acts lineActs Phrase.acts
  Phrase.passes Act.checks Act.makes Script.words Step.words Act.demands

/-- The two constructors are the only members of their kind. -/
theorem called_constructor :
    called .constructor v.name v.scripts =
      [defaultConstructorScript v.name, v.constructorScript] := by
  have htry : called .constructor v.name (v.script .tryCreate) = [] := by
    rw [script]
    cases v.predicate <;> simp
  rw [scripts, called_flatMap, flatMap_parts, htry]
  simp

/-- `Try` is written exactly where there is a predicate. -/
theorem called_try : called .method "Try" v.scripts = v.predicate.toList.map v.tryScript := by
  have htry : (if v.predicate.isSome then called .method "Try" (v.script .tryCreate) else []) =
      v.predicate.toList.map v.tryScript := by
    rw [script]
    cases v.predicate <;> simp
  rw [scripts, called_flatMap, flatMap_parts, htry]
  simp

/-- `From` is written for a factory or for the option, and is partial where there is a factory. -/
theorem fronts_from :
    (called .method "From" v.scripts).map (·.declares.front) =
      if v.options.explicitFrom || v.factory.isSome then
        ["public static " ++ partialWord v.factory.isSome ++ v.name]
      else [] := by
  have htry : called .method "From" (v.script .tryCreate) = [] := by
    rw [script]
    cases v.predicate <;> simp
  rw [scripts, called_flatMap, flatMap_parts, htry]
  cases v.options.explicitFrom || v.factory.isSome <;> simp

/-- No part parses. -/
theorem called_parse {name : String} (h : name = "Parse" ∨ name = "TryParse") :
    called .method name v.scripts = [] := by
  rw [scripts, called_flatMap, List.flatMap_eq_nil_iff]
  intro p _
  rcases h with rfl | rfl
  all_goals
    cases p with
    | tryCreate => cases h : v.predicate <;> simp [h]
    | _ => simp

/-- The constructor assigns all fields, behind the predicate if there is one. -/
theorem acts_constructorScript (answer : Bool) :
    v.constructorScript.acts answer =
      match v.predicate with
      | none => Slot.assignments v.slots
      | some predicate =>
        .ask predicate v.arguments ::
          if answer then Slot.assignments v.slots else [.refuse] := by
  rw [← v.flatMap_lineActs_assignmentLines answer]
  cases h : v.predicate with
  | none => simp [h, List.flatMap_map]
  | some predicate => cases answer <;> simp [h]

/-- The texts of the type that stand between its acts: its name, that of the out parameter of `Try`, and
those of the fields. -/
def texts : List String :=
  v.name :: outParameter v.fields ::
    v.fields.flatMap fun f => [f.name, f.typeName, f.parameter, f.backing]

theorem name_mem_texts : v.name ∈ v.texts :=
  List.mem_cons_self

theorem outParameter_mem_texts : outParameter v.fields ∈ v.texts :=
  List.mem_cons_of_mem _ List.mem_cons_self

theorem mem_texts_of_field {f : Field} (hf : f ∈ v.fields) :
    f.name ∈ v.texts ∧ f.typeName ∈ v.texts ∧ f.parameter ∈ v.texts ∧ f.backing ∈ v.texts := by
  simp only [texts, List.mem_cons, List.mem_flatMap]
  grind

/-- In a row, what holds of a word holds for every field. -/
theorem forall_mem_row_iff {word : Field → Word} {P : Word → Prop} :
    (∀ w, ∀ f ∈ v.fields, w = word f → P w) ↔ ∀ f ∈ v.fields, P (word f) := by
  grind

theorem plain_comparisonWords {f : Field} (hf : f ∈ v.fields) :
    ∀ w ∈ comparisonWords f, w.Plain v.texts := by
  rw [comparisonWords]
  cases f.isValueType <;> simp [v.mem_texts_of_field hf] <;> and_intros <;>
    exact inert_ofList (by decide)

/-- Between the acts there are only inert words and texts of the type. -/
theorem plain_words : ∀ m ∈ v.scripts, ∀ w ∈ m.words, w.Plain v.texts := by
  have hname := v.name_mem_texts
  have hout := v.outParameter_mem_texts
  have hfield (f : Field) (hf : f ∈ v.fields) := v.mem_texts_of_field hf
  -- Rows turn into statements over the fields; what is left are literals, read by their characters.
  rw [scripts, List.forall_mem_flatMap]
  intro p hp
  cases p with
  | constructor =>
    cases h : v.predicate <;>
      simp +contextual [h, assignmentLines, or_imp, forall_and, forall_mem_row_iff, hname, hfield] <;>
      and_intros <;> intros <;> exact inert_ofList (by decide)
  | property f =>
    have hf : f ∈ v.fields := by simpa [parts] using hp
    simp [or_imp, forall_and, hname, hfield f hf]
    and_intros <;> exact inert_ofList (by decide)
  | tryCreate =>
    cases h : v.predicate with
    | none => simp [h]
    | some predicate =>
      simp +contextual [h, or_imp, forall_and, forall_mem_row_iff, hname, hout, hfield]
      and_intros <;> intros <;> exact inert_ofList (by decide)
  | overrides =>
    by_cases hlarge : v.fields.length ≤ combineLimit <;>
      simp +contextual [hlarge, or_imp, forall_and, forall_mem_row_iff, hname, hfield] <;>
      and_intros <;> intros <;> exact inert_ofList (by decide)
  | equality =>
    have hwords (w : Word) (f : Field) (hf : f ∈ v.fields) (hw : w ∈ comparisonWords f) :
        w.Plain v.texts := v.plain_comparisonWords hf w hw
    simp [or_imp, forall_and, hname]
    and_intros <;> first | exact hwords | exact inert_ofList (by decide)
  | defaultConstructor | factory | deconstruct =>
    simp +contextual [or_imp, forall_and, forall_mem_row_iff, hname, hfield]
    and_intros <;> intros <;> exact inert_ofList (by decide)

/-- No operator makes an instance. -/
theorem acts_operator (answer : Bool) :
    ∀ m ∈ v.scripts, m.declares.kind = .operator → m.acts answer = [] := by
  rw [scripts, List.forall_mem_flatMap]
  intro p _
  cases p with
  | tryCreate => cases h : v.predicate <;> simp [h]
  | _ => simp

theorem unchecked (h : v.predicate = none) (answer : Bool) :
    ∀ m ∈ v.scripts, ∀ a ∈ m.acts answer, a.checks = false := by
  rw [scripts, List.forall_mem_flatMap]
  intro p _
  cases p with
  | constructor =>
    intro m hm a ha
    rw [script, List.mem_singleton] at hm
    rw [hm, acts_constructorScript, h] at ha
    obtain ⟨s, -, rfl⟩ := List.mem_map.mp ha
    rfl
  | overrides => by_cases hlarge : v.fields.length ≤ combineLimit <;> simp [hlarge]
  | _ => simp [h]

/-- **With a predicate the type is guarded.** -/
theorem guarded {predicate : String} (h : v.predicate = some predicate) :
    Guarded v.name predicate v.slots v.scripts where
  constructors answer := by
    rw [called_constructor, arguments_slots, List.map_cons, List.map_cons, acts_constructorScript, h]
    simp
  tries answer := by
    rw [called_try, arguments_slots]
    cases answer <;> simp [h]
  tryParses answer m hm := by
    rw [v.called_parse (.inr rfl)] at hm
    cases hm

/-- **Without a predicate it takes all values.** -/
theorem unguarded (h : v.predicate = none) : Unguarded v.name v.slots v.scripts where
  constructors answer := by
    rw [called_constructor, List.map_cons, List.map_cons, acts_constructorScript, h]
    simp
  tries := by
    rw [called_try, h]
    rfl
  tryParses answer m hm := by
    rw [v.called_parse (.inr rfl)] at hm
    cases hm
  unchecked := v.unchecked h

/-- The constructor takes the fields. -/
theorem head_constructorScript :
    Text.startsWith (v.constructorScript.declares.signature ++ Slot.parameters v.slots ++ ")")
      (v.constructorScript.code v.name v.runtime).head = true := by
  rw [parameters_slots, code_constructorScript]
  simp [constructorCode, Code.head, Text.startsWith, DeclaredMember.signature, MemberKind.mark]

/-- **Every instance is made by the constructor.** -/
theorem madeByConstructor : MadeByConstructor v.name v.runtime v.slots v.scripts where
  assigned answer := by
    rw [scripts, List.forall_mem_flatMap]
    intro p _
    cases p with
    | constructor =>
      intro m hm backing parameter _
      rw [script, List.mem_singleton] at hm
      rw [hm]
      exact ⟨rfl, v.head_constructorScript⟩
    | overrides => by_cases hlarge : v.fields.length ≤ combineLimit <;> simp [hlarge]
    | tryCreate => cases h : v.predicate <;> cases answer <;> simp [h]
    | _ => simp
  operators answer m hm hkind := .inl (v.acts_operator answer m hm hkind)
  factories answer := by
    rw [scripts, called_flatMap, List.forall_mem_flatMap]
    intro p _
    cases p with
    | tryCreate => cases h : v.predicate <;> simp [h]
    | _ => simp
  parses answer m hm := by
    rw [v.called_parse (.inl rfl)] at hm
    cases hm
  others answer := by
    rw [scripts, List.forall_mem_flatMap]
    intro p _
    cases p with
    | overrides => by_cases hlarge : v.fields.length ≤ combineLimit <;> simp [hlarge]
    | tryCreate => cases h : v.predicate <;> cases answer <;> simp [h]
    | _ => simp

end

/-- **What the members of a type over several values do about instances.** -/
theorem behaves :
    Behaves v.name v.runtime v.predicate v.factory v.options.explicitFrom false v.slots v.scripts where
  guarded _ h := v.guarded h
  unguarded h := v.unguarded h
  fronts_from := v.fronts_from
  converting_iff answer := by
    have hidle := v.acts_operator answer
    grind
  madeByConstructor := v.madeByConstructor

end MultiValue

end ValueObject.Source
