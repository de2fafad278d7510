/-
# ValueObject.Proofs.Source.SingleValueScript -- a type over one value in phrases

Every part of the type is written again as a script, and its phrases put together are the code of that
part (`SingleValue.code_script`). From then on the members are asked for their acts. The predicate is met
in three places -- the constructor, `Try` and what `TryParse` does with a parsed value -- and the
conversion, `From` and `Parse` reach it through the constructor.
-/

import ValueObject.Proofs.Source.Script
import ValueObject.Source.SingleValue

namespace ValueObject.Source

open Phrase (fixed given)

namespace SingleValue

variable (v : SingleValue)

/-- The one value that the constructor takes. -/
def slot : Slot := ⟨v.datatype, "value", "_value"⟩

theorem arguments_slot : Slot.arguments [v.slot] = "value" := by
  simp [Slot.arguments, slot, commaList]

def constructorScript : Script where
  declares := ⟨.constructor, access v.options.constructor, v.name⟩
  head := [given v.datatype, fixed " value)"] ++
    (match v.predicate with
    | none => [fixed " => ", .does (.assign "_value" "value")]
    | some _ => [])
  body := v.predicate.map fun predicate =>
    [.line [.does (.ask predicate "value"), fixed " ", .does (.assign "_value" "value")],
      .line [.otherwise, .does .refuse,
        fixed "$\"Validation Failed. The value '\x7bvalue\x7d' is not valid for Value Object '",
        given v.name, fixed "'.\");"]]

def valueScript : Script where
  declares := ⟨.property, "public " ++ v.datatype, "Value"⟩
  head := [.does (.demand "_value"), fixed "\"ValueObject '", given v.name,
    fixed "' was not initialized with a valid value.\");"]

def tryScript (predicate : String) : Script where
  declares := ⟨.method, "public static bool", "Try"⟩
  head := [given v.datatype, fixed " value, out ", given v.name, fixed " valueObject)"]
  body := some
    [.line [.does (.ask predicate "value"), fixed " \x7b valueObject = ", .does (.construct "value"),
        fixed "; return true; \x7d"],
      .line [fixed "valueObject = default;"],
      .line [fixed "return false;"]]

/-- An operator that compares. -/
def comparisonScript (op otherType : String) : Script where
  declares := ⟨.operator, "public static bool operator", op⟩
  head := [given v.name, fixed " left, ", given otherType, fixed " right) => left.CompareTo(right) ",
    fixed op, fixed " 0;"]

def comparableScripts (otherType otherValue : String) : List Script :=
  [{ declares := ⟨.method, "public int", "CompareTo"⟩
     head := [given otherType, fixed " other) => Value.CompareTo(", fixed otherValue, fixed ");"] },
    v.comparisonScript "<" otherType, v.comparisonScript ">" otherType,
    v.comparisonScript "<=" otherType, v.comparisonScript ">=" otherType]

/-- What `TryParse` does with a value that it has parsed. -/
def parsedPhrases : List Phrase :=
  match v.predicate with
  | some _ => [fixed "return ", .does (.attempt "dtResult"), fixed ";"]
  | none => [fixed "\x7b result = ", .does (.construct "dtResult"), fixed "; return true; \x7d"]

def parsableScripts (input : String) : List Script :=
  [{ declares := ⟨.method, "public static " ++ v.name, "Parse"⟩
     head := [fixed input, fixed " s, System.IFormatProvider? provider) => ",
      .does (.construct (v.datatype ++ ".Parse(s, provider)")), fixed ";"] },
    { declares := ⟨.method, "public static bool", "TryParse"⟩
      head := [fixed input, fixed " s, System.IFormatProvider? provider, out ", given v.name,
        fixed " result)"]
      body := some
        [.line ([fixed "if (", given v.datatype,
            fixed ".TryParse(s, provider, out var dtResult)) "] ++ v.parsedPhrases),
          .line [fixed "result = default;"],
          .line [fixed "return false;"]] }]

def capabilityScripts : Capability → List Script
  | .selfEquatable =>
    [{ declares := ⟨.method, "public bool", "Equals"⟩
       head := [given v.name, fixed " other) => Value.Equals(other.Value);"] },
      { declares := ⟨.method, "public override bool", "Equals"⟩
        head := [fixed "object? obj) => obj is ", given v.name, fixed " other && Equals(other);"] },
      { declares := ⟨.method, "public override int", "GetHashCode"⟩
        head := [fixed ") => _value?.GetHashCode() ?? 0;"] }] ++
    equalityOperatorScripts v.name v.name
  | .valueEquatable =>
    { declares := ⟨.method, "public bool", "Equals"⟩
      head := [given v.datatype, fixed " other) => Value.Equals(other);"] } ::
    equalityOperatorScripts v.name v.datatype
  | .selfComparable => v.comparableScripts v.name "other.Value"
  | .valueComparable => v.comparableScripts v.datatype "other"
  | .parsable => v.parsableScripts "string?"
  | .spanParsable => v.parsableScripts "System.ReadOnlySpan<char>"

/-- **A part of the type in phrases.** -/
def script : Part → List Script
  | .defaultConstructor => [defaultConstructorScript v.name]
  | .constructor => [v.constructorScript]
  | .backingField =>
    [{ declares := ⟨.backingField, "private readonly " ++ TypeName.nullable v.datatype, "_value"⟩
       head := [] }]
  | .value => [v.valueScript]
  | .fromRaw =>
    [{ declares := ⟨.operator, "public static implicit operator", v.name⟩
       head := [given v.datatype, fixed " value) => ", .does (.construct "value"), fixed ";"] }]
  | .toRaw =>
    [{ declares := ⟨.operator, "public static implicit operator", v.datatype⟩
       head := [given v.name, fixed " valueObject) => valueObject.Value;"] }]
  | .factory =>
    [{ declares := ⟨.method, "public static " ++ partialWord v.factory.isSome ++ v.name, "From"⟩
       head := [given v.datatype, fixed " value) => ", .does (.construct "value"), fixed ";"] }]
  | .toText =>
    [{ declares := ⟨.method, "public override string", "ToString"⟩
       head := [fixed ") => Value.ToString();"] }]
  | .tryCreate => v.predicate.toList.map v.tryScript
  | .capability c => v.capabilityScripts c

/-- The members of the type in phrases. -/
def scripts : List Script :=
  v.parts.flatMap v.script

/-! ## The phrases put together -/

section

attribute [local simp] Script.code Step.code lineText Act.text Word.text
  DeclaredMember.signature MemberKind.mark throwing Code.braced Code.lbrace Code.rbrace

theorem code_constructorScript : v.constructorScript.code v.name v.runtime = v.constructorCode := by
  rw [constructorCode, constructorScript]
  cases v.predicate <;> simp [String.append_assoc]

theorem code_comparableScripts (otherType otherValue : String) :
    (v.comparableScripts otherType otherValue).map (Script.code v.name v.runtime) =
      v.comparableCode otherType otherValue := by
  simp only [comparableScripts, comparisonScript, comparableCode, List.map_cons, List.map_nil]
  simp [String.append_assoc]

theorem lineText_parsedPhrases : lineText v.name v.runtime v.parsedPhrases = v.parsedCode := by
  rw [parsedPhrases, parsedCode]
  cases v.predicate <;> simp [String.append_assoc]

theorem code_parsableScripts (input : String) :
    (v.parsableScripts input).map (Script.code v.name v.runtime) = v.parsableCode input := by
  simp [parsableScripts, parsableCode, lineText_parsedPhrases, ← String.toList_inj]

theorem code_capabilityScripts (c : Capability) :
    (v.capabilityScripts c).map (Script.code v.name v.runtime) = v.capabilityCode c := by
  cases c with
  | selfEquatable =>
    rw [capabilityScripts, capabilityCode, List.map_append, code_equalityOperatorScripts]
    simp [← String.toList_inj]
  | valueEquatable =>
    rw [capabilityScripts, capabilityCode, List.map_cons, code_equalityOperatorScripts]
    simp [String.append_assoc]
  | selfComparable | valueComparable => exact v.code_comparableScripts ..
  | parsable | spanParsable => exact v.code_parsableScripts ..

/-- **The phrases of a part are its code.** -/
theorem code_script (p : Part) : (v.script p).map (Script.code v.name v.runtime) = v.code p := by
  cases p with
  | defaultConstructor =>
    rw [script, code, List.map_cons, List.map_nil, code_defaultConstructorScript]
  | constructor => rw [script, code, List.map_cons, List.map_nil, code_constructorScript]
  | backingField => simp [script, code, String.append_assoc]
  | value => simp [script, code, valueScript, valueCode, ← String.toList_inj]
  | fromRaw | toRaw | factory | toText => simp [script, code, String.append_assoc]
  | tryCreate =>
    rw [script, code]
    cases v.predicate with
    | none => rfl
    | some predicate => simp [tryScript, tryCode, String.append_assoc]
  | capability c => exact v.code_capabilityScripts c

end

/-- **The phrases of the type are its members.** -/
theorem code_scripts : v.scripts.map (Script.code v.name v.runtime) = v.members := by
  simp only [scripts, members, List.map_flatMap, code_script]

/-! ## The acts of the members -/

/-- What is collected from the parts: from each part that there is, in order. -/
theorem flatMap_parts {α : Type} (f : Part → List α) :
    v.parts.flatMap f =
      f .defaultConstructor ++ f .constructor ++ f .backingField ++ f .value ++
      (if v.options.implicitFrom then f .fromRaw else []) ++
      (if v.options.implicitAs then f .toRaw else []) ++
      (if v.options.explicitFrom || v.factory.isSome then f .factory else []) ++
      (if v.options.toText then f .toText else []) ++
      (if v.predicate.isSome then f .tryCreate else []) ++
      v.capabilities.toList.flatMap fun c => f (.capability c) := by
  have hif (b : Bool) (p : Part) :
      (if b then [p] else []).flatMap f = if b then f p else [] := by
    cases b <;> simp
  simp only [parts, requestedParts, List.flatMap_append, List.flatMap_map, List.flatMap_cons,
    List.flatMap_nil, List.append_nil, hif, List.append_assoc]

section

attribute [local simp] script constructorScript valueScript tryScript equalityOperatorScripts
  comparableScripts comparisonScript parsableScripts capabilityScripts defaultConstructorScript
  called Script.acts Step.acts lineActs Phrase.acts Phrase.passes Act.checks Act.makes Script.words
  Step.words Act.demands

/-- The two constructors are the only members of their kind. -/
theorem called_constructor :
    called .constructor v.name v.scripts =
      [defaultConstructorScript v.name, v.constructorScript] := by
  -- The kind of a member is fixed by its part, whatever names the declaration gives.
  have hcapabilities (c : Capability) :
      called .constructor v.name (v.script (.capability c)) = [] := by
    cases c <;> simp
  have htry : called .constructor v.name (v.script .tryCreate) = [] := by
    rw [script]
    cases v.predicate <;> simp
  rw [scripts, called_flatMap, flatMap_parts, htry]
  simp only [hcapabilities]
  simp

/-- `Try` is written exactly where there is a predicate. -/
theorem called_try : called .method "Try" v.scripts = v.predicate.toList.map v.tryScript := by
  have hcapabilities (c : Capability) : called .method "Try" (v.script (.capability c)) = [] := by
    cases c <;> simp
  have htry : (if v.predicate.isSome then called .method "Try" (v.script .tryCreate) else []) =
      v.predicate.toList.map v.tryScript := by
    rw [script]
    cases v.predicate <;> simp
  rw [scripts, called_flatMap, flatMap_parts, htry]
  simp only [hcapabilities]
  simp

/-- `From` is written for a factory or for the option, and is partial where there is a factory. -/
theorem fronts_from :
    (called .method "From" v.scripts).map (·.declares.front) =
      if v.options.explicitFrom || v.factory.isSome then
        ["public static " ++ partialWord v.factory.isSome ++ v.name]
      else [] := by
  have hcapabilities (c : Capability) : called .method "From" (v.script (.capability c)) = [] := by
    cases c <;> simp
  have htry : called .method "From" (v.script .tryCreate) = [] := by
    rw [script]
    cases v.predicate <;> simp
  rw [scripts, called_flatMap, flatMap_parts, htry]
  simp only [hcapabilities]
  cases v.options.explicitFrom || v.factory.isSome <;> simp

/-- What is parsed without throwing goes through `Try` where there is one. -/
theorem acts_tryParse (answer : Bool) :
    ∀ m ∈ called .method "TryParse" v.scripts,
      m.acts answer = if v.predicate.isSome then [.attempt "dtResult"] else [.construct "dtResult"] := by
  rw [scripts, called_flatMap, List.forall_mem_flatMap]
  intro p _
  cases p with
  | capability c => cases c <;> cases h : v.predicate <;> simp [parsedPhrases, h]
  | tryCreate =>
    rw [script]
    cases v.predicate <;> simp
  | _ => simp

/-- Between the acts there are only inert words and names: those of the type, its datatype and its
backing field. -/
theorem plain_words :
    ∀ m ∈ v.scripts, ∀ w ∈ m.words, w.Plain [v.name, v.datatype, "_value"] := by
  -- The names are members of the list by `simp`; what is left are literals, read by their characters.
  rw [scripts, List.forall_mem_flatMap]
  intro p _
  cases p with
  | backingField => simp
  | constructor =>
    cases h : v.predicate <;> simp [h, or_imp, forall_and] <;> and_intros <;>
      exact inert_ofList (by decide)
  | tryCreate =>
    cases h : v.predicate with
    | none => simp [h]
    | some predicate =>
      simp [h, or_imp, forall_and]
      and_intros <;> exact inert_ofList (by decide)
  | capability c =>
    cases c with
    | parsable | spanParsable =>
      cases h : v.predicate <;> simp [h, parsedPhrases, or_imp, forall_and] <;> and_intros <;>
        exact inert_ofList (by decide)
    | _ =>
      simp [or_imp, forall_and]
      and_intros <;> exact inert_ofList (by decide)
  | _ =>
    simp
    and_intros <;> exact inert_ofList (by decide)

/-- The conversion from the raw value calls the constructor, and no other operator does. -/
theorem exists_converting_iff (answer : Bool) :
    (∃ m ∈ v.scripts, m.declares.kind = .operator ∧
      m.acts answer = [.construct (Slot.arguments [v.slot])]) ↔ v.options.implicitFrom = true := by
  have hpart (p : Part) : (∃ m ∈ v.script p, m.declares.kind = .operator ∧
      m.acts answer = [.construct "value"]) ↔ p = .fromRaw := by
    cases p with
    | tryCreate => cases h : v.predicate <;> simp [h]
    | capability c => cases c <;> simp
    | _ => simp
  have hparts : .fromRaw ∈ v.parts ↔ v.options.implicitFrom = true := by
    simp [parts, requestedParts]
  rw [arguments_slot, ← hparts]
  constructor
  · rintro ⟨m, hm, hconverts⟩
    obtain ⟨p, hp, hmp⟩ := List.mem_flatMap.mp hm
    exact (hpart p).mp ⟨m, hmp, hconverts⟩ ▸ hp
  · intro hp
    obtain ⟨m, hm, hconverts⟩ := (hpart .fromRaw).mpr rfl
    exact ⟨m, List.mem_flatMap.mpr ⟨_, hp, hm⟩, hconverts⟩

theorem unchecked (h : v.predicate = none) (answer : Bool) :
    ∀ m ∈ v.scripts, ∀ a ∈ m.acts answer, a.checks = false := by
  rw [scripts, List.forall_mem_flatMap]
  intro p _
  cases p with
  | capability c => cases c <;> simp [parsedPhrases, h]
  | _ => simp [h]

/-- **With a predicate the type is guarded.** -/
theorem guarded {predicate : String} (h : v.predicate = some predicate) :
    Guarded v.name predicate [v.slot] v.scripts where
  constructors answer := by
    rw [called_constructor, arguments_slot]
    cases answer <;> simp [h, Slot.assignments, slot]
  tries answer := by
    rw [called_try, arguments_slot]
    cases answer <;> simp [h]
  tryParses answer m hm := by
    simpa [h] using v.acts_tryParse answer m hm

/-- **Without a predicate it takes all values.** -/
theorem unguarded (h : v.predicate = none) : Unguarded v.name [v.slot] v.scripts where
  constructors answer := by
    rw [called_constructor]
    simp [h, Slot.assignments, slot]
  tries := by
    rw [called_try, h]
    rfl
  tryParses answer m hm := by
    simpa [h] using v.acts_tryParse answer m hm
  unchecked := v.unchecked h

/-- The constructor takes the value. -/
theorem head_constructorScript :
    Text.startsWith (v.constructorScript.declares.signature ++ Slot.parameters [v.slot] ++ ")")
      (v.constructorScript.code v.name v.runtime).head = true := by
  have hparameters : Slot.parameters [v.slot] = v.datatype ++ " value" := by
    simp [Slot.parameters, slot, commaList, String.append_assoc]
  rw [hparameters]
  cases h : v.predicate <;>
    simp [h, Script.code, Code.head, lineText, Word.text, Text.startsWith]

/-- **Every instance is made by the constructor.** -/
theorem madeByConstructor : MadeByConstructor v.name v.runtime [v.slot] v.scripts where
  assigned answer := by
    rw [scripts, List.forall_mem_flatMap]
    intro p _
    cases p with
    | constructor =>
      intro m hm backing parameter _
      rw [script, List.mem_singleton] at hm
      rw [hm]
      exact ⟨rfl, v.head_constructorScript⟩
    | capability c => cases c <;> cases h : v.predicate <;> simp [parsedPhrases, h]
    | tryCreate => cases h : v.predicate <;> cases answer <;> simp [h]
    | _ => simp
  operators answer := by
    rw [scripts, List.forall_mem_flatMap, arguments_slot]
    intro p _
    cases p with
    | capability c => cases c <;> simp
    | _ => simp
  factories answer := by
    rw [scripts, called_flatMap, List.forall_mem_flatMap, arguments_slot]
    intro p _
    cases p with
    | capability c => cases c <;> simp
    | tryCreate => cases h : v.predicate <;> simp [h]
    | _ => simp
  parses answer := by
    rw [scripts, called_flatMap, List.forall_mem_flatMap]
    intro p _
    cases p with
    | capability c => cases c <;> simp [slot]
    | tryCreate => cases h : v.predicate <;> simp [h]
    | _ => simp
  others answer := by
    rw [scripts, List.forall_mem_flatMap]
    intro p _
    cases p with
    | capability c => cases c <;> cases h : v.predicate <;> simp [parsedPhrases, h]
    | tryCreate => cases h : v.predicate <;> cases answer <;> simp [h]
    | _ => simp

end

/-- **What the members of a type over one value do about instances.** -/
theorem behaves :
    Behaves v.name v.runtime v.predicate v.factory v.options.explicitFrom v.options.implicitFrom
      [v.slot] v.scripts where
  guarded _ h := v.guarded h
  unguarded h := v.unguarded h
  fronts_from := v.fronts_from
  converting_iff := v.exists_converting_iff
  madeByConstructor := v.madeByConstructor

end SingleValue

end ValueObject.Source
