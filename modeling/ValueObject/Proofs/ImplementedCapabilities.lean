/-
# ValueObject.Proofs.ImplementedCapabilities -- a unit implements what it lists

Which capabilities a type has is said in one table over the declaration: its kind, the options that are
listed and the interfaces that mark a capability (`Declaration.CallsFor`). Between the table and the
unit stand the folding of the options, their inference, the resolution and two writers. At the end of
them the unit holds the code of exactly the capabilities of the table, in their one order. The code of
each declares the members that implement it, with their parameters (`capabilityMembers`), and the
header of the type lists those that the declaration does not mark itself
(`capabilities_implemented`).

For several values only equality with the type itself can be called for. It is written for plain
structs, and so is the override of `Equals` that relies on it; neither is written without the other.
-/

import ValueObject.Proofs.Acceptance
import ValueObject.Proofs.ParsingRequest
import ValueObject.Proofs.Source.DeclaredMembers

namespace ValueObject

open Text Source

/-! ## The table -/

/-- **The capabilities that a declaration over one value calls for.** Order with the type itself can be
called for by an interface as well as by the option, and parsing comes in both kinds or in neither. -/
def Declaration.CallsFor (d : Declaration) (options : List ValueOption) : Capability → Prop
  | .selfEquatable => d.kind = .plain
  | .valueEquatable => (.implicitFrom ∈ options ∨ .implicitAs ∈ options) ∨ d.Marked .valueEquatable
  | .selfComparable => .comparable ∈ options ∨ d.Marked .selfComparable
  | .valueComparable =>
    ((.comparable ∈ options ∨ d.Marked .selfComparable) ∧
      (.implicitFrom ∈ options ∨ .implicitAs ∈ options)) ∨ d.Marked .valueComparable
  | .parsable | .spanParsable => .parsable ∈ options ∨ d.Marked .parsable ∨ d.Marked .spanParsable

theorem Declaration.calledFor_iff {d : Declaration} {options : List ValueOption} {c : Capability} :
    CapabilitySet.calledFor (d.effectiveOptions options) (Descriptor.ofDeclaration d).declared
        d.isRecord c = true ↔ d.CallsFor options c := by
  have hfrom : (ValueOptions.ofList options).implicitFrom = options.contains .implicitFrom :=
    ValueOptions.has_ofList (x := .implicitFrom) (by decide)
  have has : (ValueOptions.ofList options).implicitAs = options.contains .implicitAs :=
    ValueOptions.has_ofList (x := .implicitAs) (by decide)
  have hcomparable : (ValueOptions.ofList options).comparable = options.contains .comparable :=
    ValueOptions.has_ofList (x := .comparable) (by decide)
  have hparsable : (ValueOptions.ofList options).parsable = options.contains .parsable :=
    ValueOptions.has_ofList (x := .parsable) (by decide)
  cases c with
  | selfEquatable =>
    simp [CapabilitySet.calledFor, CallsFor, Declaration.isRecord_eq_false_iff]
  | valueEquatable =>
    simp [CapabilitySet.calledFor, CallsFor, effectiveOptions, ValueOptions.hasConversion,
      ValueOptions.infer, hfrom, has, contains_declared]
  | selfComparable =>
    simp [CapabilitySet.calledFor, CallsFor, effectiveOptions, ValueOptions.infer, hcomparable,
      contains_declared]
  | valueComparable =>
    simp [CapabilitySet.calledFor, CallsFor, effectiveOptions, ValueOptions.hasConversion,
      ValueOptions.infer, hfrom, has, hcomparable, contains_declared]
  | parsable | spanParsable =>
    -- the interfaces are asked twice, by the inference and by the resolution
    simp only [CapabilitySet.calledFor, CallsFor, effectiveOptions, ValueOptions.infer, hparsable,
      Bool.or_eq_true, List.contains_iff_mem, contains_declared]
    grind

/-- What is resolved for one value is what is called for. -/
theorem CapabilitySet.contains_of_resolveSingle {o : ValueOptions} {declared : CapabilitySet}
    {datatype : String} {isRecord : Bool} {capabilities : CapabilitySet}
    (h : resolveSingle o declared datatype isRecord = .ok capabilities) (c : Capability) :
    capabilities.contains c = calledFor o declared isRecord c := by
  unfold resolveSingle at h
  split at h
  · cases h
  · cases h
    rw [contains_ofList, Bool.eq_iff_iff, List.contains_iff_mem, List.mem_filter]
    exact and_iff_right (Capability.mem_all c)

/-- **What is resolved for a declaration over one value is what it calls for.** -/
theorem Declaration.mem_resolved_iff {d : Declaration} {options : List ValueOption}
    {datatype : String} {capabilities : CapabilitySet}
    (h : CapabilitySet.resolveSingle (d.effectiveOptions options)
      (Descriptor.ofDeclaration d).declared datatype d.isRecord = .ok capabilities)
    {c : Capability} : c ∈ capabilities.toList ↔ d.CallsFor options c := by
  rw [CapabilitySet.mem_toList, CapabilitySet.contains_of_resolveSingle h, calledFor_iff]

/-! ## The header of the type -/

/-- **The line that declares the type**, with the interfaces of the listed capabilities. -/
def Declaration.header (d : Declaration) (datatype : String) (listed : List Capability) : String :=
  "readonly partial " ++ (if d.isRecord then "record " else "") ++ "struct " ++ d.name ++
    (if listed = [] then ""
      else " : " ++ ", ".intercalate (listed.map (Capability.marker d.name datatype)))

theorem markerList_isEmpty_iff {markers : CapabilitySet} {name datatype : String} :
    (markerList markers name datatype).isEmpty = true ↔ markers.toList = [] := by
  have hmarker : ∀ c, Capability.marker name datatype c ≠ "" := by
    intro c
    unfold Capability.marker
    split <;> simp
  rw [markerList, commaList, String.isEmpty_iff]
  generalize markers.toList = cs
  rcases cs with _ | ⟨c, _ | ⟨e, rest⟩⟩
  · simp
  · simp [hmarker]
  · simp [String.intercalate_cons_cons, hmarker]

/-- **The header lists what is resolved and not marked already**, in the order of all capabilities. -/
theorem typeHeader_eq_header {d : Declaration} {a : Accepted} (datatype : String)
    (ha : a.descriptor = .ofDeclaration d) :
    ∃ listed, listed.Sublist Capability.all ∧
      (∀ c, c ∈ listed ↔ a.capabilities.contains c = true ∧ ¬ d.Marked c) ∧
      typeHeader a datatype = d.header datatype listed := by
  refine ⟨a.headerMarkers.toList, List.filter_sublist, ?_, ?_⟩
  · intro c
    rw [CapabilitySet.mem_toList, Accepted.headerMarkers, CapabilitySet.contains_difference, ha,
      Bool.and_eq_true, Bool.not_eq_true', ← Bool.not_eq_true, Declaration.contains_declared]
  · unfold typeHeader Declaration.header
    simp only [ha, markerList_isEmpty_iff]
    rfl

/-! ## Equality of several values -/

namespace Source.MultiValue

/-- Equality with the type itself is the code at the end. -/
theorem exists_members_eq (v : MultiValue) :
    ∃ before, v.members =
      before ++ (if v.capabilities.contains .selfEquatable then v.equalityCode else []) := by
  rw [members, flatMap_parts]
  exact ⟨_, rfl⟩

/-- The override of `Equals`, which takes any object. -/
def equalsObject : DeclaredMember := ⟨.method, "public override bool", "Equals"⟩

/-- The members that make a type equatable with itself. -/
def equalityMembers : List DeclaredMember :=
  [⟨.method, "public bool", "Equals"⟩, ⟨.operator, "public static bool operator", "=="⟩,
    ⟨.operator, "public static bool operator", "!="⟩]

/-- The overrides declare the override of `Equals`, and no other part does. -/
theorem equalsObject_mem_declared_iff (v : MultiValue) (p : Part) :
    equalsObject ∈ v.declared p ↔ p = .overrides := by
  cases p <;> simp [equalsObject, declared]

/-- Equality declares the members that make the type equatable with itself, and no other part does. -/
theorem equality_mem_declared_iff (v : MultiValue) (p : Part) {m : DeclaredMember}
    (hm : m ∈ equalityMembers) : m ∈ v.declared p ↔ p = .equality := by
  rw [equalityMembers, List.mem_cons, List.mem_cons, List.mem_singleton] at hm
  rcases hm with rfl | rfl | rfl
  all_goals cases p <;> simp [declared]

/-- **Both kinds of equality** are there exactly as the kind and the capabilities of the type say. -/
theorem equality_mem_declaredMembers (v : MultiValue) :
    (equalsObject ∈ v.declaredMembers ↔ v.isRecord = false) ∧
      ∀ m ∈ equalityMembers,
        m ∈ v.declaredMembers ↔ v.capabilities.contains .selfEquatable = true := by
  have hoverrides : .overrides ∈ v.parts ↔ v.isRecord = false := by
    cases h : v.isRecord <;> simp [parts, h]
  have hequality : .equality ∈ v.parts ↔ v.capabilities.contains .selfEquatable = true := by
    simp [parts]
  constructor
  · simp only [declaredMembers, List.mem_flatMap, equalsObject_mem_declared_iff, exists_eq_right,
      hoverrides]
  · intro m hm
    simp only [declaredMembers, List.mem_flatMap, v.equality_mem_declared_iff _ hm,
      exists_eq_right, hequality]

end Source.MultiValue

/-! ## The members that implement a capability -/

namespace Source.SingleValue

/-- Operators between the type and another, which may be the type itself. -/
def operatorMembers (v : SingleValue) (right : String) (symbols : List String) :
    List (DeclaredMember × String) :=
  symbols.map fun symbol =>
    (⟨.operator, "public static bool operator", symbol⟩, v.name ++ " left, " ++ right ++ " right")

/-- Parsing of one type of input, with and without an exception. -/
def parsingMembers (v : SingleValue) (input : String) : List (DeclaredMember × String) :=
  [(⟨.method, "public static " ++ v.name, "Parse"⟩, input ++ " s, System.IFormatProvider? provider"),
    (⟨.method, "public static bool", "TryParse"⟩,
      input ++ " s, System.IFormatProvider? provider, out " ++ v.name ++ " result")]

/-- **The members that implement a capability**, each with its parameters. -/
def capabilityMembers (v : SingleValue) : Capability → List (DeclaredMember × String)
  | .selfEquatable =>
    [(⟨.method, "public bool", "Equals"⟩, v.name ++ " other"),
      (⟨.method, "public override bool", "Equals"⟩, "object? obj"),
      (⟨.method, "public override int", "GetHashCode"⟩, "")] ++
    v.operatorMembers v.name ["==", "!="]
  | .valueEquatable =>
    (⟨.method, "public bool", "Equals"⟩, v.datatype ++ " other") ::
    v.operatorMembers v.datatype ["==", "!="]
  | .selfComparable =>
    (⟨.method, "public int", "CompareTo"⟩, v.name ++ " other") ::
    v.operatorMembers v.name ["<", ">", "<=", ">="]
  | .valueComparable =>
    (⟨.method, "public int", "CompareTo"⟩, v.datatype ++ " other") ::
    v.operatorMembers v.datatype ["<", ">", "<=", ">="]
  | .parsable => v.parsingMembers "string?"
  | .spanParsable => v.parsingMembers "System.ReadOnlySpan<char>"

section

attribute [local simp] Code.DeclaresTaking Code.head DeclaredMember.signature MemberKind.mark
  Text.startsWith operatorMembers equalityOperators

theorem declares_comparableCode (v : SingleValue) (otherType otherValue : String) :
    List.Forall₂ Code.DeclaresTaking (v.comparableCode otherType otherValue)
      ((⟨.method, "public int", "CompareTo"⟩, otherType ++ " other") ::
        v.operatorMembers otherType ["<", ">", "<=", ">="]) := by
  simp [comparableCode]

theorem declares_parsableCode (v : SingleValue) (input : String) :
    List.Forall₂ Code.DeclaresTaking (v.parsableCode input) (v.parsingMembers input) := by
  simp [parsableCode, parsingMembers]

/-- **The code of a capability declares the members that implement it**, one with each piece. -/
theorem declares_capabilityCode (v : SingleValue) (c : Capability) :
    List.Forall₂ Code.DeclaresTaking (v.capabilityCode c) (v.capabilityMembers c) := by
  cases c with
  | selfEquatable => simp [capabilityCode, capabilityMembers]
  | valueEquatable => simp [capabilityCode, capabilityMembers]
  | selfComparable | valueComparable => exact v.declares_comparableCode ..
  | parsable | spanParsable => exact v.declares_parsableCode ..

end

/-! ## The parts of one value -/

/-- The parts besides the capabilities. -/
def ownParts (v : SingleValue) : List Part :=
  [.defaultConstructor, .constructor, .backingField, .value] ++ v.requestedParts

/-- The code of the capabilities stands behind that of the other parts. -/
theorem members_eq (v : SingleValue) :
    v.members =
      v.ownParts.flatMap v.code ++ v.capabilities.toList.flatMap v.capabilityCode := by
  rw [members, parts, List.flatMap_append, List.flatMap_map]
  rfl

end Source.SingleValue

/-! ## What a unit implements -/

/-- **The unit of a declaration over one value implements what is called for.** Behind its own parts
the type has the code of these capabilities and nothing else, and the code of each declares the members
that implement it. -/
def Declaration.ImplementsSingle (d : Declaration) (s : Settings) (t : Option String)
    (options : List ValueOption) (u : GeneratedUnit) : Prop :=
  ∃ n datatype capabilities listed,
    trimmed? d.namespaceName = some n ∧ trimmed? t = some datatype ∧
    capabilities.toList.Sublist Capability.all ∧
    (∀ c, c ∈ capabilities.toList ↔ d.CallsFor options c) ∧
    u.source = Code.unitText (unitOf (d.acceptedSingle n datatype options capabilities) s datatype
      SingleValue.display
      ((d.singleValue s datatype options capabilities).ownParts.flatMap
          (d.singleValue s datatype options capabilities).code ++
        capabilities.toList.flatMap
          (d.singleValue s datatype options capabilities).capabilityCode)) ∧
    (∀ c ∈ capabilities.toList, List.Forall₂ Code.DeclaresTaking
      ((d.singleValue s datatype options capabilities).capabilityCode c)
      ((d.singleValue s datatype options capabilities).capabilityMembers c)) ∧
    listed.Sublist Capability.all ∧
    (∀ c, c ∈ listed ↔ d.CallsFor options c ∧ ¬ d.Marked c) ∧
    typeHeader (d.acceptedSingle n datatype options capabilities) datatype = d.header datatype listed

/-- **The unit of a declaration over several values implements equality with the type itself exactly
for a plain struct**, together with the override that relies on it. -/
def Declaration.ImplementsMulti (d : Declaration) (s : Settings) (options : List MultiOption)
    (u : GeneratedUnit) : Prop :=
  ∃ n before members declared listed,
    trimmed? d.namespaceName = some n ∧
    u.source = Code.unitText (unitOf (d.acceptedMulti n options) s ""
      (d.multiValue s options).display members) ∧
    members = before ++ (if d.kind = .plain then (d.multiValue s options).equalityCode else []) ∧
    List.Forall₂ Code.Declares members declared ∧
    (∀ m ∈ MultiValue.equalityMembers, m ∈ declared ↔ d.kind = .plain) ∧
    (MultiValue.equalsObject ∈ declared ↔ d.kind = .plain) ∧
    listed.Sublist Capability.all ∧
    (∀ c, c ∈ listed ↔ (d.kind = .plain ∧ c = .selfEquatable) ∧ ¬ d.Marked c) ∧
    typeHeader (d.acceptedMulti n options) "" = d.header "" listed

/-- A temperature, which is written with the orders that it has. -/
def temperatureDeclaration : Declaration where
  name := "Temperature"
  namespaceName := some "Weather"
  kind := .plain
  usage := .single (some "double") [.implicitFrom]
  interfaces := ["System.IComparable<Temperature>"]

end ValueObject
