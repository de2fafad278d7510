/-
# ValueObject.Source.MultiValue -- the members of a type over several values

As for one value, the members come in **parts**, and `parts` says which there are. Whatever a part
lists of the fields, it lists in the order of the fields: parameters, assignments, arguments,
backing fields, the texts shown, hashing and equality.
-/

import ValueObject.Source.Frame

namespace ValueObject.Source

/-- A type over several values, as its code is written. -/
structure MultiValue where
  name : String
  fields : List Field
  options : MultiOptions
  predicate : Option String
  factory : Option String
  isRecord : Bool
  capabilities : CapabilitySet
  runtime : String

namespace MultiValue

/-- A part of the type. -/
inductive Part where
  | defaultConstructor
  | constructor
  | property (f : Field)
  | overrides
  | factory
  | deconstruct
  | tryCreate
  | equality
  deriving DecidableEq, Repr

/-- **The parts of the type**, in order. -/
def parts (v : MultiValue) : List Part :=
  [.defaultConstructor, .constructor] ++ v.fields.map .property ++
  (if v.isRecord then [] else [.overrides]) ++
  (if v.options.explicitFrom || v.factory.isSome then [.factory] else []) ++
  (if v.options.deconstruct then [.deconstruct] else []) ++
  (if v.predicate.isSome then [.tryCreate] else []) ++
  (if v.capabilities.contains .selfEquatable then [.equality] else [])

/-- What is collected from the parts: from each part that there is, in order. -/
theorem flatMap_parts {α : Type} (v : MultiValue) (f : Part → List α) :
    v.parts.flatMap f =
      f .defaultConstructor ++ f .constructor ++ v.fields.flatMap (fun x => f (.property x)) ++
      (if v.isRecord then [] else f .overrides) ++
      (if v.options.explicitFrom || v.factory.isSome then f .factory else []) ++
      (if v.options.deconstruct then f .deconstruct else []) ++
      (if v.predicate.isSome then f .tryCreate else []) ++
      (if v.capabilities.contains .selfEquatable then f .equality else []) := by
  have hif (b : Bool) (p : Part) :
      (if b then [p] else []).flatMap f = if b then f p else [] := by
    cases b <;> simp
  have hifNot (b : Bool) (p : Part) :
      (if b then [] else [p]).flatMap f = if b then [] else f p := by
    cases b <;> simp
  simp only [parts, List.flatMap_append, List.flatMap_map, List.flatMap_cons, List.flatMap_nil,
    List.append_nil, hif, hifNot]

/-! ## What parts list of the fields -/

/-- The parameters, each with its type. -/
def parameters (v : MultiValue) : String :=
  commaList (v.fields.map fun f => f.typeName ++ " " ++ f.parameter)

/-- The parameters as arguments. -/
def arguments (v : MultiValue) : String :=
  commaList (v.fields.map Field.parameter)

/-- The names with their values, as a text that is filled in when it is shown. -/
def display (v : MultiValue) : String :=
  commaList (v.fields.map fun f => f.name ++ " = " ++ Code.braced f.name)

/-- The backing fields, each assigned its parameter. -/
def assignments (v : MultiValue) : List Code :=
  v.fields.map fun f => .line (f.backing ++ " = " ++ f.parameter ++ ";")

/-! ## The out parameter of `Try` -/

/-- The names tried for the out parameter: `valueObject`, then the same with 1, 2 and so on. -/
def outCandidate : Nat → String
  | 0 => "valueObject"
  | n + 1 => "valueObject" ++ toString (n + 1)

/-- The name is a parameter or a backing field already. -/
def isTaken (fields : List Field) (name : String) : Bool :=
  fields.any fun f => f.parameter == name || f.backing == name

/-- **The out parameter of `Try`**: the first candidate that is not taken. Each field takes one
candidate at most, so one of the first `n + 1` is free where there are `n` fields. -/
def outParameter (fields : List Field) : String :=
  let candidates := (List.range (fields.length + 1)).map outCandidate
  (candidates.find? fun c => !isTaken fields c).getD (outCandidate (fields.length + 1))

/-! ## The code of a part -/

/-- The constructor. With a predicate it assigns only values that the predicate holds of. -/
def constructorCode (v : MultiValue) : Code :=
  .block (access v.options.constructor ++ " " ++ v.name ++ "(" ++ v.parameters ++ ")")
    (match v.predicate with
    | none => v.assignments
    | some predicate =>
      [.block ("if (" ++ v.name ++ "." ++ predicate ++ "(" ++ v.arguments ++ "))") v.assignments,
        .line ("else " ++ throwing v.runtime
          ("\"Validation Failed. The specified values are not valid for Value Object '" ++ v.name ++
            "'.\"") ++ ";")])

/-- A backing field and the property that reads it. -/
def propertyCode (v : MultiValue) (f : Field) : List Code :=
  [.line ("private readonly " ++ TypeName.nullable f.typeName ++ " " ++ f.backing ++ ";"),
    .line ("public partial " ++ f.typeName ++ " " ++ f.name ++ " => " ++ f.backing ++ " ?? " ++
      throwing v.runtime
        ("\"ValueObject '" ++ v.name ++ "' was not initialized with a valid value for property '" ++
          f.name ++ "'.\"") ++ ";")]

/-- The most values that one call can combine into a hash. -/
def combineLimit : Nat := 8

/-- The hash of the backing fields: in one call, or one by one where they are too many. -/
def hashCode (v : MultiValue) : Code :=
  if v.fields.length ≤ combineLimit then
    .line ("public override int GetHashCode() => System.HashCode.Combine(" ++
      commaList (v.fields.map Field.backing) ++ ");")
  else
    .block "public override int GetHashCode()"
      ([.line "var hash = new System.HashCode();"] ++
        v.fields.map (fun f => .line ("hash.Add(" ++ f.backing ++ ");")) ++
        [.line "return hash.ToHashCode();"])

/-- Text, equality with any object, and hash, which a plain struct does not get by itself. -/
def overridesCode (v : MultiValue) : List Code :=
  [.line ("public override string ToString() => $\"" ++ v.name ++ " " ++
      Code.braced (Code.braced (" " ++ v.display ++ " ")) ++ "\";"),
    .line ("public override bool Equals(object? obj) => obj is " ++ v.name ++
      " other && Equals(other);"),
    v.hashCode]

/-- `Deconstruct`, which hands out every field. -/
def deconstructCode (v : MultiValue) : Code :=
  .block ("public void Deconstruct(" ++
      commaList (v.fields.map fun f => "out " ++ f.typeName ++ " " ++ f.parameter) ++ ")")
    (v.fields.map fun f => .line (f.parameter ++ " = " ++ f.name ++ ";"))

/-- `Try`, which makes an instance of values that the predicate holds of. -/
def tryCode (v : MultiValue) (predicate : String) : Code :=
  let out := outParameter v.fields
  .block ("public static bool Try(" ++ v.parameters ++ ", out " ++ v.name ++ " " ++ out ++ ")")
    [.line ("if (" ++ v.name ++ "." ++ predicate ++ "(" ++ v.arguments ++ ")) " ++
        Code.braced (" " ++ out ++ " = new(" ++ v.arguments ++ "); return true; ")),
      .line (out ++ " = default;"),
      .line "return false;"]

/-- Equality of one field with that of another instance. -/
def comparison (f : Field) : String :=
  if f.isValueType then f.name ++ ".Equals(other." ++ f.name ++ ")"
  else
    "System.Collections.Generic.EqualityComparer<" ++ f.typeName ++ ">.Default.Equals(" ++
      f.name ++ ", other." ++ f.name ++ ")"

/-- Equality with the type itself: equality of every field. -/
def equalityCode (v : MultiValue) : List Code :=
  .line ("public bool Equals(" ++ v.name ++ " other) => " ++
    " && ".intercalate (v.fields.map comparison) ++ ";") ::
  equalityOperators v.name v.name

/-- **The code of one part.** -/
def code (v : MultiValue) : Part → List Code
  | .defaultConstructor => [Source.defaultConstructor v.name v.runtime]
  | .constructor => [v.constructorCode]
  | .property f => v.propertyCode f
  | .overrides => v.overridesCode
  | .factory =>
    [.line ("public static " ++ partialWord v.factory.isSome ++ v.name ++ " From(" ++
      v.parameters ++ ") => new(" ++ v.arguments ++ ");")]
  | .deconstruct => [v.deconstructCode]
  | .tryCreate => v.predicate.toList.map v.tryCode
  | .equality => v.equalityCode

/-- The members of the type. -/
def members (v : MultiValue) : List Code :=
  v.parts.flatMap v.code

end MultiValue

end ValueObject.Source
