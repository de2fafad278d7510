/-
# ValueObject.Source.SingleValue -- the members of a type over one value

The members come in **parts**. Four parts every type has: the default constructor, the constructor,
the backing field and the property. The options, the predicate and the factory call for five more,
and each capability is a part of its own. `parts` says which parts there are and in which order;
`code` says what each part is.
-/

import ValueObject.Source.Frame

namespace ValueObject.Source

/-- A type over one value, as its code is written. -/
structure SingleValue where
  name : String
  datatype : String
  options : ValueOptions
  predicate : Option String
  factory : Option String
  capabilities : CapabilitySet
  runtime : String

namespace SingleValue

/-- A part of the type. -/
inductive Part where
  | defaultConstructor
  | constructor
  | backingField
  | value
  | fromRaw
  | toRaw
  | factory
  | toText
  | tryCreate
  | capability (c : Capability)
  deriving DecidableEq, Repr

/-- The parts that options, predicate and factory call for. -/
def requestedParts (v : SingleValue) : List Part :=
  (if v.options.implicitFrom then [.fromRaw] else []) ++
  (if v.options.implicitAs then [.toRaw] else []) ++
  (if v.options.explicitFrom || v.factory.isSome then [.factory] else []) ++
  (if v.options.toText then [.toText] else []) ++
  (if v.predicate.isSome then [.tryCreate] else [])

/-- **The parts of the type**, in order. -/
def parts (v : SingleValue) : List Part :=
  [.defaultConstructor, .constructor, .backingField, .value] ++ v.requestedParts ++
    v.capabilities.toList.map .capability

/-! ## The code of a part -/

/-- The constructor. With a predicate it assigns only a value that the predicate holds of. -/
def constructorCode (v : SingleValue) : Code :=
  let signature := access v.options.constructor ++ " " ++ v.name ++ "(" ++ v.datatype ++ " value)"
  match v.predicate with
  | none => .line (signature ++ " => _value = value;")
  | some predicate =>
    .block signature
      [.line ("if (" ++ v.name ++ "." ++ predicate ++ "(value)) _value = value;"),
        .line ("else " ++ throwing v.runtime
          ("$\"Validation Failed. The value '" ++ Code.braced "value" ++
            "' is not valid for Value Object '" ++ v.name ++ "'.\"") ++ ";")]

/-- The property that reads the value. -/
def valueCode (v : SingleValue) : Code :=
  .line ("public " ++ v.datatype ++ " Value => _value ?? " ++
    throwing v.runtime
      ("\"ValueObject '" ++ v.name ++ "' was not initialized with a valid value.\"") ++ ";")

/-- `Try`, which makes an instance of a value that the predicate holds of. -/
def tryCode (v : SingleValue) (predicate : String) : Code :=
  .block ("public static bool Try(" ++ v.datatype ++ " value, out " ++ v.name ++ " valueObject)")
    [.line ("if (" ++ v.name ++ "." ++ predicate ++ "(value)) " ++
        Code.braced " valueObject = new(value); return true; "),
      .line "valueObject = default;",
      .line "return false;"]

/-- `CompareTo` and the four operators that ask it. -/
def comparableCode (v : SingleValue) (otherType otherValue : String) : List Code :=
  .line ("public int CompareTo(" ++ otherType ++ " other) => Value.CompareTo(" ++ otherValue ++
    ");") ::
  ["<", ">", "<=", ">="].map fun op =>
    .line ("public static bool operator " ++ op ++ "(" ++ v.name ++ " left, " ++ otherType ++
      " right) => left.CompareTo(right) " ++ op ++ " 0;")

/-- What `TryParse` does with a value that it has parsed. With a predicate the value goes through
`Try`, since an invalid value must not throw here. -/
def parsedCode (v : SingleValue) : String :=
  match v.predicate with
  | some _ => "return " ++ v.name ++ ".Try(dtResult, out result);"
  | none => Code.braced " result = new(dtResult); return true; "

/-- `Parse` and `TryParse` for one type of input. -/
def parsableCode (v : SingleValue) (input : String) : List Code :=
  [.line ("public static " ++ v.name ++ " Parse(" ++ input ++
      " s, System.IFormatProvider? provider) => new(" ++ v.datatype ++ ".Parse(s, provider));"),
    .block ("public static bool TryParse(" ++ input ++
        " s, System.IFormatProvider? provider, out " ++ v.name ++ " result)")
      [.line ("if (" ++ v.datatype ++ ".TryParse(s, provider, out var dtResult)) " ++
          v.parsedCode),
        .line "result = default;",
        .line "return false;"]]

/-- The code of one capability. -/
def capabilityCode (v : SingleValue) : Capability → List Code
  | .selfEquatable =>
    [.line ("public bool Equals(" ++ v.name ++ " other) => Value.Equals(other.Value);"),
      .line ("public override bool Equals(object? obj) => obj is " ++ v.name ++
        " other && Equals(other);"),
      .line "public override int GetHashCode() => _value?.GetHashCode() ?? 0;"] ++
    equalityOperators v.name v.name
  | .valueEquatable =>
    .line ("public bool Equals(" ++ v.datatype ++ " other) => Value.Equals(other);") ::
    equalityOperators v.name v.datatype
  | .selfComparable => v.comparableCode v.name "other.Value"
  | .valueComparable => v.comparableCode v.datatype "other"
  | .parsable => v.parsableCode "string?"
  | .spanParsable => v.parsableCode "System.ReadOnlySpan<char>"

/-- **The code of one part.** -/
def code (v : SingleValue) : Part → List Code
  | .defaultConstructor => [Source.defaultConstructor v.name v.runtime]
  | .constructor => [v.constructorCode]
  | .backingField =>
    [.line ("private readonly " ++ TypeName.nullable v.datatype ++ " _value;")]
  | .value => [v.valueCode]
  | .fromRaw =>
    [.line ("public static implicit operator " ++ v.name ++ "(" ++ v.datatype ++
      " value) => new(value);")]
  | .toRaw =>
    [.line ("public static implicit operator " ++ v.datatype ++ "(" ++ v.name ++
      " valueObject) => valueObject.Value;")]
  | .factory =>
    [.line ("public static " ++ partialWord v.factory.isSome ++ v.name ++ " From(" ++
      v.datatype ++ " value) => new(value);")]
  | .toText => [.line "public override string ToString() => Value.ToString();"]
  | .tryCreate => v.predicate.toList.map v.tryCode
  | .capability c => v.capabilityCode c

/-- The members of the type. -/
def members (v : SingleValue) : List Code :=
  v.parts.flatMap v.code

/-- What a debugger shows of the type. -/
def display : String :=
  "Value = " ++ Code.braced "Value"

end SingleValue

end ValueObject.Source
