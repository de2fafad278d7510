/-
# ValueObject.Identifier -- identifiers in generated code

What a property is called when it becomes a parameter or a backing field, how a reserved keyword
is made usable as a name, and which texts are namespaces.
-/

import ValueObject.Text.Affix
import ValueObject.Text.Lowercase
import ValueObject.Text.Numeric

namespace ValueObject.Identifier

open Text

/-! ## Reserved keywords -/

/-- The reserved keywords of C#. Contextual keywords are usable names and are not among them. -/
def keywords : List String := [
  "abstract", "as", "base", "bool", "break", "byte", "case", "catch", "char", "checked",
  "class", "const", "continue", "decimal", "default", "delegate", "do", "double", "else",
  "enum", "event", "explicit", "extern", "false", "finally", "fixed", "float", "for",
  "foreach", "goto", "if", "implicit", "in", "int", "interface", "internal", "is", "lock",
  "long", "namespace", "new", "null", "object", "operator", "out", "override", "params",
  "private", "protected", "public", "readonly", "ref", "return", "sbyte", "sealed", "short",
  "sizeof", "stackalloc", "static", "string", "struct", "switch", "this", "throw", "true",
  "try", "typeof", "uint", "ulong", "unchecked", "unsafe", "ushort", "using", "virtual",
  "void", "volatile", "while"]

/-- The name is a **reserved keyword**. -/
def isKeyword (name : String) : Bool :=
  keywords.contains name

/-- The name as a usable identifier: a reserved keyword gets the verbatim mark `@`. -/
def escape (name : String) : String :=
  if isKeyword name then "@" ++ name else name

/-! ## Names derived from a property -/

/-- The name with its first character in lower case. -/
def lowerFirst (name : String) : String :=
  String.ofList (Text.lowerFirst name.toList)

/-- The **parameter** that carries a property's value. -/
def parameterName (property : String) : String :=
  escape (lowerFirst property)

/-- The **backing field** that keeps a property's value. -/
def backingName (property : String) : String :=
  "_" ++ lowerFirst property

theorem lowerFirst_eq_of_backingName_eq {p q : String} (h : backingName p = backingName q) :
    lowerFirst p = lowerFirst q := by
  have := congrArg String.toList h
  simpa [backingName, String.ext_iff] using this

/-- Properties with different parameters have different backing fields. -/
theorem parameterName_eq_of_backingName_eq {p q : String} (h : backingName p = backingName q) :
    parameterName p = parameterName q := by
  simp [parameterName, lowerFirst_eq_of_backingName_eq h]

/-! ## Namespaces -/

/-- One segment of a namespace: an underscore or an alphabetic character, then any number of
underscores and alphanumeric characters. -/
def isSegment : List Char → Bool
  | [] => false
  | c :: rest =>
    (c == '_' || isAlphabetic c) && rest.all fun d => d == '_' || isAlphanumeric d

/-- A **namespace path**: segments joined by dots. -/
def isNamespacePath (name : String) : Bool :=
  (splitOn '.' name.toList).all isSegment

end ValueObject.Identifier
