/-
# ValueObject.TypeName -- type names as a declaration writes them

One type may arrive under several names: `int`, `System.Int32` and `global::System.Int32` are the
same type. This module gives a type name its **canonical** spelling, on which every comparison of
types rests, and takes a generic name with one argument apart.

The canonical spelling is found in three steps, each taken once: the blanks around the name go,
then one leading `global::`, and what is left is looked up among the keyword aliases. A name that
is no alias is kept as it is.
-/

import ValueObject.Text.Affix
import ValueObject.Text.Blank

namespace ValueObject.TypeName

open Text

/-! ## Canonical spelling -/

/-- The keyword aliases and the `System` types that they stand for. -/
def aliases : List (String × String) := [
  ("bool", "System.Boolean"), ("byte", "System.Byte"), ("sbyte", "System.SByte"),
  ("char", "System.Char"), ("decimal", "System.Decimal"), ("double", "System.Double"),
  ("float", "System.Single"), ("int", "System.Int32"), ("uint", "System.UInt32"),
  ("nint", "System.IntPtr"), ("nuint", "System.UIntPtr"), ("long", "System.Int64"),
  ("ulong", "System.UInt64"), ("short", "System.Int16"), ("ushort", "System.UInt16"),
  ("object", "System.Object"), ("string", "System.String")]

/-- The name trimmed, without one leading `global::`. -/
def unqualified (name : String) : String :=
  String.ofList (dropLead "global::" (trimChars name.toList))

/-- The **canonical spelling** of a type name. -/
def canonical (name : String) : String :=
  (aliases.lookup (unqualified name)).getD (unqualified name)

/-- Two names denote the same type: their canonical spellings agree. -/
def same (a b : String) : Bool :=
  canonical a == canonical b

theorem same_iff {a b : String} : same a b = true ↔ canonical a = canonical b := by
  simp [same]

/-- The name denotes the type of texts. -/
def isString (name : String) : Bool :=
  canonical name == "System.String"

/-! ## Generic names -/

/-- A generic name with one argument, such as `System.IEquatable<int>`, as its base name and the
argument. The base loses a leading `global::` and then a leading `System.`; the argument reaches
from the first `<` to a `>` that must end the name. -/
def splitGeneric (name : String) : Option (String × String) :=
  let cs := trimChars name.toList
  match cs.dropWhile (· ≠ '<') with
  | [] => none
  | _ :: inner =>
    match inner.reverse with
    | '>' :: back =>
      let base := trimChars (cs.takeWhile (· ≠ '<'))
      some (String.ofList (dropLead "System." (dropLead "global::" base)),
        String.ofList (trimChars back.reverse))
    | _ => none

/-- The name is `short`, or ends with a dot and `short`: a qualified spelling of it. -/
def qualifies (name short : String) : Bool :=
  name == short || endsWith ("." ++ short) name

/-! ## Nullable names -/

/-- The type made **nullable**: a `?` at the end, which a nullable name already has. -/
def nullable (name : String) : String :=
  let name := trim name
  if endsWith "?" name then name else name ++ "?"

end ValueObject.TypeName
