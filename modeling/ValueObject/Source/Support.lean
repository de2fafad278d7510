/-
# ValueObject.Source.Support -- the support unit

Generated code and annotated declarations refer to an exception, three attributes and two flags
enums. The **support unit** declares them in the namespace of the settings. The enums are written
from the options and their bits, so the two cannot drift apart.
-/

import ValueObject.Options
import ValueObject.Settings
import ValueObject.Source.Frame

namespace ValueObject.Source.Support

/-- The file that holds the support unit. -/
def hintName : String := "ValueObject.Runtime.g.cs"

/-- Where the attributes may be written. -/
def attributeUsage : String :=
  "[System.AttributeUsage(System.AttributeTargets.Struct, AllowMultiple = false, Inherited = false)]"

/-- The exception that generated code throws. -/
def exceptionCode : Code :=
  .block "public class ValueObjectException : System.Exception"
    [.line ("public ValueObjectException() " ++ Code.braced " "),
      .line ("public ValueObjectException(string message) : base(message) " ++ Code.braced " "),
      .line ("public ValueObjectException(string message, System.Exception inner) : " ++
        "base(message, inner) " ++ Code.braced " ")]

/-- An attribute for a single value, which learns the datatype from `source`. -/
def singleAttributeCode (typeName parameters source : String) : Code :=
  .block ("public sealed class " ++ typeName ++ " : System.Attribute")
    [.block ("public ValueObjectAttribute(" ++ parameters ++ ")")
        [.line ("DataType = " ++ source ++ ";"),
          .line "Options = ValueObjectOptions.Constructor;"],
      .line ("public System.Type DataType " ++ Code.braced " get; "),
      .line ("public ValueObjectOptions Options " ++ Code.braced " get; set; ")]

/-- The attribute for several values. -/
def multiAttributeCode : Code :=
  .block "public sealed class MultiValueObjectAttribute : System.Attribute"
    [.line ("public MultiValueObjectAttribute() " ++
        Code.braced " Options = MultiValueObjectOptions.Constructor; "),
      .line ("public MultiValueObjectAttribute(MultiValueObjectOptions options) " ++
        Code.braced " Options = options; "),
      .line ("public MultiValueObjectOptions Options " ++ Code.braced " get; ")]

/-- A bit as two upper-case hexadecimal digits. -/
def hexByte (n : Nat) : String :=
  String.ofList ([n / 16 % 16, n % 16].map fun d => (Nat.digitChar d).toUpper)

/-- A flags enum: none, then each name with its bit. -/
def flagsEnum (name : String) (values : List (String × Nat)) : List Code :=
  [.line "[System.Flags]",
    .block ("public enum " ++ name)
      (.line "None = 0," ::
        values.map fun v => .line (v.1 ++ " = 0x" ++ hexByte v.2 ++ ","))]

/-- **The support unit.** -/
def unit (s : Settings) : List Code :=
  let made := Code.line (generatedCode s)
  let blank := Code.line ""
  [.line "// <auto-generated/>", .line "#nullable enable",
    .block ("namespace " ++ s.runtimeNamespace)
      ([made, .line "[System.Serializable]", exceptionCode, blank,
        made, .line attributeUsage,
        singleAttributeCode "ValueObjectAttribute" "System.Type dataType" "dataType", blank,
        made, .line attributeUsage,
        singleAttributeCode "ValueObjectAttribute<T>" "" "typeof(T)", blank,
        made, .line attributeUsage, multiAttributeCode, blank] ++
        flagsEnum "ValueObjectOptions" (ValueOption.all.map fun o => (o.name, o.bit)) ++
        [blank] ++
        flagsEnum "MultiValueObjectOptions" (MultiOption.all.map fun o => (o.name, o.bit))),
    .line "#nullable restore"]

end ValueObject.Source.Support
