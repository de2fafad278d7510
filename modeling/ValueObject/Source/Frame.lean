/-
# ValueObject.Source.Frame -- what every generated unit has around its members

A unit opens with three lines for the compiler, holds one namespace with one type in it, and ends
with the two lines that undo what the first three set. The type carries two attributes and, after
its name, the capability interfaces that its declaration does not mark already.
-/

import ValueObject.Review
import ValueObject.Settings
import ValueObject.Source.Code

namespace ValueObject.Source

/-- The compiler warning that generated code switches off. -/
def nullableWarning : String := "CS8604 // Possible null reference argument for parameter"

/-- The lines that open a unit. -/
def openingLines : List Code :=
  [.line "// <auto-generated/>", .line "#nullable enable",
    .line ("#pragma warning disable " ++ nullableWarning)]

/-- The lines that end a unit. -/
def closingLines : List Code :=
  [.line ("#pragma warning restore " ++ nullableWarning), .line "#nullable restore"]

/-- The attribute that names the tool. -/
def generatedCode (s : Settings) : String :=
  "[System.CodeDom.Compiler.GeneratedCode(\"" ++ s.toolName ++ "\", \"" ++ s.toolVersion ++ "\")]"

/-- Throws the exception of the support namespace with a message, which is code. -/
def throwing (runtime message : String) : String :=
  "throw new " ++ runtime ++ ".ValueObjectException(" ++ message ++ ")"

/-- Values with commas between them. -/
def commaList (parts : List String) : String :=
  ", ".intercalate parts

/-- The interfaces listed after the name of the type. -/
def markerList (markers : CapabilitySet) (name datatype : String) : String :=
  commaList (markers.toList.map (Capability.marker name datatype))

/-- The line that declares the type. -/
def typeHeader (a : Accepted) (datatype : String) : String :=
  let d := a.descriptor
  let markers := markerList a.headerMarkers d.name datatype
  "readonly partial " ++ (if d.isRecord then "record " else "") ++ "struct " ++ d.name ++
    (if markers.isEmpty then "" else " : " ++ markers)

/-- **A whole unit** around the members of its type. -/
def unitOf (a : Accepted) (s : Settings) (datatype display : String) (members : List Code) :
    List Code :=
  openingLines ++
  [.block ("namespace " ++ a.namespaceName)
    [.line (generatedCode s),
      .line ("[System.Diagnostics.DebuggerDisplay(\"" ++ display ++ "\")]"),
      .block (typeHeader a datatype) members]] ++
  closingLines

/-- The default constructor, which only throws. -/
def defaultConstructor (name runtime : String) : Code :=
  .line ("public " ++ name ++ "() => " ++
    throwing runtime
      ("\"Do not call the default constructor for ValueObject '" ++ name ++ "'.\"") ++ ";")

/-- The access of the constructor that takes the values. -/
def access (isPublic : Bool) : String :=
  if isPublic then "public" else "private"

/-- The word before the return type of a factory that completes one that the user declares. -/
def partialWord (isPartial : Bool) : String :=
  if isPartial then "partial " else ""

/-- Equality and inequality operators, which ask `Equals`. -/
def equalityOperators (name right : String) : List Code :=
  [.line ("public static bool operator ==(" ++ name ++ " left, " ++ right ++
      " right) => left.Equals(right);"),
    .line ("public static bool operator !=(" ++ name ++ " left, " ++ right ++
      " right) => !left.Equals(right);")]

end ValueObject.Source
