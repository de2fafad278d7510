/-
# ValueObject.Diagnostic -- what is reported about a malformed declaration

Each kind of diagnostic has a stable code, a title and a message that names the value object and,
where one is at fault, the field. Every diagnostic is an error: any of them keeps its declaration
from being generated.
-/

import ValueObject.Declaration

namespace ValueObject

/-- What a diagnostic reports. -/
inductive DiagnosticKind where
  | missingNamespace
  | unresolvableDatatype
  | stringNotParsable
  | fieldNotReadOnly
  | fieldReturnsByRef
  | noFields
  | fieldNameCollision
  deriving DecidableEq, Repr

namespace DiagnosticKind

/-- All kinds, in the order of their codes. -/
def all : List DiagnosticKind :=
  [missingNamespace, unresolvableDatatype, stringNotParsable, fieldNotReadOnly, fieldReturnsByRef,
    noFields, fieldNameCollision]

/-- The stable **code**. -/
def code : DiagnosticKind → String
  | missingNamespace => "VO001"
  | unresolvableDatatype => "VO002"
  | stringNotParsable => "VO003"
  | fieldNotReadOnly => "VO004"
  | fieldReturnsByRef => "VO005"
  | noFields => "VO006"
  | fieldNameCollision => "VO007"

/-- The title. -/
def title : DiagnosticKind → String
  | missingNamespace => "Value Object must be declared inside a namespace"
  | unresolvableDatatype => "Value Object must have a valid data type"
  | stringNotParsable => "Cannot specify the Parsable option for type string (System.String)"
  | fieldNotReadOnly => "Value Object properties must be read-only"
  | fieldReturnsByRef => "Value Object properties must not return by reference"
  | noFields => "Multi Value Object must declare properties"
  | fieldNameCollision => "Value Object properties must map to distinct parameter names"

/-- The kind is reported about one field. -/
def isFieldLevel : DiagnosticKind → Bool
  | fieldNotReadOnly | fieldReturnsByRef | fieldNameCollision => true
  | _ => false

/-- A property of a value object, as messages name it. -/
private def propertyOf (field subject : String) : String :=
  "The property '" ++ field ++ "' of value object '" ++ subject ++ "'"

/-- The **message** about the value object `subject` and, for some kinds, its field. -/
def message (subject field : String) : DiagnosticKind → String
  | missingNamespace =>
    "The value object '" ++ subject ++ "' must not be declared in the global namespace"
  | unresolvableDatatype =>
    "The value object '" ++ subject ++ "' does not seem to have a data type: " ++
      "[ValueObject(typeof(data-type-here))] or [ValueObject<data-type-here>]"
  | stringNotParsable =>
    "The value object '" ++ subject ++ "' specified the Parsable option which is not " ++
      "compatible with the System.String type"
  | fieldNotReadOnly => propertyOf field subject ++ " must be read-only (get only)"
  | fieldReturnsByRef => propertyOf field subject ++ " must not return by reference"
  | noFields =>
    "The multi value object '" ++ subject ++ "' does not declare any public partial properties"
  | fieldNameCollision =>
    propertyOf field subject ++ " maps to the same parameter name as another property"

end DiagnosticKind

/-- One reported fault. -/
structure Diagnostic where
  kind : DiagnosticKind
  subject : String
  field : Option String := none
  location : Option Location := none
  deriving DecidableEq, Repr

namespace Diagnostic

/-- How severe every diagnostic is. -/
def severity : String := "error"

/-- The message, with the value object and the field named. -/
def message (d : Diagnostic) : String :=
  d.kind.message d.subject (d.field.getD "")

/-- **The line that reports the diagnostic**, led by its position where it has one. -/
def text (d : Diagnostic) : String :=
  d.location.elim "" (fun l => l.text ++ ": ") ++
    severity ++ " " ++ d.kind.code ++ ": " ++ d.message

end Diagnostic

end ValueObject
