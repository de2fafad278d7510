/-
# ValueObject.Descriptor -- what a declaration says about its value object

A **descriptor** is a declaration read once: the datatype trimmed, the options folded, the fields
collected, the capability interfaces recognised, and two methods looked for that generated code
works with. These are

* the **predicate** `static bool IsValid(...)`, which is not partial, and
* the **factory** `static partial T From(...)`, which returns the type itself,

each over the datatype or over the types of all fields in order. A descriptor may still be
malformed; deciding that is left to `ValueObject.Review`.
-/

import ValueObject.Capability
import ValueObject.Field
import ValueObject.TypeName

namespace ValueObject

/-! ## Recognising interfaces -/

namespace CapabilitySet

/-- The name denotes the type called `name`, short or qualified. -/
def namesType (argument name : String) : Bool :=
  TypeName.qualifies (TypeName.canonical argument) name

/-- The name denotes the datatype, if there is one. -/
def namesDatatype (argument : String) (datatype : Option String) : Bool :=
  datatype.any (TypeName.same argument)

/-- The capability that one interface marks on the type called `name`. An argument that names the
type itself is taken so even if it names the datatype too. -/
def marked? (name : String) (datatype : Option String) (interface : String) : Option Capability :=
  match TypeName.splitGeneric interface with
  | none => none
  | some (base, argument) =>
    if namesType argument name then
      match base with
      | "IEquatable" => some .selfEquatable
      | "IComparable" => some .selfComparable
      | "IParsable" => some .parsable
      | "ISpanParsable" => some .spanParsable
      | _ => none
    else if namesDatatype argument datatype then
      match base with
      | "IEquatable" => some .valueEquatable
      | "IComparable" => some .valueComparable
      | _ => none
    else none

/-- **The capabilities that the interfaces of a declaration mark.** Any other interface is passed
over. -/
def detect (interfaces : List String) (name : String) (datatype : Option String) : CapabilitySet :=
  ofList (interfaces.filterMap (marked? name datatype))

end CapabilitySet

/-! ## Descriptors -/

/-- What a value object holds. -/
inductive Shape where
  | single (datatype : Option String) (options : ValueOptions)
  | multi (fields : List Field) (options : MultiOptions)
  deriving DecidableEq, Repr

/-- The types of the constructor's parameters, unless the datatype is unknown. -/
def Shape.parameterTypes? : Shape → Option (List String)
  | single datatype _ => datatype.map ([·])
  | multi fields _ => some (fields.map Field.typeName)

/-- **A declaration, read.** -/
structure Descriptor where
  name : String
  namespaceName : Option String
  shape : Shape
  isRecord : Bool
  declared : CapabilitySet
  predicate : Option String
  factory : Option String
  location : Option Location
  deriving DecidableEq, Repr

namespace Descriptor

/-- The name of the predicate. -/
def predicateName : String := "IsValid"

/-- The name of the factory. -/
def factoryName : String := "From"

/-- The parameters have the expected types, one for one. -/
def parametersMatch (parameters : List Parameter) (types : List String) : Bool :=
  parameters.length == types.length &&
    (parameters.zip types).all fun p => TypeName.same p.1.typeName p.2

/-- The method is the predicate over these types. -/
def isPredicate (types : List String) (m : Method) : Bool :=
  m.name == predicateName && m.isStatic && !m.isPartial && TypeName.same m.returnType "bool" &&
    parametersMatch m.parameters types

/-- The method is the factory of the type called `name` over these types. -/
def isFactory (name : String) (types : List String) (m : Method) : Bool :=
  m.name == factoryName && m.isStatic && m.isPartial &&
    TypeName.qualifies (Text.trim m.returnType) name && parametersMatch m.parameters types

/-- The shape that an attribute gives a declaration. A blank datatype is unknown. -/
def shapeOf (d : Declaration) : Shape :=
  match d.usage with
  | .single datatype options => .single (Text.trimmed? datatype) (.ofList options)
  | .multi options => .multi (Field.collect d) (.ofList options)

/-- The datatype of a single value, if it is known. -/
def datatype? : Shape → Option String
  | .single datatype _ => datatype
  | .multi _ _ => none

/-- **Reads a declaration.** With the datatype unknown there is neither predicate nor factory. -/
def ofDeclaration (d : Declaration) : Descriptor :=
  let shape := shapeOf d
  let find (p : List String → Method → Bool) : Option String :=
    shape.parameterTypes?.bind fun types => (d.methods.find? (p types)).map Method.name
  { name := d.name
    namespaceName := d.namespaceName
    shape
    isRecord := d.isRecord
    declared := .detect d.interfaces d.name (datatype? shape)
    predicate := find isPredicate
    factory := find (isFactory d.name)
    location := d.location }

/-- The file that holds the generated code. -/
def hintName (d : Descriptor) : String :=
  d.name ++ "_ValueObject.g.cs"

/-- The value object holds several values. -/
def isMulti (d : Descriptor) : Bool :=
  match d.shape with
  | .single _ _ => false
  | .multi _ _ => true

end Descriptor

end ValueObject
