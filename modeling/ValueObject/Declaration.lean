/-
# ValueObject.Declaration -- an annotated type as its host hands it over

A **declaration** is a type with a value object attribute: its name and namespace, the attribute
with its options, the interfaces written on it and its members. Nothing in it has been checked;
`ValueObject.Descriptor` reads it and `ValueObject.Review` judges what was read.

The last section builds declarations step by step. A step that does not apply, such as an option
for several values on a single value, changes nothing.
-/

import ValueObject.Options

namespace ValueObject

/-- A position in a source file. -/
structure Location where
  file : String
  line : UInt32
  column : UInt32 := 1
  deriving DecidableEq, Repr

/-- The position as a compiler prints it. -/
def Location.text (l : Location) : String :=
  l.file ++ ":" ++ toString l.line.toNat ++ ":" ++ toString l.column.toNat

/-- A parameter of a method. -/
structure Parameter where
  name : String
  typeName : String
  deriving DecidableEq, Repr

/-- An accessor of a property. -/
inductive Accessor where
  | get
  | set
  | init
  deriving DecidableEq, Repr

/-- A declared method. -/
structure Method where
  name : String
  isStatic : Bool := false
  isPartial : Bool := false
  returnType : String
  parameters : List Parameter := []
  location : Option Location := none
  deriving DecidableEq, Repr

/-- A declared property. -/
structure Property where
  name : String
  typeName : String
  isPublic : Bool := true
  isPartial : Bool := true
  accessors : List Accessor := [.get]
  returnsByRef : Bool := false
  isValueType : Bool := false
  location : Option Location := none
  deriving DecidableEq, Repr

/-- A member of a declaration. -/
inductive Member where
  | method (m : Method)
  | property (p : Property)
  deriving DecidableEq, Repr

/-- The kind of the annotated type: a struct or a record struct. -/
inductive DeclarationKind where
  | plain
  | record
  deriving DecidableEq, Repr

/-- The value object attribute: on a single value of a datatype, which the host may have failed to
find, or on several values. -/
inductive Attribute where
  | single (datatype : Option String) (options : List ValueOption)
  | multi (options : List MultiOption)
  deriving DecidableEq, Repr

/-- **An annotated type.** -/
structure Declaration where
  name : String
  namespaceName : Option String := none
  kind : DeclarationKind := .record
  usage : Attribute
  interfaces : List String := []
  members : List Member := []
  location : Option Location := none
  deriving DecidableEq, Repr

/-- The method, if the member is one. -/
def Member.method? : Member → Option Method
  | method m => some m
  | property _ => none

/-- The property, if the member is one. -/
def Member.property? : Member → Option Property
  | method _ => none
  | property p => some p

namespace Declaration

/-- The type is a record struct. -/
def isRecord (d : Declaration) : Bool :=
  d.kind == .record

/-- What is no record is a plain struct. -/
theorem isRecord_eq_false_iff {d : Declaration} : d.isRecord = false ↔ d.kind = .plain := by
  unfold isRecord
  cases d.kind <;> decide

/-- The declared methods, in order. -/
def methods (d : Declaration) : List Method :=
  d.members.filterMap Member.method?

/-- The declared properties, in order. -/
def properties (d : Declaration) : List Property :=
  d.members.filterMap Member.property?

end Declaration

/-! ## Building members step by step -/

namespace Member

/-- `public partial T Name { get; }` -/
def ofProperty (name typeName : String) : Member :=
  property { name, typeName }

/-- A static method, which is partial or not. -/
def ofStatic (isPartial : Bool) (name returnType : String) (parameters : List Parameter) : Member :=
  method { name, isStatic := true, isPartial, returnType, parameters }

/-- A property with the change applied; a method as it is. -/
def mapProperty (f : Property → Property) : Member → Member
  | method m => method m
  | property p => property (f p)

/-- A property whose type is a value type. -/
def asValueType : Member → Member :=
  mapProperty fun p => { p with isValueType := true }

/-- A property that returns by reference. -/
def asByRef : Member → Member :=
  mapProperty fun p => { p with returnsByRef := true }

/-- A property with these accessors in place of its own. -/
def withAccessors (accessors : List Accessor) : Member → Member :=
  mapProperty fun p => { p with accessors }

/-- The member at a position. -/
def located (l : Location) : Member → Member
  | method m => method { m with location := some l }
  | property p => property { p with location := some l }

end Member

/-! ## Building declarations step by step -/

namespace Declaration

/-- A record struct over one value, outside any namespace. -/
def ofSingle (name : String) (datatype : Option String) : Declaration :=
  { name, usage := .single datatype [] }

/-- A record struct over several values, outside any namespace. -/
def ofMulti (name : String) : Declaration :=
  { name, usage := .multi [] }

/-- The declaration in a namespace. -/
def inNamespace (d : Declaration) (name : String) : Declaration :=
  { d with namespaceName := some name }

/-- The declaration with another kind. -/
def withKind (d : Declaration) (kind : DeclarationKind) : Declaration :=
  { d with kind }

/-- The declaration with more options for a single value. -/
def withOptions (d : Declaration) (more : List ValueOption) : Declaration :=
  match d.usage with
  | .single datatype options => { d with usage := .single datatype (options ++ more) }
  | .multi _ => d

/-- The declaration with more options for several values. -/
def withMultiOptions (d : Declaration) (more : List MultiOption) : Declaration :=
  match d.usage with
  | .single _ _ => d
  | .multi options => { d with usage := .multi (options ++ more) }

/-- The declaration with one more interface written on it. -/
def withInterface (d : Declaration) (name : String) : Declaration :=
  { d with interfaces := d.interfaces ++ [name] }

/-- The declaration with one more member. -/
def withMember (d : Declaration) (m : Member) : Declaration :=
  { d with members := d.members ++ [m] }

/-- The declaration at a position. -/
def located (d : Declaration) (l : Location) : Declaration :=
  { d with location := some l }

end Declaration

end ValueObject
