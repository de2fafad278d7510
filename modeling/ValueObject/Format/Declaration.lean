/-
# ValueObject.Format.Declaration -- declarations as data

How a declaration and its parts are read out of data and written into it. For each part there are
its fields in order, a reader of its slots, a reader of a datum, and a writer. What is written has
every field and reads back as the same part.

A member is a **tagged** record: the key `member` says whether it is a method or a property. The
tag may stand anywhere in a table but must stand there once; in a list it comes first.
-/

import ValueObject.Data.Record
import ValueObject.Declaration

namespace ValueObject

open Data

/-! ## Locations and parameters -/

namespace Location

/-- The fields of a location. -/
def fields : List String := ["file", "line", "column"]

/-- A location from its slots. The column is 1 where none is given. -/
def ofSlots (s : Slots) : Option Location := do
  let file ← s.required "file" Datum.text?
  let line ← s.required "line" Datum.word?
  let column ← s.orDefault "column" 1 Datum.word?
  some { file, line, column }

/-- Reads a location. -/
def ofDatum? (dialect : Dialect) (d : Datum) : Option Location :=
  (dialect.slots? fields d).bind ofSlots

/-- Writes a location. -/
def toDatum (l : Location) : Datum :=
  .table [("file", .text l.file), ("line", .integer l.line.toNat),
    ("column", .integer l.column.toNat)]

/-- Writes a location, or nothing. -/
def optionToDatum (l : Option Location) : Datum :=
  l.elim .null toDatum

end Location

namespace Parameter

/-- The fields of a parameter. -/
def fields : List String := ["name", "type_name"]

/-- A parameter from its slots. -/
def ofSlots (s : Slots) : Option Parameter := do
  let name ← s.required "name" Datum.text?
  let typeName ← s.required "type_name" Datum.text?
  some { name, typeName }

/-- Reads a parameter. -/
def ofDatum? (dialect : Dialect) (d : Datum) : Option Parameter :=
  (dialect.slots? fields d).bind ofSlots

/-- Writes a parameter. -/
def toDatum (p : Parameter) : Datum :=
  .table [("name", .text p.name), ("type_name", .text p.typeName)]

end Parameter

/-! ## Choices -/

namespace Accessor

/-- The name of an accessor. -/
def name : Accessor → String
  | get => "get"
  | set => "set"
  | init => "init"

/-- The accessors by name. -/
def byName : List (String × Accessor) :=
  [get, set, init].map fun a => (a.name, a)

/-- Reads an accessor. -/
def ofDatum? (dialect : Dialect) : Datum → Option Accessor :=
  dialect.choice? byName

/-- Writes an accessor. -/
def toDatum (a : Accessor) : Datum :=
  .text a.name

end Accessor

namespace DeclarationKind

/-- The name of a kind. -/
def name : DeclarationKind → String
  | plain => "struct"
  | record => "record_struct"

/-- The kinds by name. -/
def byName : List (String × DeclarationKind) :=
  [plain, record].map fun k => (k.name, k)

/-- Reads a kind. -/
def ofDatum? (dialect : Dialect) : Datum → Option DeclarationKind :=
  dialect.choice? byName

/-- Writes a kind. -/
def toDatum (k : DeclarationKind) : Datum :=
  .text k.name

end DeclarationKind

namespace ValueOption

/-- The options by name. -/
def byName : List (String × ValueOption) :=
  all.map fun o => (o.name, o)

/-- Reads an option. -/
def ofDatum? (dialect : Dialect) : Datum → Option ValueOption :=
  dialect.choice? byName

/-- Writes an option. -/
def toDatum (o : ValueOption) : Datum :=
  .text o.name

end ValueOption

namespace MultiOption

/-- The options by name. -/
def byName : List (String × MultiOption) :=
  all.map fun o => (o.name, o)

/-- Reads an option. -/
def ofDatum? (dialect : Dialect) : Datum → Option MultiOption :=
  dialect.choice? byName

/-- Writes an option. -/
def toDatum (o : MultiOption) : Datum :=
  .text o.name

end MultiOption

/-! ## Members -/

namespace Method

/-- The fields of a method, after its tag. -/
def fields : List String :=
  ["name", "is_static", "is_partial", "return_type", "parameters", "location"]

/-- A method from its slots. -/
def ofSlots (dialect : Dialect) (s : Slots) : Option Method := do
  let name ← s.required "name" Datum.text?
  let isStatic ← s.orDefault "is_static" false Datum.bool?
  let isPartial ← s.orDefault "is_partial" false Datum.bool?
  let returnType ← s.required "return_type" Datum.text?
  let parameters ← s.orDefault "parameters" [] (Datum.list? (Parameter.ofDatum? dialect))
  let location ← s.orDefault "location" none (Datum.optional? (Location.ofDatum? dialect))
  some { name, isStatic, isPartial, returnType, parameters, location }

/-- The entries of a method, after its tag. -/
def entries (m : Method) : List (String × Datum) :=
  [("name", .text m.name), ("is_static", .bool m.isStatic), ("is_partial", .bool m.isPartial),
    ("return_type", .text m.returnType), ("parameters", .list (m.parameters.map Parameter.toDatum)),
    ("location", Location.optionToDatum m.location)]

end Method

namespace Property

/-- The fields of a property, after its tag. -/
def fields : List String :=
  ["name", "type_name", "is_public", "is_partial", "accessors", "returns_by_ref", "is_value_type",
    "location"]

/-- A property from its slots. -/
def ofSlots (dialect : Dialect) (s : Slots) : Option Property := do
  let name ← s.required "name" Datum.text?
  let typeName ← s.required "type_name" Datum.text?
  let isPublic ← s.orDefault "is_public" true Datum.bool?
  let isPartial ← s.orDefault "is_partial" true Datum.bool?
  let accessors ← s.orDefault "accessors" [.get] (Datum.list? (Accessor.ofDatum? dialect))
  let returnsByRef ← s.orDefault "returns_by_ref" false Datum.bool?
  let isValueType ← s.orDefault "is_value_type" false Datum.bool?
  let location ← s.orDefault "location" none (Datum.optional? (Location.ofDatum? dialect))
  some
    { name, typeName, isPublic, isPartial, accessors, returnsByRef, isValueType, location }

/-- The entries of a property, after its tag. -/
def entries (p : Property) : List (String × Datum) :=
  [("name", .text p.name), ("type_name", .text p.typeName), ("is_public", .bool p.isPublic),
    ("is_partial", .bool p.isPartial), ("accessors", .list (p.accessors.map Accessor.toDatum)),
    ("returns_by_ref", .bool p.returnsByRef), ("is_value_type", .bool p.isValueType),
    ("location", Location.optionToDatum p.location)]

end Property

namespace Member

/-- The key of the tag. -/
def tagKey : String := "member"

/-- The tag of a method. -/
def methodTag : String := "method"

/-- The tag of a property. -/
def propertyTag : String := "property"

/-- The tag of a member and the datum of the rest. -/
def untag? : Datum → Option (String × Datum)
  | .table entries =>
    match entries.filter (·.1 == tagKey) with
    | [(_, .text tag)] => some (tag, .table (entries.filter (·.1 != tagKey)))
    | _ => none
  | .list (.text tag :: items) => some (tag, .list items)
  | _ => none

/-- The rest of a member under its tag. -/
def ofTagged? (tag : String) (rest : Datum) : Option Member :=
  let dialect := Dialect.tagged
  if tag = methodTag then
    ((dialect.slots? Method.fields rest).bind (Method.ofSlots dialect)).map method
  else if tag = propertyTag then
    ((dialect.slots? Property.fields rest).bind (Property.ofSlots dialect)).map property
  else none

/-- The whole of a tagged record is held while its tag is looked for, and what can be held is
bounded: whole numbers of 64 bits, and no deeper nesting than the dialect allows. -/
def holds (dialect : Dialect) (d : Datum) : Bool :=
  d.isHeld Datum.fitsWord && dialect.taggedNesting.all fun limit => decide (d.nesting ≤ limit)

/-- **Reads a member.** -/
def ofDatum? (dialect : Dialect) (d : Datum) : Option Member :=
  if holds dialect d then (untag? d).bind fun (tag, rest) => ofTagged? tag rest else none

/-- Writes a member. -/
def toDatum : Member → Datum
  | method m => .table ((tagKey, .text methodTag) :: m.entries)
  | property p => .table ((tagKey, .text propertyTag) :: p.entries)

end Member

/-! ## Attributes -/

namespace Attribute

/-- The key of an attribute on a single value. -/
def singleKey : String := "value_object"

/-- The key of an attribute on several values. -/
def multiKey : String := "multi_value_object"

/-- The arguments of an attribute on a single value. -/
def singleFields : List String := ["datatype", "options"]

/-- The arguments of an attribute on several values. -/
def multiFields : List String := ["options"]

/-- An attribute on a single value from the slots of its arguments. -/
def singleOfSlots (dialect : Dialect) (s : Slots) : Option Attribute := do
  let datatype ← s.orDefault "datatype" none (Datum.optional? Datum.text?)
  let options ← s.orDefault "options" [] (Datum.list? (ValueOption.ofDatum? dialect))
  some (.single datatype options)

/-- An attribute on several values from the slots of its arguments. -/
def multiOfSlots (dialect : Dialect) (s : Slots) : Option Attribute := do
  let options ← s.orDefault "options" [] (Datum.list? (MultiOption.ofDatum? dialect))
  some (.multi options)

/-- **Reads an attribute**: a table of which the only key names it. -/
def ofDatum? (dialect : Dialect) : Datum → Option Attribute
  | .table [(key, d)] =>
    if key = singleKey then
      if dialect.admitsVariant singleFields d then
        (dialect.slots? singleFields d).bind (singleOfSlots dialect)
      else none
    else if key = multiKey then
      if dialect.admitsVariant multiFields d then
        (dialect.slots? multiFields d).bind (multiOfSlots dialect)
      else none
    else none
  | _ => none

/-- Writes an attribute. -/
def toDatum : Attribute → Datum
  | single datatype options =>
    .table [(singleKey, .table [("datatype", .ofText? datatype),
      ("options", .list (options.map ValueOption.toDatum))])]
  | multi options =>
    .table [(multiKey, .table [("options", .list (options.map MultiOption.toDatum))])]

end Attribute

/-! ## Declarations -/

namespace Declaration

/-- The fields of a declaration. -/
def fields : List String :=
  ["name", "namespace", "kind", "attribute", "interfaces", "members", "location"]

/-- A declaration from its slots. -/
def ofSlots (dialect : Dialect) (s : Slots) : Option Declaration := do
  let name ← s.required "name" Datum.text?
  let namespaceName ← s.orDefault "namespace" none (Datum.optional? Datum.text?)
  let kind ← s.orDefault "kind" .record (DeclarationKind.ofDatum? dialect)
  let usage ← s.required "attribute" (Attribute.ofDatum? dialect)
  let interfaces ← s.orDefault "interfaces" [] (Datum.list? Datum.text?)
  let members ← s.orDefault "members" [] (Datum.list? (Member.ofDatum? dialect))
  let location ← s.orDefault "location" none (Datum.optional? (Location.ofDatum? dialect))
  some { name, namespaceName, kind, usage, interfaces, members, location }

/-- **Reads a declaration.** -/
def ofDatum? (dialect : Dialect) (d : Datum) : Option Declaration :=
  (dialect.slots? fields d).bind (ofSlots dialect)

/-- **Writes a declaration.** -/
def toDatum (d : Declaration) : Datum :=
  .table [("name", .text d.name), ("namespace", .ofText? d.namespaceName),
    ("kind", d.kind.toDatum), ("attribute", d.usage.toDatum),
    ("interfaces", .list (d.interfaces.map .text)),
    ("members", .list (d.members.map Member.toDatum)),
    ("location", Location.optionToDatum d.location)]

end Declaration

end ValueObject
