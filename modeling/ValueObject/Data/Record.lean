/-
# ValueObject.Data.Record -- reading records out of data

A **record** has named fields in a fixed order. Its datum is a table, whose keys may stand in any
order and may be joined by keys that the record does not know, or a list, which gives the fields
by position. Either way, what is found is a **slot** for each field, filled or empty; a record is
read from its slots alone, so the two forms cannot come apart.

A **choice** is one of several names, written as a text, or as a table of which the only key is the
name.

The text formats differ in a few points. A `Dialect` states them.
-/

import ValueObject.Data.Datum

namespace ValueObject.Data

/-- How strictly a text format holds records and choices to their form. -/
structure Dialect where
  /-- A list may be longer than the record; what is left over is passed over. -/
  surplus : Bool
  /-- A chosen name may carry an empty table, not only nothing. -/
  emptyTable : Bool
  /-- A chosen name may carry an empty list. -/
  emptyList : Bool
  /-- A record that belongs to a chosen name may not have unknown keys. -/
  closedVariants : Bool
  /-- A record that belongs to a chosen name may be a list. -/
  listVariants : Bool
  /-- What stands under an unknown key must be held, too. -/
  heldUnknown : Bool
  /-- How deep a tagged record may nest, if there is a limit. -/
  taggedNesting : Option Nat
  deriving DecidableEq, Repr

namespace Dialect

/-- Data that is in memory already, with no text behind it. -/
def plain : Dialect where
  surplus := false
  emptyTable := false
  emptyList := false
  closedVariants := false
  listVariants := false
  heldUnknown := false
  taggedNesting := none

/-- JSON. Lists and tables may be nested 127 deep around and inside a tagged record; `outer` of
these levels lie around it. -/
def json (outer : Nat) : Dialect :=
  { plain with listVariants := true, taggedNesting := some (127 - outer) }

/-- TOML. -/
def toml : Dialect where
  surplus := true
  emptyTable := true
  emptyList := true
  closedVariants := true
  listVariants := true
  heldUnknown := true
  taggedNesting := none

/-- Inside a tagged record, in every format. -/
def tagged : Dialect :=
  { plain with emptyTable := true }

end Dialect

/-! ## Slots -/

/-- What was found for each field of a record. -/
abbrev Slots := String → Option Datum

namespace Slots

/-- A field that must be there. -/
def required {α : Type} (s : Slots) (name : String) (f : Datum → Option α) : Option α :=
  (s name).bind f

/-- A field that has a default. -/
def orDefault {α : Type} (s : Slots) (name : String) (value : α) (f : Datum → Option α) :
    Option α :=
  (s name).elim (some value) f

/-- The slots of entries, whatever their order. -/
def ofEntries (entries : List (String × Datum)) : Slots :=
  fun name => entries.lookup name

/-- The slots of items by position. -/
def ofItems (names : List String) (items : List Datum) : Slots :=
  fun name => (names.zip items).lookup name

end Slots

/-- No name stands before two of the entries. -/
def distinctKeys (names : List String) (entries : List (String × Datum)) : Bool :=
  names.all fun name => decide ((entries.filter (·.1 == name)).length ≤ 1)

/-- What stands under unknown keys is held, or the dialect does not ask. -/
def Dialect.holdsUnknown (dialect : Dialect) (names : List String)
    (entries : List (String × Datum)) : Bool :=
  !dialect.heldUnknown || entries.all fun e => names.contains e.1 || e.2.isHeld fun _ => true

/-- **The slots of a record.** A table may not repeat a field; a list may not be longer than the
record, unless the dialect says so. A moment counts as a table without known keys. -/
def Dialect.slots? (dialect : Dialect) (names : List String) : Datum → Option Slots
  | .table entries =>
    if distinctKeys names entries && dialect.holdsUnknown names entries then
      some (.ofEntries entries)
    else none
  | .list items =>
    if dialect.surplus || decide (items.length ≤ names.length) then some (.ofItems names items)
    else none
  | .moment _ => some fun _ => none
  | _ => none

/-! ## Choices -/

/-- What a chosen name may carry when it stands as a key. -/
def Dialect.carriesNothing (dialect : Dialect) : Datum → Bool
  | .null => true
  | .table [] => dialect.emptyTable
  | .list [] => dialect.emptyList
  | _ => false

/-- **One of several names.** -/
def Dialect.choice? {α : Type} (dialect : Dialect) (names : List (String × α)) :
    Datum → Option α
  | .text s => names.lookup s
  | .table [(s, d)] => if dialect.carriesNothing d then names.lookup s else none
  | _ => none

/-- The dialect admits the datum as the record that belongs to a chosen name. -/
def Dialect.admitsVariant (dialect : Dialect) (names : List String) : Datum → Bool
  | .table entries => !dialect.closedVariants || entries.all fun e => names.contains e.1
  | .list _ => dialect.listVariants
  | _ => true

end ValueObject.Data
