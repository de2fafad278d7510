/-
# ValueObject.Format.Report -- settings, diagnostics and review states as data

How the settings of the generator, its diagnostics and the states of a review are read out of data
and written into it. A diagnostic is written without a field or a location that it does not have;
everything else is written whole.
-/

import ValueObject.Format.Declaration
import ValueObject.Review
import ValueObject.Settings

namespace ValueObject

open Data

namespace Settings

/-- The fields of the settings. -/
def fields : List String :=
  ["runtime_namespace", "tool_name", "tool_version", "emit_runtime"]

/-- Settings from their slots. Whatever is missing has its default. -/
def ofSlots (s : Slots) : Option Settings := do
  let default : Settings := {}
  let runtimeNamespace ← s.orDefault "runtime_namespace" default.runtimeNamespace Datum.text?
  let toolName ← s.orDefault "tool_name" default.toolName Datum.text?
  let toolVersion ← s.orDefault "tool_version" default.toolVersion Datum.text?
  let emitRuntime ← s.orDefault "emit_runtime" default.emitRuntime Datum.bool?
  some { runtimeNamespace, toolName, toolVersion, emitRuntime }

/-- **Reads settings.** -/
def ofDatum? (dialect : Dialect) (d : Datum) : Option Settings :=
  (dialect.slots? fields d).bind ofSlots

/-- **Writes settings.** -/
def toDatum (s : Settings) : Datum :=
  .table [("runtime_namespace", .text s.runtimeNamespace), ("tool_name", .text s.toolName),
    ("tool_version", .text s.toolVersion), ("emit_runtime", .bool s.emitRuntime)]

end Settings

namespace DiagnosticKind

/-- The name of a kind. -/
def name : DiagnosticKind → String
  | missingNamespace => "missing_namespace"
  | unresolvableDatatype => "unresolvable_datatype"
  | stringNotParsable => "string_not_parsable"
  | fieldNotReadOnly => "field_not_read_only"
  | fieldReturnsByRef => "field_returns_by_ref"
  | noFields => "no_fields"
  | fieldNameCollision => "field_name_collision"

/-- The kinds by name. -/
def byName : List (String × DiagnosticKind) :=
  all.map fun k => (k.name, k)

/-- Reads a kind. -/
def ofDatum? (dialect : Dialect) : Datum → Option DiagnosticKind :=
  dialect.choice? byName

/-- Writes a kind. -/
def toDatum (k : DiagnosticKind) : Datum :=
  .text k.name

end DiagnosticKind

namespace Diagnostic

/-- The fields of a diagnostic. -/
def fields : List String := ["kind", "subject", "field", "location"]

/-- A diagnostic from its slots. -/
def ofSlots (dialect : Dialect) (s : Slots) : Option Diagnostic := do
  let kind ← s.required "kind" (DiagnosticKind.ofDatum? dialect)
  let subject ← s.required "subject" Datum.text?
  let field ← s.orDefault "field" none (Datum.optional? Datum.text?)
  let location ← s.orDefault "location" none (Datum.optional? (Location.ofDatum? dialect))
  some { kind, subject, field, location }

/-- **Reads a diagnostic.** -/
def ofDatum? (dialect : Dialect) (d : Datum) : Option Diagnostic :=
  (dialect.slots? fields d).bind (ofSlots dialect)

/-- The entries of a diagnostic. -/
def entries (d : Diagnostic) : List (String × Datum) :=
  [("kind", d.kind.toDatum), ("subject", .text d.subject)] ++
  (d.field.toList.map fun f => ("field", Datum.text f)) ++
  (d.location.toList.map fun l => ("location", l.toDatum))

/-- **Writes a diagnostic.** -/
def toDatum (d : Diagnostic) : Datum :=
  .table d.entries

end Diagnostic

namespace ReviewState

/-- The key of a state. -/
def key : ReviewState → String
  | pending => "pending"
  | accepted => "accepted"
  | rejected => "rejected"

/-- The states by key. -/
def byKey : List (String × ReviewState) :=
  [pending, accepted, rejected].map fun s => (s.key, s)

/-- Reads a state. -/
def ofDatum? (dialect : Dialect) : Datum → Option ReviewState :=
  dialect.choice? byKey

/-- Writes a state. -/
def toDatum (s : ReviewState) : Datum :=
  .text s.key

end ReviewState

end ValueObject
