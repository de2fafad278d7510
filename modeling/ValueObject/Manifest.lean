/-
# ValueObject.Manifest -- manifests

A **manifest** is the settings of the generator together with the declarations to generate. It is
written in TOML or in JSON. A manifest is sound when its settings are, when every declaration has a
name, and when no two have the same, because each name is given one file.
-/

import ValueObject.Data.Json
import ValueObject.Data.Toml.Document
import ValueObject.Format.Report

namespace ValueObject

open Data

/-- Settings and declarations. -/
structure Manifest where
  settings : Settings := {}
  declarations : List Declaration := []
  deriving DecidableEq, Repr

/-- A text format for manifests. -/
inductive ManifestFormat where
  | toml
  | json
  deriving DecidableEq, Repr

/-- Why a manifest is not sound. -/
inductive ManifestError where
  | settings (cause : SettingsError)
  | blankName
  | duplicate (name : String)
  deriving DecidableEq, Repr

/-- The error in words, and then its cause, if it has one. -/
def ManifestError.messages : ManifestError → List String
  | settings cause => ["Invalid [generator] section", cause.message]
  | blankName => ["Declaration name cannot be empty"]
  | duplicate name => ["Duplicate declaration: " ++ name]

/-- What is said of a text that is no manifest. -/
def ManifestFormat.failure : ManifestFormat → String
  | toml => "Failed to parse manifest"
  | json => "Failed to parse JSON manifest"

namespace Manifest

/-! ## Reading and writing -/

/-- The fields of a manifest. -/
def fields : List String := ["generator", "declaration"]

/-- A manifest from its slots. -/
def ofSlots (dialect : Dialect) (s : Slots) : Option Manifest := do
  let settings ← s.orDefault "generator" {} (Settings.ofDatum? dialect)
  let declarations ← s.orDefault "declaration" [] (Datum.list? (Declaration.ofDatum? dialect))
  some { settings, declarations }

/-- Reads a manifest out of data. -/
def ofDatum? (dialect : Dialect) (d : Datum) : Option Manifest :=
  (dialect.slots? fields d).bind (ofSlots dialect)

/-- Writes a manifest as data. -/
def toDatum (m : Manifest) : Datum :=
  .table [("generator", m.settings.toDatum),
    ("declaration", .list (m.declarations.map Declaration.toDatum))]

/-- **Reads a manifest.** In JSON four levels lie around a member: the manifest, its declarations,
one of them, and its members. -/
def read? (format : ManifestFormat) (text : String) : Option Manifest :=
  match format with
  | .toml => (Toml.read text).bind (ofDatum? .toml)
  | .json => (Json.read text).bind (ofDatum? (.json 4))

/-! ## Soundness -/

/-- Checks names that follow the names `seen`: none is blank and none has been seen. -/
def checkNames (seen : List String) : List String → Except ManifestError Unit
  | [] => .ok ()
  | name :: rest =>
    if Text.isBlankText name then .error .blankName
    else if seen.contains name then .error (.duplicate name)
    else checkNames (name :: seen) rest

/-- **Checks a manifest**: the settings, then the names in order. -/
def check (m : Manifest) : Except ManifestError Unit :=
  match m.settings.check with
  | .error cause => .error (.settings cause)
  | .ok () => checkNames [] (m.declarations.map Declaration.name)

/-- A sound manifest has sound settings. -/
theorem check_settings {m : Manifest} (h : m.check = .ok ()) : m.settings.check = .ok () := by
  unfold check at h
  split at h
  · simp at h
  · assumption

/-- The manifest with overrides in force. -/
def override (m : Manifest) (o : Settings.Overrides) : Manifest :=
  { m with settings := m.settings.override o }

end Manifest

end ValueObject
