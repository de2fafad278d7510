/-
# ValueObject.Proofs.Format.Spellings -- every part of the format in all its spellings

Every part of the data format that has fields is a record: locations, parameters, the arguments of both
attributes, declarations, settings, diagnostics and manifests, and behind their tags methods and properties.
So all spellings of each of them are read alike (`spellings_decode_alike`).

What may stand under an unknown key is anything at all, but for members. These are held as a whole before
their tag is known, and a number that no reader asks for spoils them if it cannot be held
(`unheld_number_spoils_member`).
-/

import ValueObject.Manifest
import ValueObject.Proofs.Format.MemberSpelling

namespace ValueObject

open Data

/-! ## The records of the format -/

namespace Location

/-- A location as a record. -/
def record : Record Location where
  fields := [.required "file" Datum.text?, .required "line" Datum.word?,
    .withDefault "column" 1 Datum.word?]
  ofSlots := ofSlots
  nodup_names := by
    show Location.fields.Nodup
    decide
  congr s s' h := by
    simp only [List.forall_mem_cons, RecordField.value_required, RecordField.value_withDefault] at h
    obtain ⟨hfile, hline, hcolumn, -⟩ := h
    rw [ofSlots, hfile, hline, hcolumn, ofSlots]

end Location

namespace Parameter

/-- A parameter as a record. -/
def record : Record Parameter where
  fields := [.required "name" Datum.text?, .required "type_name" Datum.text?]
  ofSlots := ofSlots
  nodup_names := by
    show Parameter.fields.Nodup
    decide
  congr s s' h := by
    simp only [List.forall_mem_cons, RecordField.value_required] at h
    obtain ⟨hname, htype, -⟩ := h
    rw [ofSlots, hname, htype, ofSlots]

end Parameter

namespace Attribute

/-- The arguments of an attribute on a single value as a record. -/
def singleRecord (dialect : Dialect) : Record Attribute where
  fields := [.withDefault "datatype" none (Datum.optional? Datum.text?),
    .withDefault "options" [] (Datum.list? (ValueOption.ofDatum? dialect))]
  ofSlots := singleOfSlots dialect
  nodup_names := by
    show singleFields.Nodup
    decide
  congr s s' h := by
    simp only [List.forall_mem_cons, RecordField.value_withDefault] at h
    obtain ⟨hdatatype, hoptions, -⟩ := h
    rw [singleOfSlots, hdatatype, hoptions, singleOfSlots]

/-- The arguments of an attribute on several values as a record. -/
def multiRecord (dialect : Dialect) : Record Attribute where
  fields := [.withDefault "options" [] (Datum.list? (MultiOption.ofDatum? dialect))]
  ofSlots := multiOfSlots dialect
  nodup_names := by
    show multiFields.Nodup
    decide
  congr s s' h := by
    simp only [List.forall_mem_cons, RecordField.value_withDefault] at h
    obtain ⟨hoptions, -⟩ := h
    rw [multiOfSlots, hoptions, multiOfSlots]

/-- Reads the arguments of an attribute on a single value. -/
def singleOfDatum? (dialect : Dialect) (d : Datum) : Option Attribute :=
  ofDatum? dialect (.table [(singleKey, d)])

/-- Reads the arguments of an attribute on several values. -/
def multiOfDatum? (dialect : Dialect) (d : Datum) : Option Attribute :=
  ofDatum? dialect (.table [(multiKey, d)])

section Variants

variable {dialect : Dialect} (hopen : dialect.closedVariants = false)
  (hlists : dialect.listVariants = true)

include hopen hlists

/-- Any record may belong to a chosen name, in an open dialect with lists. -/
theorem admitsVariant_eq_true (names : List String) (d : Datum) :
    dialect.admitsVariant names d = true := by
  cases d <;> simp [Dialect.admitsVariant, hopen, hlists]

theorem singleOfDatum?_eq : singleOfDatum? dialect = (singleRecord dialect).ofDatum? dialect := by
  funext d
  rw [singleOfDatum?, ofDatum?, if_pos rfl, if_pos (admitsVariant_eq_true hopen hlists _ d)]
  rfl

theorem multiOfDatum?_eq : multiOfDatum? dialect = (multiRecord dialect).ofDatum? dialect := by
  funext d
  rw [multiOfDatum?, ofDatum?, if_neg (by decide), if_pos rfl,
    if_pos (admitsVariant_eq_true hopen hlists _ d)]
  rfl

end Variants

end Attribute

namespace Declaration

/-- A declaration as a record. -/
def record (dialect : Dialect) : Record Declaration where
  fields := [.required "name" Datum.text?,
    .withDefault "namespace" none (Datum.optional? Datum.text?),
    .withDefault "kind" .record (DeclarationKind.ofDatum? dialect),
    .required "attribute" (Attribute.ofDatum? dialect),
    .withDefault "interfaces" [] (Datum.list? Datum.text?),
    .withDefault "members" [] (Datum.list? (Member.ofDatum? dialect)),
    .withDefault "location" none (Datum.optional? (Location.ofDatum? dialect))]
  ofSlots := ofSlots dialect
  nodup_names := by
    show Declaration.fields.Nodup
    decide
  congr s s' h := by
    simp only [List.forall_mem_cons, RecordField.value_required, RecordField.value_withDefault] at h
    obtain ⟨hname, hnamespace, hkind, husage, hinterfaces, hmembers, hlocation, -⟩ := h
    rw [ofSlots, hname, hnamespace, hkind, husage, hinterfaces, hmembers, hlocation, ofSlots]

end Declaration

namespace Settings

/-- Settings as a record. -/
def record : Record Settings where
  fields := [.withDefault "runtime_namespace" ({} : Settings).runtimeNamespace Datum.text?,
    .withDefault "tool_name" ({} : Settings).toolName Datum.text?,
    .withDefault "tool_version" ({} : Settings).toolVersion Datum.text?,
    .withDefault "emit_runtime" ({} : Settings).emitRuntime Datum.bool?]
  ofSlots := ofSlots
  nodup_names := by
    show Settings.fields.Nodup
    decide
  congr s s' h := by
    simp only [List.forall_mem_cons, RecordField.value_withDefault] at h
    obtain ⟨hnamespace, hname, hversion, hruntime, -⟩ := h
    rw [ofSlots, ofSlots]
    dsimp only
    rw [hnamespace, hname, hversion, hruntime]

end Settings

namespace Diagnostic

/-- A diagnostic as a record. -/
def record (dialect : Dialect) : Record Diagnostic where
  fields := [.required "kind" (DiagnosticKind.ofDatum? dialect), .required "subject" Datum.text?,
    .withDefault "field" none (Datum.optional? Datum.text?),
    .withDefault "location" none (Datum.optional? (Location.ofDatum? dialect))]
  ofSlots := ofSlots dialect
  nodup_names := by
    show Diagnostic.fields.Nodup
    decide
  congr s s' h := by
    simp only [List.forall_mem_cons, RecordField.value_required, RecordField.value_withDefault] at h
    obtain ⟨hkind, hsubject, hfield, hlocation, -⟩ := h
    rw [ofSlots, hkind, hsubject, hfield, hlocation, ofSlots]

end Diagnostic

namespace Manifest

/-- A manifest as a record. -/
def record (dialect : Dialect) : Record Manifest where
  fields := [.withDefault "generator" {} (Settings.ofDatum? dialect),
    .withDefault "declaration" [] (Datum.list? (Declaration.ofDatum? dialect))]
  ofSlots := ofSlots dialect
  nodup_names := by
    show Manifest.fields.Nodup
    decide
  congr s s' h := by
    simp only [List.forall_mem_cons, RecordField.value_withDefault] at h
    obtain ⟨hsettings, hdeclarations, -⟩ := h
    rw [ofSlots, hsettings, hdeclarations, ofSlots]

end Manifest

/-! ## The whole format -/

/-- **A dialect reads all spellings of each part of the format alike.** Under unknown keys a member admits
what it can hold, and nothing else; every other part admits whatever stands there. -/
structure DecodesSpellings (dialect : Dialect) : Prop where
  locations : SpellingsAlike Location.record.fields (fun _ => True) (Location.ofDatum? dialect)
  parameters : SpellingsAlike Parameter.record.fields (fun _ => True) (Parameter.ofDatum? dialect)
  methods : SpellingsAlike Method.tagged.fields (Member.Admits dialect) (Method.ofDatum? dialect)
  properties :
    SpellingsAlike Property.tagged.fields (Member.Admits dialect) (Property.ofDatum? dialect)
  singleArguments :
    SpellingsAlike (Attribute.singleRecord dialect).fields (fun _ => True)
      (Attribute.singleOfDatum? dialect)
  multiArguments :
    SpellingsAlike (Attribute.multiRecord dialect).fields (fun _ => True)
      (Attribute.multiOfDatum? dialect)
  declarations :
    SpellingsAlike (Declaration.record dialect).fields (fun _ => True) (Declaration.ofDatum? dialect)
  settings : SpellingsAlike Settings.record.fields (fun _ => True) (Settings.ofDatum? dialect)
  diagnostics :
    SpellingsAlike (Diagnostic.record dialect).fields (fun _ => True) (Diagnostic.ofDatum? dialect)
  manifests :
    SpellingsAlike (Manifest.record dialect).fields (fun _ => True) (Manifest.ofDatum? dialect)

/-- An open dialect with lists that has room for a member is all that is needed. -/
theorem decodesSpellings_of_room {dialect : Dialect} (hunknown : dialect.heldUnknown = false)
    (hopen : dialect.closedVariants = false) (hlists : dialect.listVariants = true)
    (hroom : dialect.taggedNesting.all (3 < ·) = true) : DecodesSpellings dialect where
  locations := Location.record.spellingsAlike hunknown
  parameters := Parameter.record.spellingsAlike hunknown
  methods := Method.spellingsAlike hroom
  properties := Property.spellingsAlike hroom
  singleArguments := by
    rw [Attribute.singleOfDatum?_eq hopen hlists]
    exact (Attribute.singleRecord dialect).spellingsAlike hunknown
  multiArguments := by
    rw [Attribute.multiOfDatum?_eq hopen hlists]
    exact (Attribute.multiRecord dialect).spellingsAlike hunknown
  declarations := (Declaration.record dialect).spellingsAlike hunknown
  settings := Settings.record.spellingsAlike hunknown
  diagnostics := (Diagnostic.record dialect).spellingsAlike hunknown
  manifests := (Manifest.record dialect).spellingsAlike hunknown

/-- **All spellings of each part of the format are decoded alike** out of a JSON text: there a member may
lie at any depth that leaves it room for its defaults, and the locations and parameters inside of it are
read as they are inside of every tagged record. -/
theorem spellings_decode_alike :
    (∀ outer : Fin 124, DecodesSpellings (.json outer)) ∧
      SpellingsAlike Location.record.fields (fun _ => True) (Location.ofDatum? .tagged) ∧
      SpellingsAlike Parameter.record.fields (fun _ => True) (Parameter.ofDatum? .tagged) := by
  refine ⟨fun outer => ?_, Location.record.spellingsAlike rfl, Parameter.record.spellingsAlike rfl⟩
  have hdepth : 3 < 127 - outer.val := by omega
  exact decodesSpellings_of_room rfl rfl rfl (by simpa [Dialect.json] using hdepth)

/-- **A number that cannot be held spoils a member** under a key that no member knows: without the key the
text is a property, and with it none. A location passes over such a key. -/
theorem unheld_number_spoils_member :
    "limit" ∉ Property.tagged.names ∧
      (Json.read "\x7b\"member\":\"property\",\"name\":\"Mass\",\"type_name\":\"double\"\x7d").bind
        (Member.ofDatum? (.json 0)) = some (.ofProperty "Mass" "double") ∧
      (Json.read
        "\x7b\"member\":\"property\",\"name\":\"Mass\",\"type_name\":\"double\",\"limit\":1e400\x7d").bind
        (Member.ofDatum? (.json 0)) = none ∧
      (Json.read "\x7b\"file\":\"Mass.cs\",\"line\":3,\"limit\":1e400\x7d").bind
        (Location.ofDatum? (.json 0)) = some ⟨"Mass.cs", 3, 1⟩ := by
  refine ⟨by decide, ?_, ?_, ?_⟩ <;> decide +kernel

end ValueObject
