/-
# ValueObject.Proofs.Format.RoundTrip -- what is written as data reads back

Every part of the data format has a writer and a reader, and each reader gives back what its writer was
given: for the choices by their names, for the records field by field, for members through their tag.
From these follow the settings, the diagnostics, the declarations and whole manifests (`decode_encode`).

This holds in every dialect that has room for a member, whose parameters lie three levels deep.
-/

import ValueObject.Manifest
import ValueObject.Proofs.Data.ReadBack

namespace ValueObject

open Data

/-! ## Choices -/

theorem Accessor.readsBack (dialect : Dialect) :
    ReadsBack (Accessor.ofDatum? dialect) Accessor.toDatum :=
  ReadsBack.choice dialect fun a => by cases a <;> rfl

theorem DeclarationKind.readsBack (dialect : Dialect) :
    ReadsBack (DeclarationKind.ofDatum? dialect) DeclarationKind.toDatum :=
  ReadsBack.choice dialect fun k => by cases k <;> rfl

theorem ValueOption.readsBack (dialect : Dialect) :
    ReadsBack (ValueOption.ofDatum? dialect) ValueOption.toDatum :=
  ReadsBack.choice dialect fun o => by cases o <;> rfl

theorem MultiOption.readsBack (dialect : Dialect) :
    ReadsBack (MultiOption.ofDatum? dialect) MultiOption.toDatum :=
  ReadsBack.choice dialect fun o => by cases o <;> rfl

theorem DiagnosticKind.readsBack (dialect : Dialect) :
    ReadsBack (DiagnosticKind.ofDatum? dialect) DiagnosticKind.toDatum :=
  ReadsBack.choice dialect fun k => by cases k <;> rfl

/-! ## Locations and parameters -/

theorem Data.ReadsBack.optionalText : ReadsBack (Datum.optional? Datum.text?) Datum.ofText? :=
  ReadsBack.text.optional fun _ => Datum.noConfusion

namespace Location

theorem readsBack (dialect : Dialect) : ReadsBack (ofDatum? dialect) toDatum := by
  intro l
  refine dialect.bind_slots?_table (List.Sublist.refl fields) (by decide) ?_
  rw [ofSlots, Slots.required_of_lookup .text rfl, Slots.required_of_lookup .word rfl,
    Slots.orDefault_of_lookup .word 1 rfl]
  rfl

theorem readsBack_option (dialect : Dialect) :
    ReadsBack (Datum.optional? (ofDatum? dialect)) optionToDatum :=
  (readsBack dialect).optional fun _ => Datum.noConfusion

theorem moderate_optionToDatum (l : Option Location) : (optionToDatum l).Moderate 1 := by
  cases l with
  | none => exact .null
  | some l =>
    refine .table fun e he => ?_
    simp only [List.mem_cons, List.not_mem_nil, or_false] at he
    rcases he with rfl | rfl | rfl
    · exact .text _
    · exact .word _
    · exact .word _

end Location

namespace Parameter

theorem readsBack (dialect : Dialect) : ReadsBack (ofDatum? dialect) toDatum := by
  intro p
  refine dialect.bind_slots?_table (List.Sublist.refl fields) (by decide) ?_
  rw [ofSlots, Slots.required_of_lookup .text rfl, Slots.required_of_lookup .text rfl]
  rfl

theorem moderate (p : Parameter) : p.toDatum.Moderate 1 := by
  refine .table fun e he => ?_
  simp only [List.mem_cons, List.not_mem_nil, or_false] at he
  rcases he with rfl | rfl
  · exact .text _
  · exact .text _

end Parameter

/-! ## Members -/

namespace Method

theorem keys_entries (m : Method) : m.entries.map Prod.fst = fields :=
  rfl

/-- The entries of a method read back, without its tag. -/
theorem readsBack (dialect : Dialect) :
    ReadsBack (fun d => (dialect.slots? fields d).bind (ofSlots dialect))
      fun m => .table m.entries := by
  intro m
  refine dialect.bind_slots?_table (List.Sublist.refl fields) (by decide) ?_
  rw [ofSlots, Slots.required_of_lookup .text rfl, Slots.orDefault_of_lookup .bool false rfl,
    Slots.orDefault_of_lookup .bool false rfl, Slots.required_of_lookup .text rfl,
    Slots.orDefault_of_lookup (Parameter.readsBack dialect).list [] rfl,
    Slots.orDefault_of_lookup (Location.readsBack_option dialect) none rfl]
  rfl

theorem moderate_of_mem_entries {m : Method} {e : String × Datum} (he : e ∈ m.entries) :
    e.2.Moderate 2 := by
  simp only [entries, List.mem_cons, List.not_mem_nil, or_false] at he
  rcases he with rfl | rfl | rfl | rfl | rfl | rfl
  · exact .text _
  · exact .bool _
  · exact .bool _
  · exact .text _
  · refine .list fun d hd => ?_
    obtain ⟨p, -, rfl⟩ := List.mem_map.mp hd
    exact p.moderate
  · exact (Location.moderate_optionToDatum m.location).mono (by decide)

end Method

namespace Property

theorem keys_entries (p : Property) : p.entries.map Prod.fst = fields :=
  rfl

/-- The entries of a property read back, without its tag. -/
theorem readsBack (dialect : Dialect) :
    ReadsBack (fun d => (dialect.slots? fields d).bind (ofSlots dialect))
      fun p => .table p.entries := by
  intro p
  refine dialect.bind_slots?_table (List.Sublist.refl fields) (by decide) ?_
  rw [ofSlots, Slots.required_of_lookup .text rfl, Slots.required_of_lookup .text rfl,
    Slots.orDefault_of_lookup .bool true rfl, Slots.orDefault_of_lookup .bool true rfl,
    Slots.orDefault_of_lookup (Accessor.readsBack dialect).list [.get] rfl,
    Slots.orDefault_of_lookup .bool false rfl, Slots.orDefault_of_lookup .bool false rfl,
    Slots.orDefault_of_lookup (Location.readsBack_option dialect) none rfl]
  rfl

theorem moderate_of_mem_entries {p : Property} {e : String × Datum} (he : e ∈ p.entries) :
    e.2.Moderate 2 := by
  simp only [entries, List.mem_cons, List.not_mem_nil, or_false] at he
  rcases he with rfl | rfl | rfl | rfl | rfl | rfl | rfl | rfl
  · exact .text _
  · exact .text _
  · exact .bool _
  · exact .bool _
  · refine .list fun d hd => ?_
    obtain ⟨a, -, rfl⟩ := List.mem_map.mp hd
    exact .text _
  · exact .bool _
  · exact .bool _
  · exact (Location.moderate_optionToDatum p.location).mono (by decide)

end Property

namespace Member

/-- A tag in front of entries that do not repeat it is found, and they are what is left. -/
theorem untag?_cons {tag : String} {entries : List (String × Datum)}
    (h : tagKey ∉ entries.map Prod.fst) :
    untag? (.table ((tagKey, .text tag) :: entries)) = some (tag, .table entries) := by
  have hother : ∀ e ∈ entries, e.1 ≠ tagKey := by
    intro e he hkey
    exact h (hkey ▸ List.mem_map_of_mem he)
  have htags : entries.filter (·.1 == tagKey) = [] := by
    simpa [List.filter_eq_nil_iff] using hother
  have hrest : entries.filter (·.1 != tagKey) = entries := by
    simpa [List.filter_eq_self] using hother
  simp [untag?, htags, hrest]

/-- A member is written as its tag in front of its entries. -/
theorem moderate (m : Member) : m.toDatum.Moderate 3 := by
  cases m with
  | method m =>
    refine .table fun e he => ?_
    rcases List.mem_cons.mp he with rfl | he
    · exact .text _
    · exact Method.moderate_of_mem_entries he
  | property p =>
    refine .table fun e he => ?_
    rcases List.mem_cons.mp he with rfl | he
    · exact .text _
    · exact Property.moderate_of_mem_entries he

variable {dialect : Dialect} (hroom : dialect.taggedNesting.all (3 ≤ ·) = true)

include hroom

theorem holds_toDatum (m : Member) : holds dialect m.toDatum = true := by
  have hmoderate := m.moderate
  rw [holds, hmoderate.held, Bool.true_and]
  cases hlimit : dialect.taggedNesting with
  | none => rfl
  | some limit =>
    have hthree : 3 ≤ limit := by simpa [hlimit] using hroom
    simpa using Nat.le_trans hmoderate.nesting_le hthree

theorem readsBack : ReadsBack (ofDatum? dialect) toDatum := by
  intro m
  rw [ofDatum?, if_pos (holds_toDatum hroom m)]
  cases m with
  | method m =>
    have htag : tagKey ∉ m.entries.map Prod.fst := by
      rw [m.keys_entries]
      decide
    rw [toDatum, untag?_cons htag]
    -- behind the tag the record is read in the tagged dialect, whatever the outer one is
    show ofTagged? methodTag (.table m.entries) = some (.method m)
    rw [ofTagged?, if_pos rfl]
    exact congrArg (Option.map method) (Method.readsBack .tagged m)
  | property p =>
    have htag : tagKey ∉ p.entries.map Prod.fst := by
      rw [p.keys_entries]
      decide
    rw [toDatum, untag?_cons htag]
    show ofTagged? propertyTag (.table p.entries) = some (.property p)
    rw [ofTagged?, if_neg (by decide), if_pos rfl]
    exact congrArg (Option.map property) (Property.readsBack .tagged p)

end Member

/-! ## Attributes -/

namespace Attribute

theorem readsBack (dialect : Dialect) : ReadsBack (ofDatum? dialect) toDatum := by
  intro a
  cases a with
  | single datatype options =>
    rw [toDatum, ofDatum?, if_pos rfl, if_pos]
    case hc => exact dialect.admitsVariant_table (List.Sublist.refl singleFields)
    refine dialect.bind_slots?_table (List.Sublist.refl singleFields) (by decide) ?_
    rw [singleOfSlots, Slots.orDefault_of_lookup .optionalText none rfl,
      Slots.orDefault_of_lookup (ValueOption.readsBack dialect).list [] rfl]
    rfl
  | multi options =>
    rw [toDatum, ofDatum?, if_neg (by decide), if_pos rfl, if_pos]
    case hc => exact dialect.admitsVariant_table (List.Sublist.refl multiFields)
    refine dialect.bind_slots?_table (List.Sublist.refl multiFields) (by decide) ?_
    rw [multiOfSlots, Slots.orDefault_of_lookup (MultiOption.readsBack dialect).list [] rfl]
    rfl

end Attribute

/-! ## Declarations -/

namespace Declaration

variable {dialect : Dialect} (hroom : dialect.taggedNesting.all (3 ≤ ·) = true)

include hroom

theorem readsBack : ReadsBack (ofDatum? dialect) toDatum := by
  intro d
  refine dialect.bind_slots?_table (List.Sublist.refl fields) (by decide) ?_
  rw [ofSlots, Slots.required_of_lookup .text rfl,
    Slots.orDefault_of_lookup .optionalText none rfl,
    Slots.orDefault_of_lookup (DeclarationKind.readsBack dialect) .record rfl,
    Slots.required_of_lookup (Attribute.readsBack dialect) rfl,
    Slots.orDefault_of_lookup ReadsBack.text.list [] rfl,
    Slots.orDefault_of_lookup (Member.readsBack hroom).list [] rfl,
    Slots.orDefault_of_lookup (Location.readsBack_option dialect) none rfl]
  rfl

end Declaration

/-! ## Settings and diagnostics -/

namespace Settings

theorem readsBack (dialect : Dialect) : ReadsBack (ofDatum? dialect) toDatum := by
  intro s
  refine dialect.bind_slots?_table (List.Sublist.refl fields) (by decide) ?_
  rw [ofSlots]
  dsimp only
  rw [Slots.orDefault_of_lookup .text _ rfl, Slots.orDefault_of_lookup .text _ rfl,
    Slots.orDefault_of_lookup .text _ rfl, Slots.orDefault_of_lookup .bool _ rfl]
  rfl

end Settings

namespace Diagnostic

/-- What is left out of a diagnostic leaves the other keys in order. -/
theorem keys_entries (d : Diagnostic) : (d.entries.map Prod.fst).Sublist fields := by
  obtain ⟨kind, subject, field, location⟩ := d
  cases field <;> cases location <;> simp [entries, fields]

theorem lookup_field (d : Diagnostic) : d.entries.lookup "field" = d.field.map .text := by
  obtain ⟨kind, subject, field, location⟩ := d
  cases field <;> cases location <;> rfl

theorem lookup_location (d : Diagnostic) :
    d.entries.lookup "location" = d.location.map Location.toDatum := by
  obtain ⟨kind, subject, field, location⟩ := d
  cases field <;> cases location <;> rfl

theorem readsBack (dialect : Dialect) : ReadsBack (ofDatum? dialect) toDatum := by
  intro d
  refine dialect.bind_slots?_table d.keys_entries (by decide) ?_
  rw [ofSlots, Slots.required_of_lookup (DiagnosticKind.readsBack dialect) rfl,
    Slots.required_of_lookup .text rfl,
    Slots.orDefault_of_lookup_map .text (fun _ => Datum.noConfusion) d.lookup_field,
    Slots.orDefault_of_lookup_map (Location.readsBack dialect) (fun _ => Datum.noConfusion)
      d.lookup_location]
  rfl

end Diagnostic

/-! ## Manifests -/

namespace Manifest

variable {dialect : Dialect} (hroom : dialect.taggedNesting.all (3 ≤ ·) = true)

include hroom

theorem readsBack : ReadsBack (ofDatum? dialect) toDatum := by
  intro m
  refine dialect.bind_slots?_table (List.Sublist.refl fields) (by decide) ?_
  rw [ofSlots, Slots.orDefault_of_lookup (Settings.readsBack dialect) {} rfl,
    Slots.orDefault_of_lookup (Declaration.readsBack hroom).list [] rfl]
  rfl

end Manifest

/-! ## The whole format -/

/-- **A dialect decodes what is encoded**: every part of the data format reads back in it. -/
structure DecodesEncoded (dialect : Dialect) : Prop where
  accessors : ReadsBack (Accessor.ofDatum? dialect) Accessor.toDatum
  kinds : ReadsBack (DeclarationKind.ofDatum? dialect) DeclarationKind.toDatum
  valueOptions : ReadsBack (ValueOption.ofDatum? dialect) ValueOption.toDatum
  multiOptions : ReadsBack (MultiOption.ofDatum? dialect) MultiOption.toDatum
  locations : ReadsBack (Location.ofDatum? dialect) Location.toDatum
  parameters : ReadsBack (Parameter.ofDatum? dialect) Parameter.toDatum
  members : ReadsBack (Member.ofDatum? dialect) Member.toDatum
  attributes : ReadsBack (Attribute.ofDatum? dialect) Attribute.toDatum
  declarations : ReadsBack (Declaration.ofDatum? dialect) Declaration.toDatum
  settings : ReadsBack (Settings.ofDatum? dialect) Settings.toDatum
  diagnosticKinds : ReadsBack (DiagnosticKind.ofDatum? dialect) DiagnosticKind.toDatum
  diagnostics : ReadsBack (Diagnostic.ofDatum? dialect) Diagnostic.toDatum
  manifests : ReadsBack (Manifest.ofDatum? dialect) Manifest.toDatum

/-- Room for a member is all that a dialect needs. -/
theorem decodesEncoded_of_room {dialect : Dialect}
    (hroom : dialect.taggedNesting.all (3 ≤ ·) = true) : DecodesEncoded dialect where
  accessors := Accessor.readsBack dialect
  kinds := DeclarationKind.readsBack dialect
  valueOptions := ValueOption.readsBack dialect
  multiOptions := MultiOption.readsBack dialect
  locations := Location.readsBack dialect
  parameters := Parameter.readsBack dialect
  members := Member.readsBack hroom
  attributes := Attribute.readsBack dialect
  declarations := Declaration.readsBack hroom
  settings := Settings.readsBack dialect
  diagnosticKinds := DiagnosticKind.readsBack dialect
  diagnostics := Diagnostic.readsBack dialect
  manifests := Manifest.readsBack hroom

/-- **Decoding undoes encoding over the whole data format**, for data in memory and for data in a JSON
text: there a member may lie at any depth that leaves it its three levels. -/
theorem decode_encode : DecodesEncoded .plain ∧ ∀ outer : Fin 125, DecodesEncoded (.json outer) := by
  refine ⟨decodesEncoded_of_room rfl, fun outer => decodesEncoded_of_room ?_⟩
  have hdepth : 3 ≤ 127 - outer.val := by omega
  simpa [Dialect.json] using hdepth

end ValueObject
