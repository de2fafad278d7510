/-
# ValueObject.Proofs.FieldOrder -- which fields a declaration has, and in which order

Fields are collected by putting one property after the other under its name, so a name that is
declared again keeps the place of its first property and gets the data of its last. Both halves are
stated against the list of properties alone: the names are those of the properties, each where it
first occurs (`names_collect`), and a field is exactly what the last property of its name becomes
(`mem_collect_iff`).

Every statement is an induction that takes the last property off, since that is the one put last.
-/

import Mathlib.Data.List.Induction
import ValueObject.Field

namespace ValueObject

/-- The properties that become fields: those that are public and partial. -/
def Declaration.fieldProperties (d : Declaration) : List Property :=
  d.properties.filter fun p => p.isPublic && p.isPartial

/-- The property is declared, and none of its name is declared after it. -/
def LastOfName (properties : List Property) (p : Property) : Prop :=
  ∃ before after, properties = before ++ p :: after ∧ ∀ q ∈ after, q.name ≠ p.name

theorem lastOfName_append_singleton {properties : List Property} {p q : Property} :
    LastOfName (properties ++ [p]) q ↔ q = p ∨ (LastOfName properties q ∧ q.name ≠ p.name) := by
  constructor
  · rintro ⟨before, after, heq, hafter⟩
    rcases List.eq_nil_or_concat after with rfl | ⟨init, last, rfl⟩
    · exact .inl (List.cons.inj (List.append_inj' heq rfl).2).1.symm
    · have hsplit : properties ++ [p] = (before ++ q :: init) ++ [last] := by simpa using heq
      obtain ⟨hproperties, hlast⟩ := List.append_inj' hsplit rfl
      obtain rfl : p = last := (List.cons.inj hlast).1
      refine .inr ⟨⟨before, init, hproperties, ?_⟩, ?_⟩
      · intro x hx
        exact hafter x (by simp [hx])
      · exact (hafter p (by simp)).symm
  · rintro (rfl | ⟨⟨before, after, rfl, hafter⟩, hne⟩)
    · exact ⟨properties, [], rfl, by simp⟩
    · refine ⟨before, after ++ [p], by simp, ?_⟩
      intro x hx
      rcases List.mem_append.mp hx with hx | hx
      · exact hafter x hx
      · rw [List.mem_singleton.mp hx]
        exact hne.symm

namespace Field

/-- The fields that properties become, put one after the other. -/
def ofProperties (properties : List Property) : List Field :=
  properties.foldl (fun fields p => put (ofProperty p) fields) []

theorem collect_eq_ofProperties (d : Declaration) : collect d = ofProperties d.fieldProperties :=
  rfl

theorem ofProperties_append_singleton (properties : List Property) (p : Property) :
    ofProperties (properties ++ [p]) = put (ofProperty p) (ofProperties properties) := by
  rw [ofProperties, List.foldl_append]
  rfl

/-! ## The order of the names -/

/-- A name that has occurred adds nothing to the distinct names, a new one comes last. -/
theorem eraseDups_append_singleton (names : List String) (x : String) :
    (names ++ [x]).eraseDups = if x ∈ names then names.eraseDups else names.eraseDups ++ [x] := by
  rw [List.eraseDups_append, List.removeAll]
  split
  · next hold => simp [hold]
  · next hnew => simp [hnew, List.eraseDups_cons]

theorem names_ofProperties (properties : List Property) :
    (ofProperties properties).map name = (properties.map Property.name).eraseDups := by
  induction properties using List.reverseRecOn with
  | nil => simp [ofProperties]
  | append_singleton properties p ih =>
    have hname : (ofProperty p).name = p.name := rfl
    rw [ofProperties_append_singleton, names_put, ih, hname, List.map_append, List.map_singleton,
      eraseDups_append_singleton]
    simp only [List.mem_eraseDups]

/-- **The fields are named after the properties**, each name where it first occurs. -/
theorem names_collect (d : Declaration) :
    (collect d).map name = (d.fieldProperties.map Property.name).eraseDups := by
  rw [collect_eq_ofProperties, names_ofProperties]

/-! ## The data of a field -/

theorem nodup_names_ofProperties (properties : List Property) :
    ((ofProperties properties).map name).Nodup := by
  induction properties using List.reverseRecOn with
  | nil => exact List.nodup_nil
  | append_singleton properties p ih =>
    rw [ofProperties_append_singleton]
    exact nodup_names_put ih

/-- Putting a field replaces what has its name and keeps everything else. -/
theorem mem_put {f g : Field} {fields : List Field} (h : (fields.map name).Nodup) :
    g ∈ put f fields ↔ g = f ∨ (g ∈ fields ∧ g.name ≠ f.name) := by
  induction fields with
  | nil => simp [put]
  | cons k rest ih =>
    rw [List.map_cons, List.nodup_cons] at h
    by_cases hk : k.name = f.name
    · -- behind the field that is replaced, no field has its name
      have hrest : ∀ x ∈ rest, x.name ≠ f.name := by
        intro x hx hxf
        exact h.1 (List.mem_map.mpr ⟨x, hx, hxf.trans hk.symm⟩)
      rw [put, if_pos hk, List.mem_cons, List.mem_cons]
      grind
    · rw [put, if_neg hk, List.mem_cons, List.mem_cons, ih h.2]
      grind

theorem mem_ofProperties_iff {properties : List Property} {f : Field} :
    f ∈ ofProperties properties ↔ ∃ p, LastOfName properties p ∧ f = ofProperty p := by
  induction properties using List.reverseRecOn with
  | nil => simp [ofProperties, LastOfName]
  | append_singleton properties p ih =>
    rw [ofProperties_append_singleton, mem_put (nodup_names_ofProperties properties), ih]
    simp only [lastOfName_append_singleton]
    constructor
    · rintro (rfl | ⟨⟨q, hq, rfl⟩, hne⟩)
      · exact ⟨p, .inl rfl, rfl⟩
      · exact ⟨q, .inr ⟨hq, hne⟩, rfl⟩
    · rintro ⟨q, rfl | ⟨hq, hne⟩, rfl⟩
      · exact .inl rfl
      · exact .inr ⟨⟨q, hq, rfl⟩, hne⟩

/-- **A field is what the last property of its name becomes.** -/
theorem mem_collect_iff {d : Declaration} {f : Field} :
    f ∈ collect d ↔ ∃ p, LastOfName d.fieldProperties p ∧ f = ofProperty p := by
  rw [collect_eq_ofProperties, mem_ofProperties_iff]

end Field

end ValueObject
