/-
# ValueObject.Proofs.NameCapture -- where a parameter captures another name

A constructor assigns parameters to backing fields and `Deconstruct` assigns properties to parameters,
each by its simple name. An assignment means what it should when the name on its other side is no
parameter. The review compares parameters with parameters only, and this module says what that
leaves: for an accepted declaration every capture comes from a property that is called like its own
parameter, one that starts in lower case or with a mark and is no keyword, and each such property is
captured (`captures_iff`). Where there is none, no name is captured.
-/

import ValueObject.Proofs.FaultlessFields

namespace ValueObject

/-! ## Properties called like a parameter -/

namespace Field

/-- The property is called like its own parameter. -/
def NamesItself (f : Field) : Prop :=
  Identifier.lowerFirst f.name = f.name ∧ Identifier.isKeyword f.name = false

theorem parameter_eq_name_iff {f : Field} : f.parameter = f.name ↔ f.NamesItself :=
  Identifier.parameterName_eq_self_iff

/-- A parameter is the backing field of a property when its own property is called so. -/
theorem parameter_eq_backing_iff {p q : Field} : p.parameter = q.backing ↔ p.name = q.backing :=
  Identifier.parameterName_eq_backingName_iff

/-- Such a property is called like its own parameter. -/
theorem namesItself_of_parameter_eq_backing {p q : Field} (h : p.parameter = q.backing) :
    p.NamesItself :=
  parameter_eq_name_iff.mp (h.trans (parameter_eq_backing_iff.mp h).symm)

/-- Among fields with distinct parameters, a parameter is called like no property but its own. -/
theorem parameter_eq_name_iff_of_nodup {fields : List Field} (h : (fields.map parameter).Nodup)
    {p q : Field} (hp : p ∈ fields) (hq : q ∈ fields) :
    p.parameter = q.name ↔ p = q ∧ p.NamesItself := by
  constructor
  · intro hname
    -- the property `q` is called like a parameter, so that is its parameter too
    have hsame : p.parameter = q.parameter := by
      have hidempotent := Identifier.parameterName_parameterName p.name
      unfold parameter at hname ⊢
      rw [← hname, hidempotent]
    obtain rfl : p = q := List.inj_on_of_nodup_map h hp hq hsame
    exact ⟨rfl, parameter_eq_name_iff.mp hname⟩
  · rintro ⟨rfl, hself⟩
    exact parameter_eq_name_iff.mpr hself

end Field

/-! ## Accepted declarations -/

/-- **Where names are captured.** Among the fields of an accepted declaration, a parameter is the
backing field of exactly the field whose backing field its own property is called like, and it is
called like a property only if this is its own. So nothing is captured exactly when no property is
called like its own parameter. -/
theorem captures_iff (g : Generator) (d : Declaration) (options : List MultiOption)
    (u : GeneratedUnit) (husage : d.usage = .multi options) (hu : g.generate d = .accepted u) :
    (∀ p ∈ Field.collect d, ∀ q ∈ Field.collect d,
      (p.parameter = q.backing ↔ p.name = q.backing) ∧
      (p.parameter = q.name ↔ p = q ∧ p.NamesItself)) ∧
    ((∀ p ∈ Field.collect d, ∀ q ∈ Field.collect d,
        p.parameter ≠ q.backing ∧ p.parameter ≠ q.name) ↔
      ∀ p ∈ Field.collect d,
        ¬ (Identifier.lowerFirst p.name = p.name ∧ Identifier.isKeyword p.name = false)) := by
  have hnodup := nodup_parameters_of_accepted husage hu
  refine ⟨?_, ?_, ?_⟩
  · intro p hp q hq
    exact ⟨Field.parameter_eq_backing_iff, Field.parameter_eq_name_iff_of_nodup hnodup hp hq⟩
  · intro hapart p hp hself
    exact (hapart p hp p hp).2 (Field.parameter_eq_name_iff.mpr hself)
  · intro hnone p hp q hq
    refine ⟨?_, ?_⟩
    · intro hbacking
      exact hnone p hp (Field.namesItself_of_parameter_eq_backing hbacking)
    · intro hname
      exact hnone p hp ((Field.parameter_eq_name_iff_of_nodup hnodup hp hq).mp hname).2

/-- A pair of numbers with a constructor and with `Deconstruct`. -/
def pairOf (first second : String) : Declaration where
  name := "Pair"
  namespaceName := some "Test"
  usage := .multi [.constructor, .deconstruct]
  members := [
    .property { name := first, typeName := "int", isValueType := true },
    .property { name := second, typeName := "int", isValueType := true }]

/-- Properties that start in upper case are safe. -/
theorem captures_iff_upperCase :
    ∃ u, Generator.standard.generate (pairOf "Id" "Code") = .accepted u ∧
      ∀ p ∈ Field.collect (pairOf "Id" "Code"), ∀ q ∈ Field.collect (pairOf "Id" "Code"),
        p.parameter ≠ q.backing ∧ p.parameter ≠ q.name := by
  have haccepted : (Generator.standard.generate (pairOf "Id" "Code")).isAccepted = true := by
    decide +kernel
  obtain ⟨u, hu⟩ := Outcome.isAccepted_iff.mp haccepted
  have hcaptures := captures_iff .standard (pairOf "Id" "Code") [.constructor, .deconstruct] u rfl hu
  exact ⟨u, hu, hcaptures.2.mpr (by decide +kernel)⟩

/-- The parameter of `_id` is the backing field of `Id`, and the name of its own property: the review
accepts the pair, and generated code assigns `_id = id` to the parameter. -/
theorem pair_captured :
    (Generator.standard.generate (pairOf "_id" "Id")).isAccepted = true ∧
      ∃ p ∈ Field.collect (pairOf "_id" "Id"), ∃ q ∈ Field.collect (pairOf "_id" "Id"),
        p.parameter = q.backing ∧ p.parameter = p.name := by
  decide +kernel

end ValueObject
