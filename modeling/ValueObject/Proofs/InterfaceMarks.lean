/-
# ValueObject.Proofs.InterfaceMarks -- which capabilities the interfaces of a declaration mark

An interface marks a capability by its base name and its argument. Recognising one takes its name
apart, compares the argument with the type and with the datatype, and looks the base up among four
names. `marked?_eq_some_iff` says what comes of that for each capability, with the base as a table
(`Capability.base`) and the argument as a choice of two (`Capability.isOverValue`). An argument that
names the type itself never counts as the datatype.

Over a list of interfaces, a capability is recognised when one of them marks it (`contains_detect`);
order and repetition do not matter.
-/

import ValueObject.Descriptor

namespace ValueObject

namespace Capability

/-- The base name of the interface that marks the capability. -/
def base : Capability → String
  | selfEquatable | valueEquatable => "IEquatable"
  | selfComparable | valueComparable => "IComparable"
  | parsable => "IParsable"
  | spanParsable => "ISpanParsable"

/-- The interface has the datatype as its argument and not the type itself. -/
def isOverValue : Capability → Bool
  | valueEquatable | valueComparable => true
  | selfEquatable | selfComparable | parsable | spanParsable => false

end Capability

namespace CapabilitySet

/-- **An interface marks a capability**: it has the base name that belongs to it, and as its argument
the type itself or the datatype. -/
def Marks (name : String) (datatype : Option String) (c : Capability) (interface : String) : Prop :=
  ∃ argument, TypeName.splitGeneric interface = some (c.base, argument) ∧
    if c.isOverValue then namesType argument name = false ∧ namesDatatype argument datatype = true
    else namesType argument name = true

theorem marked?_eq_some_iff {name : String} {datatype : Option String} {interface : String}
    {c : Capability} :
    marked? name datatype interface = some c ↔ Marks name datatype c interface := by
  unfold marked? Marks
  constructor
  · intro h
    split at h
    · cases h
    · next base argument hsplit =>
      refine ⟨argument, ?_⟩
      rw [hsplit]
      -- the argument leaves four capabilities or two, and the base picks one of them
      split at h
      · next hname =>
        split at h
        all_goals cases h
        all_goals exact ⟨rfl, hname⟩
      · next hname =>
        rw [Bool.not_eq_true] at hname
        split at h
        · next hdatatype =>
          split at h
          all_goals cases h
          all_goals exact ⟨rfl, hname, hdatatype⟩
        · cases h
  · rintro ⟨argument, hsplit, hargument⟩
    rw [hsplit]
    cases c with
    | selfEquatable | selfComparable | parsable | spanParsable =>
      have hname : namesType argument name = true := hargument
      simp [hname, Capability.base]
    | valueEquatable | valueComparable =>
      obtain ⟨hname, hdatatype⟩ : namesType argument name = false ∧
        namesDatatype argument datatype = true := hargument
      simp [hname, hdatatype, Capability.base]

/-- **A capability is recognised when an interface marks it.** -/
theorem contains_detect {interfaces : List String} {name : String} {datatype : Option String}
    {c : Capability} :
    (detect interfaces name datatype).contains c = true ↔
      ∃ i ∈ interfaces, Marks name datatype c i := by
  rw [detect, contains_ofList, List.contains_iff_mem, List.mem_filterMap]
  simp only [marked?_eq_some_iff]

end CapabilitySet

/-- **An interface of the declaration marks the capability.** -/
def Declaration.Marked (d : Declaration) (c : Capability) : Prop :=
  ∃ i ∈ d.interfaces,
    CapabilitySet.Marks d.name (Descriptor.datatype? (Descriptor.shapeOf d)) c i

/-- Over one value, the datatype is what trimming leaves of the declared one. -/
theorem Declaration.marked_iff_of_single {d : Declaration} {t : Option String}
    {options : List ValueOption} (husage : d.usage = .single t options) {c : Capability} :
    d.Marked c ↔ ∃ i ∈ d.interfaces, CapabilitySet.Marks d.name (Text.trimmed? t) c i := by
  rw [Marked, Descriptor.shapeOf, husage, Descriptor.datatype?]

theorem Declaration.contains_declared {d : Declaration} {c : Capability} :
    (Descriptor.ofDeclaration d).declared.contains c = true ↔ d.Marked c :=
  CapabilitySet.contains_detect

end ValueObject
