/-
# ValueObject.Proofs.MarkerReading -- markers are read back

A capability is written as an interface and recognised from one, and the two know nothing of each other.
The interface that marks a capability is its base behind `System.`, with an argument in angle brackets
(`marker_eq`), and taking it apart gives these two back whatever the argument holds
(`splitGeneric_marker`).

A list of markers therefore reads as the capabilities that it was written for, in any order and among
interfaces that are not generic, provided that the name of the type is its own canonical spelling and
that the datatype is not called like the type (`detect_markers`). Where lists are joined, so are the
sets that they are read as.
-/

import ValueObject.Proofs.SameReading
import ValueObject.Proofs.TypeSpelling

namespace ValueObject

open ValueObject.TypeName (canonical splitGeneric Names)

/-! ## Unions -/

namespace CapabilitySet

/-- The members of either set. -/
def union (s t : CapabilitySet) : CapabilitySet where
  bits := s.bits ||| t.bits
  high_clear := s.high_clear_or t

@[simp]
theorem contains_union (s t : CapabilitySet) (c : Capability) :
    (s.union t).contains c = (s.contains c || t.contains c) := by
  simp [union, contains]

/-- **Interfaces that are joined mark what either of them mark.** -/
theorem detect_append (a b : List String) (name : String) (datatype : Option String) :
    detect (a ++ b) name datatype = (detect a name datatype).union (detect b name datatype) := by
  apply ext_contains
  intro c
  rw [Bool.eq_iff_iff, contains_union, Bool.or_eq_true]
  simp only [contains_detect, List.mem_append, or_and_right, exists_or]

end CapabilitySet

/-! ## Markers -/

namespace Capability

/-- What the marker of a capability is over. -/
def argument (name datatype : String) (c : Capability) : String :=
  if c.isOverValue then datatype else name

/-- **A marker** is a base in the namespace of the platform, with its argument. -/
theorem marker_eq (name datatype : String) (c : Capability) :
    c.marker name datatype =
      "System." ++ c.base ++ "<" ++ c.argument name datatype ++ ">" := by
  cases c <;> rfl

/-- Base and argument tell the capabilities apart. -/
theorem eq_of_base {c e : Capability} (hbase : c.base = e.base)
    (hover : c.isOverValue = e.isOverValue) : c = e := by
  revert hbase hover
  cases c <;> cases e <;> decide

/-- **A marker is taken apart** into its base and its argument. -/
theorem splitGeneric_marker (name datatype : String) (c : Capability) :
    splitGeneric (c.marker name datatype) =
      some (c.base, Text.trim (c.argument name datatype)) := by
  have htrimmed : Text.Trimmed ("System." ++ c.base).toList := by
    cases c <;> decide
  have hbracket : '<' ∉ ("System." ++ c.base).toList := by
    cases c <;> decide
  have hbase : String.ofList (Text.dropLead "System."
      (Text.dropLead "global::" ("System." ++ c.base).toList)) = c.base := by
    cases c <;> decide
  rw [marker_eq, TypeName.splitGeneric_of_base _ htrimmed hbracket, hbase]

end Capability

/-! ## Reading markers -/

namespace CapabilitySet

section

variable {name datatype : String}

/-- The argument of a marker names the type exactly if it is to name the type. -/
theorem namesType_argument (hname : canonical name = name)
    (hdatatype : ¬ Names (canonical datatype) name) (c : Capability) :
    namesType (Text.trim (c.argument name datatype)) name = !c.isOverValue := by
  rw [namesType, TypeName.canonical_trim, Capability.argument]
  cases c.isOverValue with
  | false =>
    rw [if_neg (by decide), hname, Bool.not_false, TypeName.qualifies_iff]
    exact .inl rfl
  | true => rwa [if_pos rfl, Bool.not_true, ← Bool.not_eq_true, TypeName.qualifies_iff]

/-- **A marker marks its own capability**, and no other. -/
theorem marks_marker_iff (hname : canonical name = name)
    (hdatatype : ¬ Names (canonical datatype) name) {c e : Capability} :
    Marks name (some datatype) c (e.marker name datatype) ↔ c = e := by
  have hnames := namesType_argument hname hdatatype e
  rw [Marks, Capability.splitGeneric_marker]
  constructor
  · rintro ⟨argument, hsplit, hargument⟩
    obtain ⟨hbase, rfl⟩ := Prod.mk.inj (Option.some.inj hsplit)
    apply Capability.eq_of_base hbase.symm
    -- what the argument names is what the capability is over
    split at hargument
    · next hover =>
      rw [hargument.1, eq_comm, Bool.not_eq_false'] at hnames
      rw [hover, hnames]
    · next hover =>
      rw [hargument, eq_comm, Bool.not_eq_true'] at hnames
      rw [hnames, Bool.eq_false_iff]
      exact hover
  · rintro rfl
    refine ⟨_, rfl, ?_⟩
    split
    · next hover =>
      rw [hnames, hover]
      refine ⟨rfl, ?_⟩
      rw [Capability.argument, if_pos hover]
      exact TypeName.same_iff.mpr (TypeName.canonical_trim datatype)
    · next hover =>
      rw [hnames, Bool.not_eq_true']
      exact Bool.eq_false_iff.mpr hover

/-- An interface that is not generic marks nothing. -/
theorem not_marks_of_plain {interface : String} {t : Option String} {c : Capability}
    (h : splitGeneric interface = none) : ¬ Marks name t c interface := by
  rintro ⟨argument, hsplit, -⟩
  rw [h] at hsplit
  cases hsplit

/-- A list that holds the markers of a set, and otherwise interfaces that are not generic, is read as
this set. -/
theorem detect_eq_of_markers (hname : canonical name = name)
    (hdatatype : ¬ Names (canonical datatype) name) {s : CapabilitySet} {interfaces : List String}
    (hmarkers : ∀ c ∈ s.toList, c.marker name datatype ∈ interfaces)
    (hothers : ∀ i ∈ interfaces,
      (∃ c ∈ s.toList, c.marker name datatype = i) ∨ splitGeneric i = none) :
    detect interfaces name (some datatype) = s := by
  apply ext_contains
  intro c
  rw [Bool.eq_iff_iff, contains_detect, ← mem_toList]
  constructor
  · rintro ⟨i, hi, hmarks⟩
    rcases hothers i hi with ⟨e, he, rfl⟩ | hplain
    · rwa [(marks_marker_iff hname hdatatype).mp hmarks]
    · exact absurd hmarks (not_marks_of_plain hplain)
  · intro hc
    exact ⟨_, hmarkers c hc, (marks_marker_iff hname hdatatype).mpr rfl⟩

end

/-- **Reading undoes writing.** The markers of a set are read as this set, in any order and mixed with
interfaces that are not generic, and interfaces that are joined are read as the union of what either of
them are read as. -/
theorem detect_markers :
    (∀ (name datatype : String) (s : CapabilitySet) (others interfaces : List String),
      canonical name = name → ¬ Names (canonical datatype) name →
      (∀ i ∈ others, splitGeneric i = none) →
      interfaces.Perm (s.toList.map (Capability.marker name datatype) ++ others) →
      detect interfaces name (some datatype) = s) ∧
    ∀ (a b : List String) (name : String) (datatype : Option String),
      detect (a ++ b) name datatype = (detect a name datatype).union (detect b name datatype) := by
  refine ⟨?_, detect_append⟩
  intro name datatype s others interfaces hname hdatatype hothers hperm
  apply detect_eq_of_markers hname hdatatype
  · intro c hc
    rw [hperm.mem_iff, List.mem_append]
    exact .inl (List.mem_map_of_mem hc)
  · intro i hi
    rw [hperm.mem_iff, List.mem_append, List.mem_map] at hi
    exact hi.imp id (hothers i)

/-- A type over lists, with markers in another order than they are written in, and among them an
interface that is not generic and one that is not closed. -/
theorem detect_markers_basket :
    let markers := ["System.IComparable<System.Collections.Generic.List<Shop.Code>>", "IDisposable",
      "System.ISpanParsable<Basket>", "IEquatable<Basket", "System.IEquatable<Basket>"]
    let s := ofList [.selfEquatable, .valueComparable, .spanParsable]
    canonical "Basket" = "Basket" ∧
      ¬ Names (canonical "System.Collections.Generic.List<Shop.Code>") "Basket" ∧
      (∀ i ∈ ["IDisposable", "IEquatable<Basket"], splitGeneric i = none) ∧
      detect markers "Basket" (some "System.Collections.Generic.List<Shop.Code>") = s := by
  intro markers s
  have hname : canonical "Basket" = "Basket" := by decide +kernel
  have hdatatype : ¬ Names (canonical "System.Collections.Generic.List<Shop.Code>") "Basket" := by
    rw [← TypeName.qualifies_iff]
    decide +kernel
  have hothers : ∀ i ∈ ["IDisposable", "IEquatable<Basket"], splitGeneric i = none := by
    decide +kernel
  exact ⟨hname, hdatatype, hothers, detect_markers.1 "Basket" _ s ["IDisposable", "IEquatable<Basket"]
    markers hname hdatatype hothers (by decide +kernel)⟩

end CapabilitySet

end ValueObject
