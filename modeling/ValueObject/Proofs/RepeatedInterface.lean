/-
# ValueObject.Proofs.RepeatedInterface -- interfaces that are listed again

The header of a type lists the capabilities that its declaration does not mark itself, so that no
interface is written twice. What a declaration marks is read off the argument of an interface: it counts
as the type itself if it ends like the name of the type, and as the datatype only if it does not.

An interface of the declaration that is the very marker of a capability may therefore be taken for
something else (`Capability.Mistaken`): one over the datatype, if the datatype is called like the type in
another namespace, and one over the type, if its name is not its own canonical spelling. Such a capability
is listed although it is written already, and this is the only way for that to happen
(`listed_again_iff`).
-/

import ValueObject.Proofs.ImplementedCapabilities
import ValueObject.Proofs.MarkerReading

namespace ValueObject

open ValueObject.TypeName (canonical splitGeneric Names)

/-! ## The same interface -/

/-- **Two interfaces are the same**: they have one base, and arguments that denote one type. -/
def SameInterface (i j : String) : Prop :=
  ∃ base x y, splitGeneric i = some (base, x) ∧ splitGeneric j = some (base, y) ∧
    canonical x = canonical y

theorem sameInterface_marker_iff {name datatype i : String} {c : Capability} :
    SameInterface (c.marker name datatype) i ↔
      ∃ y, splitGeneric i = some (c.base, y) ∧
        canonical y = canonical (c.argument name datatype) := by
  constructor
  · rintro ⟨base, x, y, hmarker, hi, hsame⟩
    rw [Capability.splitGeneric_marker] at hmarker
    obtain ⟨rfl, rfl⟩ := Prod.mk.inj (Option.some.inj hmarker)
    exact ⟨y, hi, by rw [← hsame, TypeName.canonical_trim]⟩
  · rintro ⟨y, hi, hsame⟩
    exact ⟨c.base, _, y, Capability.splitGeneric_marker .., hi,
      by rw [hsame, TypeName.canonical_trim]⟩

/-- **The argument of a marker is taken for something else**: for the type, if it is the datatype, and
for no type, if it is the type. -/
def Capability.Mistaken (name datatype : String) (c : Capability) : Prop :=
  if c.isOverValue then Names (canonical datatype) name else ¬ Names (canonical name) name

namespace CapabilitySet

variable {name datatype i : String} {c : Capability}

/-- An argument is found to name the type by its canonical spelling. -/
theorem namesType_iff_of_canonical (name : String) {x y : String} (h : canonical x = canonical y) :
    namesType x name = true ↔ Names (canonical y) name := by
  rw [namesType, h, TypeName.qualifies_iff]

/-- **The very marker of a capability marks it**, unless its argument is taken for something else. -/
theorem marks_iff_of_sameInterface (h : SameInterface (c.marker name datatype) i) :
    Marks name (some datatype) c i ↔ ¬ c.Mistaken name datatype := by
  obtain ⟨y, hi, hsame⟩ := sameInterface_marker_iff.mp h
  have hnames := namesType_iff_of_canonical name hsame
  have hmarks : Marks name (some datatype) c i ↔
      if c.isOverValue then namesType y name = false ∧ namesDatatype y (some datatype) = true
      else namesType y name = true := by
    simp [Marks, hi]
  rw [hmarks, Capability.Mistaken]
  rw [Capability.argument] at hsame hnames
  split
  · next hover =>
    rw [if_pos hover] at hsame hnames
    have hdatatype : namesDatatype y (some datatype) = true := TypeName.same_iff.mpr hsame
    rw [← hnames, Bool.not_eq_true]
    exact and_iff_left hdatatype
  · next hover =>
    rw [if_neg hover] at hnames
    rw [hnames, not_not]

/-- With the datatype called like the type, no interface marks a capability over the datatype. -/
theorem not_marks_of_names (hover : c.isOverValue = true) (h : Names (canonical datatype) name) :
    ¬ Marks name (some datatype) c i := by
  rintro ⟨y, -, hargument⟩
  rw [if_pos hover] at hargument
  have hsame : canonical y = canonical datatype := TypeName.same_iff.mp hargument.2
  have hnames := (namesType_iff_of_canonical name hsame).mpr h
  rw [hargument.1] at hnames
  cases hnames

end CapabilitySet

/-! ## Interfaces that are written already -/

namespace Declaration

variable {d : Declaration} {datatype : String} {c : Capability}

/-- **The declaration writes the marker of the capability**, in some spelling. -/
def Writes (d : Declaration) (datatype : String) (c : Capability) : Prop :=
  ∃ i ∈ d.interfaces, SameInterface (c.marker d.name datatype) i

/-- What is written and not marked is taken for something else. -/
theorem mistaken_of_not_marked {t : Option String} {options : List ValueOption}
    (husage : d.usage = .single t options) (hdatatype : Text.trimmed? t = some datatype)
    (hwrites : d.Writes datatype c) (hmarked : ¬ d.Marked c) : c.Mistaken d.name datatype := by
  obtain ⟨i, hi, hsame⟩ := hwrites
  rw [marked_iff_of_single husage, hdatatype] at hmarked
  by_contra hread
  exact hmarked ⟨i, hi, (CapabilitySet.marks_iff_of_sameInterface hsame).mpr hread⟩

/-- With the datatype called like the type, no capability over the datatype is marked. -/
theorem not_marked_of_names {t : Option String} {options : List ValueOption}
    (husage : d.usage = .single t options) (hdatatype : Text.trimmed? t = some datatype)
    (hover : c.isOverValue = true) (h : Names (canonical datatype) d.name) : ¬ d.Marked c := by
  rw [marked_iff_of_single husage, hdatatype]
  rintro ⟨i, -, hmarks⟩
  exact CapabilitySet.not_marks_of_names hover h hmarks

/-- **What is called for and not marked may be written all the same**, in two cases. -/
theorem exists_unmarked_writes_iff {t : Option String} {options : List ValueOption}
    (husage : d.usage = .single t options) (hdatatype : Text.trimmed? t = some datatype) :
    (∃ c, (d.CallsFor options c ∧ ¬ d.Marked c) ∧ d.Writes datatype c) ↔
      (Names (canonical datatype) d.name ∧
        ∃ c, c.isOverValue = true ∧ d.CallsFor options c ∧ d.Writes datatype c) ∨
      (¬ Names (canonical d.name) d.name ∧
        ∃ c, c.isOverValue = false ∧ d.CallsFor options c ∧ d.Writes datatype c ∧
          ¬ d.Marked c) := by
  constructor
  · rintro ⟨c, ⟨hcalls, hmarked⟩, hwrites⟩
    have hmistaken := mistaken_of_not_marked husage hdatatype hwrites hmarked
    rw [Capability.Mistaken] at hmistaken
    split at hmistaken
    · next hover => exact .inl ⟨hmistaken, c, hover, hcalls, hwrites⟩
    · next hover =>
      exact .inr ⟨hmistaken, c, Bool.eq_false_iff.mpr hover, hcalls, hwrites, hmarked⟩
  · rintro (⟨hnames, c, hover, hcalls, hwrites⟩ | ⟨-, c, -, hcalls, hwrites, hmarked⟩)
    · exact ⟨c, ⟨hcalls, not_marked_of_names husage hdatatype hover hnames⟩, hwrites⟩
    · exact ⟨c, ⟨hcalls, hmarked⟩, hwrites⟩

/-- Neither case arises when the name is its own canonical spelling and the datatype is not called like
the type. -/
theorem not_writes_of_not_marked {t : Option String} {options : List ValueOption}
    (husage : d.usage = .single t options) (hdatatype : Text.trimmed? t = some datatype)
    (hname : canonical d.name = d.name) (hnames : ¬ Names (canonical datatype) d.name)
    (hmarked : ¬ d.Marked c) : ¬ d.Writes datatype c := by
  intro hwrites
  have hmistaken := mistaken_of_not_marked husage hdatatype hwrites hmarked
  rw [Capability.Mistaken, hname] at hmistaken
  split at hmistaken
  · exact hnames hmistaken
  · exact hmistaken (.inl rfl)

end Declaration

/-- **When an interface is listed again.** The header of an accepted declaration over one value lists the
capabilities that are called for and not marked. One of them is written by the declaration already exactly
in two cases: the datatype is called like the type, and a capability over it is called for and written; or
the name of the type is not its own canonical spelling, and one over the type is called for, written and
not marked in another way. So nothing is listed again if the name is its own canonical spelling and the
datatype is not called like it. -/
theorem listed_again_iff (g : Generator) (d : Declaration) (t : Option String)
    (options : List ValueOption) (u : GeneratedUnit) (husage : d.usage = .single t options)
    (hu : g.generate d = .accepted u) :
    ∃ n datatype capabilities listed, Text.trimmed? t = some datatype ∧
      u.source = Source.Code.unitText (Source.unitOf (d.acceptedSingle n datatype options capabilities)
        g.settings datatype Source.SingleValue.display
        (d.singleValue g.settings datatype options capabilities).members) ∧
      Source.typeHeader (d.acceptedSingle n datatype options capabilities) datatype =
        d.header datatype listed ∧
      (∀ c, c ∈ listed ↔ d.CallsFor options c ∧ ¬ d.Marked c) ∧
      ((∃ c ∈ listed, d.Writes datatype c) ↔
        (Names (canonical datatype) d.name ∧
          ∃ c, c.isOverValue = true ∧ d.CallsFor options c ∧ d.Writes datatype c) ∨
        (¬ Names (canonical d.name) d.name ∧
          ∃ c, c.isOverValue = false ∧ d.CallsFor options c ∧ d.Writes datatype c ∧
            ¬ d.Marked c)) ∧
      (canonical d.name = d.name → ¬ Names (canonical datatype) d.name →
        ∀ c ∈ listed, ¬ d.Writes datatype c) := by
  obtain ⟨n, datatype, capabilities, -, hdatatype, hresolve, hsource⟩ :=
    Generator.source_of_single husage hu
  obtain ⟨listed, -, hlisted, hheader⟩ := typeHeader_eq_header datatype
    (a := d.acceptedSingle n datatype options capabilities) rfl
  have hcalled : ∀ c, c ∈ listed ↔ d.CallsFor options c ∧ ¬ d.Marked c := by
    intro c
    rw [hlisted, Declaration.acceptedSingle_capabilities, ← CapabilitySet.mem_toList,
      Declaration.mem_resolved_iff hresolve]
  refine ⟨n, datatype, capabilities, listed, hdatatype, hsource, hheader, hcalled, ?_, ?_⟩
  · simp only [hcalled]
    exact Declaration.exists_unmarked_writes_iff husage hdatatype
  · intro hname hnames c hc
    exact Declaration.not_writes_of_not_marked husage hdatatype hname hnames ((hcalled c).mp hc).2

/-- An identifier over a datatype, with conversions and orders. -/
def idDeclaration (datatype : String) (interfaces : List String) : Declaration where
  name := "Id"
  namespaceName := some "Shop"
  usage := .single (some datatype) [.implicitFrom, .comparable]
  interfaces := interfaces

/-- An identifier that writes one of its interfaces itself, in another spelling than generated code has:
the orders are listed, and no interface is listed again. -/
theorem listed_again_iff_guid :
    let d := idDeclaration "System.Guid" ["IEquatable< global::System.Guid >"]
    d.Writes "System.Guid" .valueEquatable ∧
      ∃ (u : GeneratedUnit) (listed : List Capability),
        Generator.standard.generate d = .accepted u ∧ .valueComparable ∈ listed ∧
          (∀ c, c ∈ listed ↔ d.CallsFor [.implicitFrom, .comparable] c ∧ ¬ d.Marked c) ∧
          ∀ c ∈ listed, ¬ d.Writes "System.Guid" c := by
  intro d
  have hsplit : splitGeneric "IEquatable< global::System.Guid >" =
      some ("IEquatable", "global::System.Guid") := by decide +kernel
  have hwrites : d.Writes "System.Guid" .valueEquatable :=
    ⟨_, List.mem_singleton_self _,
      sameInterface_marker_iff.mpr ⟨_, hsplit, by decide +kernel⟩⟩
  have haccepted : (Generator.standard.generate d).isAccepted = true := by decide +kernel
  obtain ⟨u, hu⟩ := Outcome.isAccepted_iff.mp haccepted
  obtain ⟨n, datatype, capabilities, listed, hdatatype, -, -, hlisted, -, hnone⟩ :=
    listed_again_iff .standard d _ _ u rfl hu
  obtain rfl : "System.Guid" = datatype := Option.some.inj (Eq.trans (by decide +kernel) hdatatype)
  have hcomparable : d.CallsFor [.implicitFrom, .comparable] .valueComparable :=
    .inl ⟨.inl (by decide), .inl (by decide)⟩
  have hmarked : ¬ d.Marked .valueComparable := by
    rw [← Declaration.contains_declared]
    decide +kernel
  have hnames : ¬ Names (canonical "System.Guid") "Id" := by
    rw [← TypeName.qualifies_iff]
    decide +kernel
  exact ⟨hwrites, u, listed, hu, (hlisted _).mpr ⟨hcomparable, hmarked⟩, hlisted,
    hnone (by decide +kernel) hnames⟩

/-- **An interface that is listed again.** The datatype is called like the type, in another namespace. The
declaration writes that it is equatable with the datatype, which is read as equatable with itself, and the
header of the type lists the interface a second time. -/
theorem interface_listed_again :
    let d := idDeclaration "Other.Id" ["System.IEquatable<Other.Id>"]
    ∃ a, Review.ofDescriptor (.ofDeclaration d) = .accepted a ∧
      .valueEquatable ∈ a.headerMarkers.toList ∧ d.Writes "Other.Id" .valueEquatable ∧
      Source.typeHeader a "Other.Id" = "readonly partial record struct Id : " ++
        "System.IEquatable<Other.Id>, System.IComparable<Id>, System.IComparable<Other.Id>" := by
  intro d
  have hsplit : splitGeneric "System.IEquatable<Other.Id>" = some ("IEquatable", "Other.Id") := by
    decide +kernel
  have hwrites : d.Writes "Other.Id" .valueEquatable :=
    ⟨_, List.mem_singleton_self _, "IEquatable", "Other.Id", "Other.Id", hsplit, hsplit, rfl⟩
  have hreview : Review.ofDescriptor (.ofDeclaration d) = .accepted
      (d.acceptedSingle "Shop" "Other.Id" [.implicitFrom, .comparable]
        (.ofList [.valueEquatable, .selfComparable, .valueComparable])) := by
    decide +kernel
  exact ⟨_, hreview, by decide +kernel, hwrites, by decide +kernel⟩

end ValueObject
