/-
# ValueObject.Proofs.Rearrangement -- what the order of a declaration decides

The only order in a declaration that generated code shows is that of the public partial properties of
a type over several values. Everything else may be written in any order: options and interfaces may
also be listed again, and members that generated code has no use for may come and go.

`Rearranged` has one constructor for each such change. One change keeps the reading of a declaration
(`Rearranged.readsAlike`), so any number of them, done or undone, keeps its outcome: the text of the
unit and the name of its file, or the list of diagnostics (`generate_rearranged`).
-/

import Mathlib.Logic.Relation
import ValueObject.Proofs.Acceptance
import ValueObject.Proofs.FieldOrder
import ValueObject.Proofs.SameReading

namespace ValueObject

/-! ## Members that matter -/

/-- The member is a public partial property. -/
def Member.isField : Member → Bool
  | .method _ => false
  | .property p => p.isPublic && p.isPartial

/-- **The member can make a difference**: it is a public partial property, or a method that is called
like a predicate or like a factory. -/
def Member.matters : Member → Bool
  | .method m => m.name == "IsValid" || m.name == "From"
  | .property p => p.isPublic && p.isPartial

/-- **One change of order or number that makes no difference.** -/
inductive Rearranged : Declaration → Declaration → Prop
  | options {d : Declaration} {t : Option String} {a b : List ValueOption} :
      d.usage = .single t a → (∀ x, x ∈ a ↔ x ∈ b) → Rearranged d { d with usage := .single t b }
  | multiOptions {d : Declaration} {a b : List MultiOption} :
      d.usage = .multi a → (∀ x, x ∈ a ↔ x ∈ b) → Rearranged d { d with usage := .multi b }
  | interfaces {d : Declaration} {is : List String} :
      (∀ i, i ∈ d.interfaces ↔ i ∈ is) → Rearranged d { d with interfaces := is }
  | singleMembers {d : Declaration} {t : Option String} {options : List ValueOption}
      {ms : List Member} :
      d.usage = .single t options → d.members.Perm ms → Rearranged d { d with members := ms }
  | multiMembers {d : Declaration} {options : List MultiOption} {ms : List Member} :
      d.usage = .multi options → d.members.Perm ms →
      d.members.filter Member.isField = ms.filter Member.isField →
      Rearranged d { d with members := ms }
  | insert {d : Declaration} {before after : List Member} {m : Member} :
      d.members = before ++ after → m.matters = false →
      Rearranged d { d with members := before ++ m :: after }

/-! ## Members -/

namespace Declaration

/-- The properties that become fields are the members that are public partial properties. -/
theorem fieldProperties_eq_filterMap (d : Declaration) :
    d.fieldProperties = (d.members.filter Member.isField).filterMap Member.property? := by
  rw [fieldProperties, properties, List.filter_filterMap, List.filterMap_filter]
  congr
  funext x
  cases x with
  | method m => rfl
  | property p => simp [Member.property?, Member.isField, Option.filter_some]

theorem collect_congr {d d' : Declaration}
    (h : d.members.filter Member.isField = d'.members.filter Member.isField) :
    Field.collect d = Field.collect d' := by
  rw [Field.collect_eq_ofProperties, Field.collect_eq_ofProperties, fieldProperties_eq_filterMap,
    fieldProperties_eq_filterMap, h]

end Declaration

/-- A method that is looked for matters. -/
theorem Member.matters_method_iff {m : Method} :
    (Member.method m).matters = true ↔ m.name = "IsValid" ∨ m.name = "From" := by
  simp [matters]

/-- A public partial property matters. -/
theorem Member.matters_of_isField {x : Member} (h : x.isField = true) : x.matters = true := by
  cases x with
  | method m => cases h
  | property p => exact h

/-- **Declarations of one shape read alike** when they have the same interfaces and the same methods
that matter. -/
theorem ReadsAlike.of_mem_iff {d d' : Declaration} (hname : d.name = d'.name)
    (hnamespace : d.namespaceName = d'.namespaceName) (hkind : d.kind = d'.kind)
    (hlocation : d.location = d'.location)
    (hshape : Descriptor.shapeOf d = Descriptor.shapeOf d')
    (hinterfaces : ∀ i, i ∈ d.interfaces ↔ i ∈ d'.interfaces)
    (hmembers : ∀ x : Member, x.matters = true → (x ∈ d.members ↔ x ∈ d'.members)) :
    ReadsAlike d d' where
  name := hname
  namespaceName := hnamespace
  kind := hkind
  location := hlocation
  shape := hshape
  marked c := by simp only [Declaration.Marked, hinterfaces, hname, hshape]
  hasPredicate types := by
    apply exists_congr
    intro m
    apply and_congr_left
    intro hm
    exact hmembers (.method m) (Member.matters_method_iff.mpr (.inl hm.name))
  hasFactory types := by
    rw [Declaration.HasFactory, Declaration.HasFactory, hname]
    apply exists_congr
    intro m
    apply and_congr_left
    intro hm
    exact hmembers (.method m) (Member.matters_method_iff.mpr (.inr hm.name))

/-! ## One change -/

/-- The shape of a declaration over one value is a matter of its attribute alone. -/
theorem Descriptor.shapeOf_single {d : Declaration} {t : Option String}
    {options : List ValueOption} (h : d.usage = .single t options) :
    shapeOf d = .single (Text.trimmed? t) (.ofList options) := by
  rw [shapeOf, h]

/-- The shape of a declaration over several values is one of its fields and its attribute. -/
theorem Descriptor.shapeOf_multi {d : Declaration} {options : List MultiOption}
    (h : d.usage = .multi options) :
    shapeOf d = .multi (Field.collect d) (.ofList options) := by
  rw [shapeOf, h]

/-- Other members with the same public partial properties, in one order, give the same shape. -/
theorem Descriptor.shapeOf_members {d : Declaration} {ms : List Member}
    (hfields : d.members.filter Member.isField = ms.filter Member.isField) :
    shapeOf d = shapeOf { d with members := ms } := by
  have hcollect : Field.collect d = Field.collect { d with members := ms } :=
    Declaration.collect_congr hfields
  unfold shapeOf
  rw [hcollect]

/-- **One change keeps the reading.** -/
theorem Rearranged.readsAlike {d d' : Declaration} (h : Rearranged d d') : ReadsAlike d d' := by
  cases h with
  | @options t a b husage hsame =>
    have hfold : ValueOptions.ofList a = .ofList b := ValueOptions.lawful.ofList_congr hsame
    refine .of_mem_iff rfl rfl rfl rfl ?_ (fun _ => Iff.rfl) (fun _ _ => Iff.rfl)
    rw [Descriptor.shapeOf_single husage, hfold]
    rfl
  | @multiOptions a b husage hsame =>
    have hfold : MultiOptions.ofList a = .ofList b := MultiOptions.lawful.ofList_congr hsame
    refine .of_mem_iff rfl rfl rfl rfl ?_ (fun _ => Iff.rfl) (fun _ _ => Iff.rfl)
    rw [Descriptor.shapeOf_multi husage, hfold]
    rfl
  | interfaces hsame => exact .of_mem_iff rfl rfl rfl rfl rfl hsame (fun _ _ => Iff.rfl)
  | @singleMembers t options ms husage hperm =>
    have hshape : Descriptor.shapeOf d = Descriptor.shapeOf { d with members := ms } := by
      unfold Descriptor.shapeOf
      rw [husage]
    exact .of_mem_iff rfl rfl rfl rfl hshape (fun _ => Iff.rfl) (fun _ _ => hperm.mem_iff)
  | @multiMembers options ms husage hperm hfields =>
    exact .of_mem_iff rfl rfl rfl rfl (Descriptor.shapeOf_members hfields) (fun _ => Iff.rfl)
      (fun _ _ => hperm.mem_iff)
  | @insert before after m hmembers hm =>
    have hfield : m.isField = false := by
      rw [Bool.eq_false_iff]
      intro hfield
      rw [Member.matters_of_isField hfield] at hm
      cases hm
    refine .of_mem_iff rfl rfl rfl rfl (Descriptor.shapeOf_members ?_) (fun _ => Iff.rfl) ?_
    · rw [hmembers, List.filter_append, List.filter_append, List.filter_cons_of_neg (by simp [hfield])]
    · intro x hx
      have hne : x ≠ m := by
        rintro rfl
        rw [hm] at hx
        cases hx
      rw [hmembers]
      simp [hne]

/-! ## Many changes -/

/-- **Order, repetition and members of no use make no difference.** However many such changes lie
between two declarations, every generator has the same outcome for both. -/
theorem generate_rearranged (g : Generator) (d d' : Declaration)
    (h : Relation.EqvGen Rearranged d d') : g.generate d = g.generate d' := by
  induction h with
  | rel d d' hchange => exact hchange.readsAlike.generate_eq g
  | refl d => rfl
  | symm d d' _ ih => exact ih.symm
  | trans d d' d'' _ _ ih ih' => exact ih.trans ih'

/-- A range of temperatures with these interfaces and members. -/
def rangeOf (interfaces : List String) (members : List Member) : Declaration where
  name := "Range"
  namespaceName := some "Weather"
  kind := .plain
  usage := .multi [.deconstruct]
  interfaces
  members

/-- The two bounds of a range. -/
def rangeBounds : List Member := [
  .property { name := "Low", typeName := "double", isValueType := true },
  .property { name := "High", typeName := "double", isValueType := true }]

/-- The predicate of a range. -/
def rangePredicate : Member := .method
  { name := "IsValid", isStatic := true, returnType := "bool"
    parameters := [⟨"low", "double"⟩, ⟨"high", "double"⟩] }

/-- The predicate may come first, an interface may be listed twice, and a method that computes the
width may be left out. -/
theorem generate_rearranged_range :
    Generator.standard.generate (rangeOf ["IEquatable<Range>"] (rangeBounds ++ [rangePredicate])) =
      Generator.standard.generate (rangeOf ["IEquatable<Range>", "IEquatable<Range>"]
        (rangePredicate :: .method { name := "Width", returnType := "double" } :: rangeBounds)) := by
  apply generate_rearranged
  have hinterfaces : Rearranged (rangeOf ["IEquatable<Range>"] (rangeBounds ++ [rangePredicate]))
      (rangeOf ["IEquatable<Range>", "IEquatable<Range>"] (rangeBounds ++ [rangePredicate])) :=
    .interfaces (by simp [rangeOf])
  have horder :
      Rearranged (rangeOf ["IEquatable<Range>", "IEquatable<Range>"] (rangeBounds ++ [rangePredicate]))
        (rangeOf ["IEquatable<Range>", "IEquatable<Range>"] (rangePredicate :: rangeBounds)) :=
    .multiMembers rfl List.perm_append_comm (by decide)
  have hwidth :
      Rearranged (rangeOf ["IEquatable<Range>", "IEquatable<Range>"] (rangePredicate :: rangeBounds))
        (rangeOf ["IEquatable<Range>", "IEquatable<Range>"]
          (rangePredicate :: .method { name := "Width", returnType := "double" } :: rangeBounds)) :=
    @Rearranged.insert _ [rangePredicate] rangeBounds _ rfl (by decide)
  exact .trans _ _ _ (.rel _ _ hinterfaces) (.trans _ _ _ (.rel _ _ horder) (.rel _ _ hwidth))

end ValueObject
