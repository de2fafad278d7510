/-
# ValueObject.Proofs.Respelling -- what the spelling of a declaration decides

A type may be spelled in several ways, and the parameters of a method may be called anything. Two
declarations that differ in no more than that are **respelled** (`Respelled`): types of parameters, the
return type of a method called like a predicate, and the arguments of interfaces may each be replaced
by a type with the same canonical spelling, and an interface that is not generic by any other such.

Types are compared in several places: in the search for a predicate and for a factory, and where an
interface is held against the type itself and against its datatype. Each of them looks at canonical
spellings only, so respelled declarations read alike (`Respelled.readsAlike`) and have the same outcome
(`generate_respelled`).
-/

import ValueObject.Proofs.Acceptance
import ValueObject.Proofs.SameReading

namespace ValueObject

open ValueObject.TypeName (canonical splitGeneric)

/-! ## Respelled declarations -/

/-- **The methods differ in spelling only.** Parameters may have other names, and types of parameters
another spelling; so may the return type, if the method is called like a predicate. -/
structure Method.Respelled (m m' : Method) : Prop where
  name : m.name = m'.name
  isStatic : m.isStatic = m'.isStatic
  isPartial : m.isPartial = m'.isPartial
  location : m.location = m'.location
  returnType : m.returnType = m'.returnType ∨
    (m.name = "IsValid" ∧ canonical m.returnType = canonical m'.returnType)
  parameters : m.parameters.map (fun p => canonical p.typeName) =
    m'.parameters.map (fun p => canonical p.typeName)

/-- **The members differ in spelling only.** Properties do not differ. -/
inductive Member.Respelled : Member → Member → Prop
  | method {m m' : Method} : m.Respelled m' → Respelled (.method m) (.method m')
  | property (p : Property) : Respelled (.property p) (.property p)

/-- **The interfaces differ in spelling only.** Neither is generic, or both have one base and arguments
with one canonical spelling. -/
inductive RespelledInterface (i i' : String) : Prop
  | plain : splitGeneric i = none → splitGeneric i' = none → RespelledInterface i i'
  | generic {base argument argument' : String} :
      splitGeneric i = some (base, argument) → splitGeneric i' = some (base, argument') →
      canonical argument = canonical argument' → RespelledInterface i i'

/-- **The declarations differ in spelling only.** -/
structure Respelled (d d' : Declaration) : Prop where
  name : d.name = d'.name
  namespaceName : d.namespaceName = d'.namespaceName
  kind : d.kind = d'.kind
  usage : d.usage = d'.usage
  location : d.location = d'.location
  interfaces : List.Forall₂ RespelledInterface d.interfaces d'.interfaces
  members : List.Forall₂ Member.Respelled d.members d'.members

/-! ## Lists that are related entry by entry -/

theorem exists_mem_iff_of_forall₂ {α : Type} {R : α → α → Prop} {P : α → Prop} {as bs : List α}
    (h : List.Forall₂ R as bs) (hP : ∀ a b, R a b → (P a ↔ P b)) :
    (∃ a ∈ as, P a) ↔ ∃ b ∈ bs, P b := by
  induction h with
  | nil => simp
  | cons hab _ ih => simp only [List.exists_mem_cons_iff, hP _ _ hab, ih]

/-! ## Interfaces -/

/-- Respelled interfaces mark the same capabilities. -/
theorem RespelledInterface.marks_iff {i i' : String} (h : RespelledInterface i i') (name : String)
    (datatype : Option String) (c : Capability) :
    CapabilitySet.Marks name datatype c i ↔ CapabilitySet.Marks name datatype c i' := by
  unfold CapabilitySet.Marks
  cases h with
  | plain hi hi' => rw [hi, hi']
  | @generic base argument argument' hi hi' hcanonical =>
    -- an argument is compared with the type and with the datatype by its canonical spelling
    have hname : CapabilitySet.namesType argument name = CapabilitySet.namesType argument' name := by
      rw [CapabilitySet.namesType, CapabilitySet.namesType, hcanonical]
    have hdatatype : CapabilitySet.namesDatatype argument datatype =
        CapabilitySet.namesDatatype argument' datatype := by
      unfold CapabilitySet.namesDatatype TypeName.same
      rw [hcanonical]
    simp [hi, hi', hname, hdatatype]

/-! ## Methods -/

namespace Method

/-- What a method takes is a matter of the canonical spellings of its parameter types. -/
theorem takes_iff {m : Method} {types : List String} :
    m.Takes types ↔ m.parameters.map (fun p => canonical p.typeName) = types.map canonical := by
  rw [Takes, ← List.forall₂_eq_eq_eq, List.forall₂_map_left_iff, List.forall₂_map_right_iff]

namespace Respelled

variable {m m' : Method}

theorem symm (h : m.Respelled m') : m'.Respelled m where
  name := h.name.symm
  isStatic := h.isStatic.symm
  isPartial := h.isPartial.symm
  location := h.location.symm
  returnType := by
    rcases h.returnType with hsame | ⟨hname, hcanonical⟩
    · exact .inl hsame.symm
    · exact .inr ⟨h.name.symm.trans hname, hcanonical.symm⟩
  parameters := h.parameters.symm

theorem takes (h : m.Respelled m') {types : List String} (hm : m.Takes types) : m'.Takes types := by
  rw [takes_iff] at hm ⊢
  exact h.parameters.symm.trans hm

/-- The canonical spelling of the return type is kept under any name. -/
theorem canonical_returnType (h : m.Respelled m') :
    canonical m.returnType = canonical m'.returnType := by
  rcases h.returnType with hsame | ⟨-, hcanonical⟩
  · rw [hsame]
  · exact hcanonical

/-- The return type of a factory is kept as it is. -/
theorem returnType_of_from (h : m.Respelled m') (hname : m.name = "From") :
    m.returnType = m'.returnType := by
  rcases h.returnType with hsame | ⟨hvalid, -⟩
  · exact hsame
  · rw [hname] at hvalid
    exact absurd hvalid (by decide)

theorem isPredicate (h : m.Respelled m') {types : List String} (hm : m.IsPredicate types) :
    m'.IsPredicate types where
  name := h.name.symm.trans hm.name
  isStatic := h.isStatic.symm.trans hm.isStatic
  isWhole := h.isPartial.symm.trans hm.isWhole
  returnType := h.canonical_returnType.symm.trans hm.returnType
  takes := h.takes hm.takes

theorem isFactory (h : m.Respelled m') {typeName : String} {types : List String}
    (hm : m.IsFactory typeName types) : m'.IsFactory typeName types where
  name := h.name.symm.trans hm.name
  isStatic := h.isStatic.symm.trans hm.isStatic
  isPartial := h.isPartial.symm.trans hm.isPartial
  returnType := by
    rw [← h.returnType_of_from hm.name]
    exact hm.returnType
  takes := h.takes hm.takes

end Respelled

end Method

/-! ## Declarations -/

/-- Respelled members have the same properties among them. -/
theorem Member.filterMap_property?_eq {xs ys : List Member}
    (h : List.Forall₂ Member.Respelled xs ys) :
    xs.filterMap Member.property? = ys.filterMap Member.property? := by
  induction h with
  | nil => rfl
  | cons hmember _ ih =>
    cases hmember with
    | method _ => exact ih
    | property p => exact congrArg (p :: ·) ih

namespace Respelled

variable {d d' : Declaration}

/-- The attribute and the fields of respelled declarations are the same. -/
theorem shapeOf_eq (h : Respelled d d') : Descriptor.shapeOf d = Descriptor.shapeOf d' := by
  have hcollect : Field.collect d = Field.collect d' := by
    unfold Field.collect Declaration.properties
    rw [Member.filterMap_property?_eq h.members]
  unfold Descriptor.shapeOf
  rw [h.usage, hcollect]

/-- A method with a property that spelling does not touch is declared in both or in neither. -/
theorem exists_method_iff (h : Respelled d d') {P : Method → Prop}
    (hP : ∀ m m', m.Respelled m' → (P m ↔ P m')) :
    (∃ m, .method m ∈ d.members ∧ P m) ↔ ∃ m, .method m ∈ d'.members ∧ P m := by
  have hmember : ∀ x y : Member, x.Respelled y →
      ((∃ m, .method m = x ∧ P m) ↔ ∃ m, .method m = y ∧ P m) := by
    intro x y hxy
    cases hxy with
    | property p => exact Iff.rfl
    | @method m m' hm => simpa using hP m m' hm
  have hmembers := exists_mem_iff_of_forall₂ h.members hmember
  simpa [exists_and_left, and_comm, and_assoc] using hmembers

/-- **Respelled declarations read alike.** -/
theorem readsAlike (h : Respelled d d') : ReadsAlike d d' where
  name := h.name
  namespaceName := h.namespaceName
  kind := h.kind
  location := h.location
  shape := h.shapeOf_eq
  marked c := by
    rw [Declaration.Marked, Declaration.Marked, h.name, h.shapeOf_eq]
    exact exists_mem_iff_of_forall₂ h.interfaces fun _ _ hi => hi.marks_iff _ _ c
  hasPredicate types := h.exists_method_iff fun _ _ hm => ⟨hm.isPredicate, hm.symm.isPredicate⟩
  hasFactory types := by
    rw [Declaration.HasFactory, Declaration.HasFactory, h.name]
    exact h.exists_method_iff fun _ _ hm => ⟨hm.isFactory, hm.symm.isFactory⟩

end Respelled

/-- **Spelling makes no difference.** Every generator has the same outcome for declarations that differ
in spelling only. -/
theorem generate_respelled (g : Generator) (d d' : Declaration) (h : Respelled d d') :
    g.generate d = g.generate d' :=
  h.readsAlike.generate_eq g

/-- An age in years, with the types of its interface and of its predicate spelled in some way. -/
def ageOf (interface returnType parameter parameterType : String) : Declaration where
  name := "Age"
  namespaceName := some "People"
  usage := .single (some "int") []
  interfaces := ["System.ICloneable", interface]
  members := [.method
    { name := "IsValid", isStatic := true, returnType, parameters := [⟨parameter, parameterType⟩] }]

theorem generate_respelled_age :
    Generator.standard.generate (ageOf "IComparable<int>" "bool" "years" "int") =
      Generator.standard.generate (ageOf "global::System.IComparable< System.Int32 >"
        "System.Boolean" "n" "global::System.Int32") := by
  apply generate_respelled
  have hclone : RespelledInterface "System.ICloneable" "System.ICloneable" :=
    .plain (by decide +kernel) (by decide +kernel)
  have hinterface :
      RespelledInterface "IComparable<int>" "global::System.IComparable< System.Int32 >" := by
    have hplain : splitGeneric "IComparable<int>" = some ("IComparable", "int") := by
      decide +kernel
    have hfull : splitGeneric "global::System.IComparable< System.Int32 >" =
        some ("IComparable", "System.Int32") := by decide +kernel
    exact .generic hplain hfull (by decide +kernel)
  refine ⟨rfl, rfl, rfl, rfl, rfl, .cons hclone (.cons hinterface .nil), .cons (.method ?_) .nil⟩
  exact ⟨rfl, rfl, rfl, rfl, .inr ⟨rfl, by decide +kernel⟩, by decide +kernel⟩

end ValueObject
