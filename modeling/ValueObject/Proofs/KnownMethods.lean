/-
# ValueObject.Proofs.KnownMethods -- the two methods that generated code works with

A declaration may come with a predicate and with a factory. Reading it searches the methods for
either, by name, modifiers, return type and parameters. What a method must be like is stated here
without the search and without the functions that compare types (`Method.IsPredicate`,
`Method.IsFactory`), and what is found is said to be there exactly when such a method is declared
(`predicate_eq_some_iff`, `factory_eq_some_iff`). Which of several matching methods is found makes no
difference, because all that is kept of it is its name.
-/

import Mathlib.Data.List.Forall2
import ValueObject.Descriptor

namespace ValueObject

open Text

/-! ## Signatures -/

/-- The name is `short`, or a qualifier, a dot and `short`. -/
def TypeName.Names (name short : String) : Prop :=
  name = short ∨ ∃ qualifier, name = qualifier ++ "." ++ short

theorem TypeName.qualifies_iff {name short : String} :
    qualifies name short = true ↔ Names name short := by
  rw [qualifies, Bool.or_eq_true, beq_iff_eq, endsWith_iff]
  apply or_congr_right
  constructor
  · rintro ⟨front, hfront⟩
    refine ⟨String.ofList front, ?_⟩
    rw [← String.toList_inj, ← hfront]
    simp
  · rintro ⟨qualifier, rfl⟩
    exact ⟨qualifier.toList, by simp⟩

/-- **The method takes these types**, one for one and in order, however they are spelled. -/
def Method.Takes (m : Method) (types : List String) : Prop :=
  List.Forall₂ (fun p t => TypeName.canonical p.typeName = TypeName.canonical t) m.parameters types

theorem Descriptor.parametersMatch_iff {parameters : List Parameter} {types : List String} :
    parametersMatch parameters types = true ↔
      List.Forall₂ (fun p t => TypeName.canonical p.typeName = TypeName.canonical t) parameters
        types := by
  rw [List.forall₂_iff_zip, parametersMatch, Bool.and_eq_true, beq_iff_eq, List.all_eq_true]
  simp only [TypeName.same_iff, Prod.forall]

/-- **The method is a predicate over these types**: `static bool IsValid(...)`, and not partial. -/
structure Method.IsPredicate (m : Method) (types : List String) : Prop where
  name : m.name = "IsValid"
  isStatic : m.isStatic = true
  isWhole : m.isPartial = false
  returnType : TypeName.canonical m.returnType = "System.Boolean"
  takes : m.Takes types

/-- **The method is a factory of the type called `typeName` over these types**:
`static partial T From(...)`. -/
structure Method.IsFactory (m : Method) (typeName : String) (types : List String) : Prop where
  name : m.name = "From"
  isStatic : m.isStatic = true
  isPartial : m.isPartial = true
  returnType : TypeName.Names (trim m.returnType) typeName
  takes : m.Takes types

namespace Descriptor

theorem isPredicate_iff {m : Method} {types : List String} :
    isPredicate types m = true ↔ m.IsPredicate types := by
  have hbool : TypeName.canonical "bool" = "System.Boolean" := by decide +kernel
  simp only [isPredicate, Bool.and_eq_true, beq_iff_eq, Bool.not_eq_true', parametersMatch_iff,
    TypeName.same_iff, hbool]
  constructor
  · rintro ⟨⟨⟨⟨hname, hstatic⟩, hwhole⟩, hreturn⟩, htakes⟩
    exact ⟨hname, hstatic, hwhole, hreturn, htakes⟩
  · rintro ⟨hname, hstatic, hwhole, hreturn, htakes⟩
    exact ⟨⟨⟨⟨hname, hstatic⟩, hwhole⟩, hreturn⟩, htakes⟩

theorem isFactory_iff {m : Method} {typeName : String} {types : List String} :
    isFactory typeName types m = true ↔ m.IsFactory typeName types := by
  simp only [isFactory, Bool.and_eq_true, beq_iff_eq, parametersMatch_iff, TypeName.qualifies_iff]
  constructor
  · rintro ⟨⟨⟨⟨hname, hstatic⟩, hpartial⟩, hreturn⟩, htakes⟩
    exact ⟨hname, hstatic, hpartial, hreturn, htakes⟩
  · rintro ⟨hname, hstatic, hpartial, hreturn, htakes⟩
    exact ⟨⟨⟨⟨hname, hstatic⟩, hpartial⟩, hreturn⟩, htakes⟩

end Descriptor

/-! ## Declarations that have them -/

namespace Declaration

/-- A predicate over these types is declared. -/
def HasPredicate (d : Declaration) (types : List String) : Prop :=
  ∃ m, .method m ∈ d.members ∧ m.IsPredicate types

/-- A factory over these types is declared. -/
def HasFactory (d : Declaration) (types : List String) : Prop :=
  ∃ m, .method m ∈ d.members ∧ m.IsFactory d.name types

theorem mem_methods {d : Declaration} {m : Method} : m ∈ d.methods ↔ .method m ∈ d.members := by
  rw [methods, List.mem_filterMap]
  constructor
  · rintro ⟨x, hx, hmethod⟩
    cases x with
    | method y => exact Option.some.inj hmethod ▸ hx
    | property p => cases hmethod
  · intro hm
    exact ⟨.method m, hm, rfl⟩

end Declaration

namespace Descriptor

/-- A search for methods of one name finds that name, if there is such a method. -/
theorem map_name_find?_eq_some_iff {methods : List Method} {p : Method → Bool} {name x : String}
    (hp : ∀ m, p m = true → m.name = name) :
    (methods.find? p).map Method.name = some x ↔ x = name ∧ ∃ m ∈ methods, p m = true := by
  constructor
  · intro h
    obtain ⟨m, hfind, rfl⟩ := Option.map_eq_some_iff.mp h
    have hm := List.find?_some hfind
    exact ⟨hp m hm, m, List.mem_of_find?_eq_some hfind, hm⟩
  · rintro ⟨rfl, m, hmem, hm⟩
    obtain ⟨k, hk⟩ := Option.isSome_iff_exists.mp (List.find?_isSome.mpr ⟨m, hmem, hm⟩)
    rw [hk, Option.map_some, hp k (List.find?_some hk)]

/-- Either search goes over the types of the constructor, if they are known. -/
theorem search_eq_some_iff {d : Declaration} {p : List String → Method → Bool} {name x : String}
    (hp : ∀ types m, p types m = true → m.name = name) :
    ((shapeOf d).parameterTypes?.bind fun types => (d.methods.find? (p types)).map Method.name) =
        some x ↔
      x = name ∧ ∃ types, (shapeOf d).parameterTypes? = some types ∧
        ∃ m, .method m ∈ d.members ∧ p types m = true := by
  simp only [Option.bind_eq_some_iff, map_name_find?_eq_some_iff (hp _), Declaration.mem_methods]
  grind

/-- **A predicate is found exactly when one is declared** over the types of the constructor. -/
theorem predicate_eq_some_iff {d : Declaration} {x : String} :
    (ofDeclaration d).predicate = some x ↔
      x = predicateName ∧ ∃ types, (shapeOf d).parameterTypes? = some types ∧
        d.HasPredicate types := by
  have hname : ∀ types m, isPredicate types m = true → m.name = predicateName :=
    fun types m h => (isPredicate_iff.mp h).name
  have hsearch := search_eq_some_iff (d := d) (x := x) hname
  simp only [isPredicate_iff] at hsearch
  exact hsearch

/-- **A factory is found exactly when one is declared** over the types of the constructor. -/
theorem factory_eq_some_iff {d : Declaration} {x : String} :
    (ofDeclaration d).factory = some x ↔
      x = factoryName ∧ ∃ types, (shapeOf d).parameterTypes? = some types ∧
        d.HasFactory types := by
  have hname : ∀ types m, isFactory d.name types m = true → m.name = factoryName :=
    fun types m h => (isFactory_iff.mp h).name
  have hsearch := search_eq_some_iff (d := d) (x := x) hname
  simp only [isFactory_iff] at hsearch
  exact hsearch

end Descriptor

end ValueObject
