/-
# ValueObject.Proofs.Source.DeclaredMembers -- which members generated code declares

Each piece of code in the body of a type declares one member, and the line it begins with says which:
modifiers and a type, then the name, then the mark that stands behind a name of its kind. Where the
parameters count too, they follow up to the closing bracket (`Code.DeclaresTaking`). For a type over
several values, `declaredMembers` lists the members part by part, and the code declares exactly them,
one after the other (`declares_members`).

With that, a question about the members of a generated type is one about a list of names. What is
answered here is when members of different kinds have different names (`namesApart_iff`).
-/

import Mathlib.Data.List.Forall2
import ValueObject.Proofs.DerivedNames
import ValueObject.Source.MultiValue

namespace ValueObject.Source

/-! ## Members of a type -/

/-- What a member of a type is. -/
inductive MemberKind where
  | backingField
  | property
  | method
  | constructor
  | operator
  deriving DecidableEq, Repr

namespace MemberKind

/-- What stands behind the name where a member is declared. -/
def mark : MemberKind → String
  | backingField => ";"
  | property => " => "
  | method | constructor | operator => "("

end MemberKind

/-- A member as it is declared: its kind, the modifiers and the type in front of its name, and the
name. -/
structure DeclaredMember where
  kind : MemberKind
  front : String
  name : String
  deriving DecidableEq, Repr

/-- The beginning of a declaration, up to the mark behind the name. -/
def DeclaredMember.signature (m : DeclaredMember) : String :=
  m.front ++ " " ++ m.name ++ m.kind.mark

namespace Code

/-- The line that a piece of code begins with. -/
def head : Code → String
  | line text => text
  | block header _ => header

/-- The piece of code declares the member. -/
def Declares (c : Code) (m : DeclaredMember) : Prop :=
  Text.startsWith m.signature c.head = true

/-- The piece of code declares the member, which takes these parameters. -/
def DeclaresTaking (c : Code) (m : DeclaredMember × String) : Prop :=
  Text.startsWith (m.1.signature ++ m.2 ++ ")") c.head = true

end Code

/-- The names of the members of one kind, in order. -/
def namesOf (kind : MemberKind) (ms : List DeclaredMember) : List String :=
  (ms.filter (·.kind == kind)).map DeclaredMember.name

/-- **Members of different kinds have different names.** -/
structure NamesApart (ms : List DeclaredMember) : Prop where
  property_backing : ∀ x ∈ namesOf .property ms, x ∉ namesOf .backingField ms
  property_method : ∀ x ∈ namesOf .property ms, x ∉ namesOf .method ms
  backing_method : ∀ x ∈ namesOf .backingField ms, x ∉ namesOf .method ms

theorem namesOf_append (kind : MemberKind) (a b : List DeclaredMember) :
    namesOf kind (a ++ b) = namesOf kind a ++ namesOf kind b := by
  rw [namesOf, List.filter_append, List.map_append]
  rfl

/-- The names of one kind are collected part by part. -/
theorem namesOf_flatMap {α : Type} (kind : MemberKind) (xs : List α)
    (f : α → List DeclaredMember) :
    namesOf kind (xs.flatMap f) = xs.flatMap fun x => namesOf kind (f x) := by
  induction xs with
  | nil => rfl
  | cons x xs ih => rw [List.flatMap_cons, List.flatMap_cons, namesOf_append, ih]

namespace MultiValue

/-! ## The members of a type over several values -/

/-- The members that a part declares, in the order of its code. -/
def declared (v : MultiValue) : Part → List DeclaredMember
  | .defaultConstructor => [⟨.constructor, "public", v.name⟩]
  | .constructor => [⟨.constructor, access v.options.constructor, v.name⟩]
  | .property f =>
    [⟨.backingField, "private readonly " ++ TypeName.nullable f.typeName, f.backing⟩,
      ⟨.property, "public partial " ++ f.typeName, f.name⟩]
  | .overrides =>
    [⟨.method, "public override string", "ToString"⟩,
      ⟨.method, "public override bool", "Equals"⟩,
      ⟨.method, "public override int", "GetHashCode"⟩]
  | .factory => [⟨.method, "public static " ++ partialWord v.factory.isSome ++ v.name, "From"⟩]
  | .deconstruct => [⟨.method, "public void", "Deconstruct"⟩]
  | .tryCreate => v.predicate.toList.map fun _ => ⟨.method, "public static bool", "Try"⟩
  | .equality =>
    [⟨.method, "public bool", "Equals"⟩,
      ⟨.operator, "public static bool operator", "=="⟩,
      ⟨.operator, "public static bool operator", "!="⟩]

/-- **The members of the type**, in order. -/
def declaredMembers (v : MultiValue) : List DeclaredMember :=
  v.parts.flatMap v.declared

-- a signature is compared with a line text by text, and these texts are not looked into
attribute [local irreducible] Code.braced throwing access partialWord TypeName.nullable
  Field.parameter Field.backing commaList outParameter
attribute [local simp] Code.Declares Code.head DeclaredMember.signature MemberKind.mark
  Text.startsWith

/-- In both of its forms the hash is declared alike. -/
theorem declares_hashCode (v : MultiValue) :
    v.hashCode.Declares ⟨.method, "public override int", "GetHashCode"⟩ := by
  unfold hashCode
  split
  · simp
  · simp

/-- **Each part declares its members**, one with each piece of its code. -/
theorem declares_code (v : MultiValue) (p : Part) :
    List.Forall₂ Code.Declares (v.code p) (v.declared p) := by
  cases p with
  | defaultConstructor => simp [code, declared, defaultConstructor]
  | constructor => simp [code, declared, constructorCode]
  | property f => simp [code, declared, propertyCode]
  | overrides =>
    refine .cons ?_ (.cons ?_ (.cons v.declares_hashCode .nil))
    · simp
    · simp
  | factory => simp [code, declared]
  | deconstruct => simp [code, declared, deconstructCode]
  | tryCreate =>
    rw [code, declared]
    cases v.predicate with
    | none => exact .nil
    | some predicate => simp [tryCode]
  | equality => simp [code, declared, equalityCode, equalityOperators]

/-- The members of parts are declared one after the other, and nothing else is. -/
theorem declares_flatMap (v : MultiValue) (parts : List Part) :
    List.Forall₂ Code.Declares (parts.flatMap v.code) (parts.flatMap v.declared) := by
  induction parts with
  | nil => exact .nil
  | cons p rest ih =>
    rw [List.flatMap_cons, List.flatMap_cons]
    exact List.rel_append (v.declares_code p) ih

/-- **The code of the type declares its members**, one with each piece. -/
theorem declares_members (v : MultiValue) :
    List.Forall₂ Code.Declares v.members v.declaredMembers :=
  v.declares_flatMap v.parts

/-! ## Their names -/

/-- The names of the methods: which there are is a matter of the kind of the type, the options, the
factory, the predicate and the capabilities. -/
def methodNames (v : MultiValue) : List String :=
  (if v.isRecord then [] else ["ToString", "Equals", "GetHashCode"]) ++
  (if v.options.explicitFrom || v.factory.isSome then ["From"] else []) ++
  (if v.options.deconstruct then ["Deconstruct"] else []) ++
  (if v.predicate.isSome then ["Try"] else []) ++
  (if v.capabilities.contains .selfEquatable then ["Equals"] else [])

theorem namesOf_backingField (v : MultiValue) :
    namesOf .backingField v.declaredMembers = v.fields.map Field.backing := by
  rw [declaredMembers, namesOf_flatMap, flatMap_parts, List.map_eq_flatMap]
  simp [declared, namesOf]

theorem namesOf_property (v : MultiValue) :
    namesOf .property v.declaredMembers = v.fields.map Field.name := by
  rw [declaredMembers, namesOf_flatMap, flatMap_parts, List.map_eq_flatMap]
  simp [declared, namesOf]

theorem namesOf_method (v : MultiValue) : namesOf .method v.declaredMembers = v.methodNames := by
  have hproperties :
      v.fields.flatMap (fun f => namesOf .method (v.declared (.property f))) = [] := by
    simp [declared, namesOf]
  have htry : (if v.predicate.isSome then namesOf .method (v.declared .tryCreate) else []) =
      if v.predicate.isSome then ["Try"] else [] := by
    rw [declared]
    cases v.predicate with
    | none => rfl
    | some predicate => rfl
  rw [declaredMembers, namesOf_flatMap, flatMap_parts, hproperties, htry]
  rfl

/-! ## When members of different kinds have different names -/

/-- All methods that there can be. -/
theorem methodNames_subset (v : MultiValue) :
    v.methodNames ⊆ ["ToString", "Equals", "GetHashCode", "From", "Deconstruct", "Try"] := by
  intro x hx
  simp only [methodNames, List.mem_append] at hx
  grind

/-- No method has the name of a backing field: those start with a mark. -/
theorem backing_not_mem_methodNames (v : MultiValue) (f : Field) :
    f.backing ∉ v.methodNames := by
  have hmark : f.backing.toList.head? = some '_' := by
    simp [Field.backing, Identifier.backingName]
  intro hmem
  have hlisted := v.methodNames_subset hmem
  revert hmark
  generalize f.backing = x at hlisted
  revert x
  decide

/-- **The members have different names** exactly when no property is called like a method of the type
or like the backing field of a property. -/
theorem namesApart_iff (v : MultiValue) :
    NamesApart v.declaredMembers ↔
      ∀ p ∈ v.fields, p.name ∉ v.methodNames ∧ ∀ q ∈ v.fields, p.name ≠ q.backing := by
  constructor
  · rintro ⟨hbacking, hmethod, -⟩ p hp
    rw [namesOf_property, namesOf_backingField] at hbacking
    rw [namesOf_property, namesOf_method] at hmethod
    have hname : p.name ∈ v.fields.map Field.name := List.mem_map.mpr ⟨p, hp, rfl⟩
    refine ⟨hmethod p.name hname, ?_⟩
    intro q hq heq
    exact hbacking p.name hname (List.mem_map.mpr ⟨q, hq, heq.symm⟩)
  · intro h
    refine ⟨?_, ?_, ?_⟩
    · rw [namesOf_property, namesOf_backingField]
      intro x hx hbacking
      obtain ⟨p, hp, rfl⟩ := List.mem_map.mp hx
      obtain ⟨q, hq, heq⟩ := List.mem_map.mp hbacking
      exact (h p hp).2 q hq heq.symm
    · rw [namesOf_property, namesOf_method]
      intro x hx
      obtain ⟨p, hp, rfl⟩ := List.mem_map.mp hx
      exact (h p hp).1
    · rw [namesOf_backingField, namesOf_method]
      intro x hx
      obtain ⟨q, -, rfl⟩ := List.mem_map.mp hx
      exact v.backing_not_mem_methodNames q

end MultiValue

end ValueObject.Source
