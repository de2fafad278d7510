/-
# ValueObject.Proofs.SameReading -- declarations that read alike

A generator sees of a declaration only what reading it has kept. Two declarations **read alike** when
they agree on that: on name, namespace, kind and position, on the shape that the attribute gives them,
and on the three questions that are asked of interfaces and methods, each of which is answered by yes
or no. Whatever else differs between them, their outcome is the same (`ReadsAlike.generate_eq`).

A law that relates two runs of a generator then says what keeps the reading, and needs to look at no
review and at no code.
-/

import ValueObject.Generation
import ValueObject.Proofs.InterfaceMarks
import ValueObject.Proofs.KnownMethods

namespace ValueObject

attribute [ext] Descriptor

/-- **The declarations read alike.** -/
structure ReadsAlike (d d' : Declaration) : Prop where
  name : d.name = d'.name
  namespaceName : d.namespaceName = d'.namespaceName
  kind : d.kind = d'.kind
  location : d.location = d'.location
  shape : Descriptor.shapeOf d = Descriptor.shapeOf d'
  marked : ∀ c, d.Marked c ↔ d'.Marked c
  hasPredicate : ∀ types, d.HasPredicate types ↔ d'.HasPredicate types
  hasFactory : ∀ types, d.HasFactory types ↔ d'.HasFactory types

/-! ## Sets of capabilities -/

/-- Each of the lower bits of a set stands for a capability. -/
theorem Capability.exists_index {n : Nat} (h : n < 6) : ∃ c : Capability, c.index = n := by
  match n, h with
  | 0, _ => exact ⟨.selfEquatable, rfl⟩
  | 1, _ => exact ⟨.valueEquatable, rfl⟩
  | 2, _ => exact ⟨.selfComparable, rfl⟩
  | 3, _ => exact ⟨.valueComparable, rfl⟩
  | 4, _ => exact ⟨.parsable, rfl⟩
  | 5, _ => exact ⟨.spanParsable, rfl⟩

/-- **Two sets with the same members are the same set.** -/
theorem CapabilitySet.ext_contains {s t : CapabilitySet} (h : ∀ c, s.contains c = t.contains c) :
    s = t := by
  have hbits : s.bits = t.bits := by
    apply BitVec.eq_of_getLsbD_eq
    intro n _
    by_cases hn : n < 6
    · obtain ⟨c, rfl⟩ := Capability.exists_index hn
      exact h c
    · rw [s.high_clear n (Nat.not_lt.mp hn), t.high_clear n (Nat.not_lt.mp hn)]
  cases s
  cases t
  rw [CapabilitySet.mk.injEq]
  exact hbits

/-! ## Descriptors and outcomes -/

namespace ReadsAlike

variable {d d' : Declaration}

/-- Declarations that read alike have one descriptor. -/
theorem ofDeclaration_eq (h : ReadsAlike d d') :
    Descriptor.ofDeclaration d = Descriptor.ofDeclaration d' := by
  have hdeclared : (Descriptor.ofDeclaration d).declared =
      (Descriptor.ofDeclaration d').declared := by
    apply CapabilitySet.ext_contains
    intro c
    rw [Bool.eq_iff_iff, Declaration.contains_declared, Declaration.contains_declared, h.marked]
  have hpredicate : (Descriptor.ofDeclaration d).predicate =
      (Descriptor.ofDeclaration d').predicate := by
    ext x
    simp only [Descriptor.predicate_eq_some_iff, h.shape, h.hasPredicate]
  have hfactory : (Descriptor.ofDeclaration d).factory =
      (Descriptor.ofDeclaration d').factory := by
    ext x
    simp only [Descriptor.factory_eq_some_iff, h.shape, h.hasFactory]
  have hrecord : d.isRecord = d'.isRecord := by
    rw [Declaration.isRecord, Declaration.isRecord, h.kind]
  exact Descriptor.ext h.name h.namespaceName h.shape hrecord hdeclared hpredicate hfactory
    h.location

/-- **Declarations that read alike have the same outcome**, with every generator. -/
theorem generate_eq (h : ReadsAlike d d') (g : Generator) : g.generate d = g.generate d' := by
  unfold Generator.generate
  rw [h.ofDeclaration_eq]

end ReadsAlike

end ValueObject
