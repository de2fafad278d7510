/-
# ValueObject.Proofs.SetOperations -- sets of capabilities as finite sets

A set of capabilities is kept as a word. `Represents` says which finite set a word stands for, and in
terms of everything that can be asked of it: membership, the number of members, whether there are any,
and the list of them. All of this follows from membership (`represents_iff`).

The operations are stated once for any way of keeping sets, and run on words and on finite sets side by
side. Each of them keeps representation, so after any operations the word stands for the finite set that
the same operations lead to, and two words are the same exactly if their finite sets are
(`run_represents`).
-/

import Mathlib.Data.Finset.Card
import Mathlib.Data.Finset.Dedup
import Mathlib.Data.Finset.SDiff
import ValueObject.Proofs.SameReading

namespace ValueObject.CapabilitySet

/-! ## Which finite set a word stands for -/

/-- **The set stands for a finite set**: whatever is asked of it is answered as for the finite set, and
its members are listed once each, in the one order of all capabilities. -/
structure Represents (s : CapabilitySet) (members : Finset Capability) : Prop where
  contains_iff : ∀ c, s.contains c = true ↔ c ∈ members
  size_eq : s.size = members.card
  isEmpty_iff : s.isEmpty = true ↔ members = ∅
  toList_eq : s.toList = Capability.all.filter (· ∈ members)
  count_toList : ∀ c ∈ members, s.toList.count c = 1

/-- The members are as many as are listed. -/
theorem size_eq_length_toList (s : CapabilitySet) : s.size = s.toList.length := by
  have hindices : List.range 8 = Capability.all.map Capability.index ++ [6, 7] := by decide
  have hhigh : [6, 7].countP s.bits.getLsbD = 0 := by
    rw [List.countP_eq_zero]
    intro n hn
    have hle : 6 ≤ n := by simp at hn; omega
    rw [s.high_clear n hle]
    exact Bool.false_ne_true
  rw [size, hindices, List.countP_append, hhigh, Nat.add_zero, List.countP_map, toList,
    ← List.countP_eq_length_filter]
  rfl

/-- No capability is listed twice. -/
theorem nodup_toList (s : CapabilitySet) : s.toList.Nodup :=
  Capability.nodup_all.filter _

/-- A word without bits is the one set without members. -/
theorem isEmpty_iff_forall {s : CapabilitySet} :
    s.isEmpty = true ↔ ∀ c, s.contains c = false := by
  have hempty : s.isEmpty = true ↔ s = empty := by
    rw [isEmpty, beq_iff_eq]
    cases s
    rw [empty, mk.injEq]
  rw [hempty]
  constructor
  · rintro rfl
    exact contains_empty
  · intro h
    apply ext_contains
    intro c
    rw [h, contains_empty]

/-- **Membership decides the rest.** -/
theorem represents_iff {s : CapabilitySet} {members : Finset Capability} :
    Represents s members ↔ ∀ c, s.contains c = true ↔ c ∈ members := by
  refine ⟨Represents.contains_iff, fun h => ?_⟩
  have hfinset : s.toList.toFinset = members := by
    ext c
    rw [List.mem_toFinset, mem_toList, h]
  refine ⟨h, ?_, ?_, ?_, ?_⟩
  · rw [size_eq_length_toList, ← hfinset, List.toFinset_card_of_nodup s.nodup_toList]
  · simp only [isEmpty_iff_forall, Finset.eq_empty_iff_forall_notMem, ← h, Bool.not_eq_true]
  · simp only [toList, ← h, Bool.decide_eq_true]
  · intro c hc
    apply List.count_eq_one_of_mem s.nodup_toList
    rwa [mem_toList, h]

/-- Two words are the same exactly if they stand for the same finite set. -/
theorem Represents.eq_iff {s t : CapabilitySet} {members others : Finset Capability}
    (h : Represents s members) (h' : Represents t others) : s = t ↔ members = others := by
  constructor
  · rintro rfl
    ext c
    rw [← h.contains_iff, h'.contains_iff]
  · rintro rfl
    apply ext_contains
    intro c
    rw [Bool.eq_iff_iff, h.contains_iff, h'.contains_iff]

/-! ## Operations -/

/-- **A way of keeping sets**, given by what can be done with them. -/
structure Keeping (σ : Type) where
  empty : σ
  insert : σ → Capability → σ
  ofList : List Capability → σ
  difference : σ → σ → σ
  contains : σ → Capability → Bool

/-- Sets kept as words. -/
def words : Keeping CapabilitySet where
  empty := CapabilitySet.empty
  insert := CapabilitySet.insert
  ofList := CapabilitySet.ofList
  difference := CapabilitySet.difference
  contains := CapabilitySet.contains

/-- Sets kept as finite sets. -/
def finsets : Keeping (Finset Capability) where
  empty := ∅
  insert members c := Insert.insert c members
  ofList := List.toFinset
  difference members others := members \ others
  contains members c := decide (c ∈ members)

/-- **An operation on a set.** A capability is added, in place or to a copy; the set of a list is taken
instead; the set of a list is taken away; or it is asked whether a capability is a member. -/
inductive Operation where
  | insert (c : Capability)
  | ofList (cs : List Capability)
  | difference (cs : List Capability)
  | contains (c : Capability)
  deriving DecidableEq, Repr

namespace Operation

variable {σ : Type}

/-- The set after the operation. -/
def apply (k : Keeping σ) (s : σ) : Operation → σ
  | insert c => k.insert s c
  | ofList cs => k.ofList cs
  | difference cs => k.difference s (k.ofList cs)
  | contains _ => s

/-- The answer to the operation, if it asks for one. -/
def answer? (k : Keeping σ) (s : σ) : Operation → Option Bool
  | contains c => some (k.contains s c)
  | _ => none

/-- **The set after all operations**, from the empty set on. -/
def run (k : Keeping σ) (operations : List Operation) : σ :=
  operations.foldl (apply k) k.empty

end Operation

section

variable {s : CapabilitySet} {members : Finset Capability}

theorem represents_ofList (cs : List Capability) : Represents (ofList cs) cs.toFinset := by
  simp [represents_iff]

/-- **Every operation keeps representation.** -/
theorem Represents.apply (h : Represents s members) (operation : Operation) :
    Represents (operation.apply words s) (operation.apply finsets members) := by
  cases operation with
  | insert c =>
    rw [represents_iff]
    intro d
    show (s.insert c).contains d = true ↔ d ∈ Insert.insert c members
    rw [contains_insert, Bool.or_eq_true, beq_iff_eq, h.contains_iff, Finset.mem_insert, or_comm]
  | ofList cs => exact represents_ofList cs
  | difference cs =>
    rw [represents_iff]
    intro d
    show (s.difference (ofList cs)).contains d = true ↔ d ∈ members \ cs.toFinset
    rw [contains_difference, Bool.and_eq_true, h.contains_iff, Bool.not_eq_true',
      Finset.mem_sdiff, ← (represents_ofList cs).contains_iff, Bool.not_eq_true]
  | contains c => exact h

/-- Where a set is represented, a question has the same answer. -/
theorem Represents.answer?_eq (h : Represents s members) (operation : Operation) :
    operation.answer? words s = operation.answer? finsets members := by
  cases operation with
  | contains c =>
    show some (s.contains c) = some (decide (c ∈ members))
    rw [Option.some.injEq, Bool.eq_iff_iff, decide_eq_true_eq, h.contains_iff]
  | _ => rfl

/-- All operations keep it, one after the other. -/
theorem Represents.foldl (h : Represents s members) (operations : List Operation) :
    Represents (operations.foldl (Operation.apply words) s)
      (operations.foldl (Operation.apply finsets) members) := by
  induction operations generalizing s members with
  | nil => exact h
  | cons operation rest ih => exact ih (h.apply operation)

end

/-- **Words refine finite sets.** After any operations the word stands for the finite set that the same
operations lead to, and answers whatever is asked next as the finite set does. Two words that any
operations lead to are the same exactly if their finite sets are. -/
theorem run_represents (operations : List Operation) :
    Represents (Operation.run words operations) (Operation.run finsets operations) ∧
    (∀ next : Operation, next.answer? words (Operation.run words operations) =
      next.answer? finsets (Operation.run finsets operations)) ∧
    ∀ others : List Operation, Operation.run words operations = Operation.run words others ↔
      Operation.run finsets operations = Operation.run finsets others := by
  have hempty : Represents words.empty finsets.empty := represents_ofList []
  have hrun := hempty.foldl operations
  exact ⟨hrun, hrun.answer?_eq, fun others => hrun.eq_iff (hempty.foldl others)⟩

end ValueObject.CapabilitySet
