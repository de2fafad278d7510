/-
# ValueObject.Capability -- capability interfaces and sets of them

A **capability** is an interface that generated code can implement: equality and order with the
value object itself or with its raw value, and parsing from text or from a span of characters.

A set of capabilities is a word of eight bits, of which the lower six stand for one capability each
and the others are never set. Nothing outside this file looks at the word: the rest of the library
asks for membership and lists the members, which always come in one order.
-/

namespace ValueObject

/-- One capability interface. -/
inductive Capability where
  | selfEquatable
  | valueEquatable
  | selfComparable
  | valueComparable
  | parsable
  | spanParsable
  deriving DecidableEq, Repr

namespace Capability

/-- All capabilities, in the order in which they are listed and written. -/
def all : List Capability :=
  [selfEquatable, valueEquatable, selfComparable, valueComparable, parsable, spanParsable]

/-- The name of the capability. -/
def name : Capability → String
  | selfEquatable => "self-equatable"
  | valueEquatable => "value-equatable"
  | selfComparable => "self-comparable"
  | valueComparable => "value-comparable"
  | parsable => "parsable"
  | spanParsable => "span-parsable"

/-- The bit that stands for the capability in a set. -/
def index : Capability → Nat
  | selfEquatable => 0
  | valueEquatable => 1
  | selfComparable => 2
  | valueComparable => 3
  | parsable => 4
  | spanParsable => 5

/-- The interface that **marks** the capability on a type called `name` over `datatype`. -/
def marker (name datatype : String) : Capability → String
  | selfEquatable => "System.IEquatable<" ++ name ++ ">"
  | valueEquatable => "System.IEquatable<" ++ datatype ++ ">"
  | selfComparable => "System.IComparable<" ++ name ++ ">"
  | valueComparable => "System.IComparable<" ++ datatype ++ ">"
  | parsable => "System.IParsable<" ++ name ++ ">"
  | spanParsable => "System.ISpanParsable<" ++ name ++ ">"

theorem mem_all (c : Capability) : c ∈ all := by
  cases c <;> decide

theorem nodup_all : all.Nodup := by
  decide

theorem index_lt (c : Capability) : c.index < 6 := by
  cases c <;> decide

end Capability

/-! ## Sets of capabilities -/

/-- **A set of capabilities**: a word with one bit for each. No other bit is set, so that the same
members are the same word. -/
structure CapabilitySet where
  bits : BitVec 8
  high_clear : ∀ n, 6 ≤ n → bits.getLsbD n = false
  deriving DecidableEq, Repr

namespace CapabilitySet

/-- The set without members. -/
def empty : CapabilitySet where
  bits := 0#8
  high_clear _ _ := BitVec.getLsbD_zero

/-- The set whose one member is `c`. -/
def single (c : Capability) : CapabilitySet where
  bits := BitVec.twoPow 8 c.index
  high_clear n hn := by
    have hne : c.index ≠ n := Nat.ne_of_lt (Nat.lt_of_lt_of_le c.index_lt hn)
    simp [BitVec.getLsbD_twoPow, hne]

/-- **Membership.** -/
def contains (s : CapabilitySet) (c : Capability) : Bool :=
  s.bits.getLsbD c.index

/-- What neither word sets is not set by both together. -/
theorem high_clear_or (s t : CapabilitySet) (n : Nat) (hn : 6 ≤ n) :
    (s.bits ||| t.bits).getLsbD n = false := by
  rw [BitVec.getLsbD_or, s.high_clear n hn, t.high_clear n hn, Bool.or_false]

/-- The set with one more member. -/
def insert (s : CapabilitySet) (c : Capability) : CapabilitySet where
  bits := s.bits ||| (single c).bits
  high_clear := s.high_clear_or (single c)

/-- The set of the listed capabilities. -/
def ofList (cs : List Capability) : CapabilitySet :=
  cs.foldl insert empty

/-- The members that are not in `t`. -/
def difference (s t : CapabilitySet) : CapabilitySet where
  bits := s.bits &&& ~~~t.bits
  -- the complement sets the other bits, and the word of `s` clears them again
  high_clear n hn := by rw [BitVec.getLsbD_and, s.high_clear n hn, Bool.false_and]

/-- There is no member. -/
def isEmpty (s : CapabilitySet) : Bool :=
  s.bits == 0#8

/-- The number of members: the number of bits that are set. -/
def size (s : CapabilitySet) : Nat :=
  (List.range 8).countP s.bits.getLsbD

/-- The members, in the one order of `Capability.all`. -/
def toList (s : CapabilitySet) : List Capability :=
  Capability.all.filter s.contains

/-! ## Each operation seen through membership -/

@[simp]
theorem contains_empty (c : Capability) : empty.contains c = false := by
  cases c <;> rfl

@[simp]
theorem contains_insert (s : CapabilitySet) (c d : Capability) :
    (s.insert c).contains d = (s.contains d || d == c) := by
  cases c <;> cases d <;> simp [insert, single, contains, Capability.index]

@[simp]
theorem contains_difference (s t : CapabilitySet) (c : Capability) :
    (s.difference t).contains c = (s.contains c && !t.contains c) := by
  have hindex : c.index < 8 := Nat.lt_of_lt_of_le c.index_lt (by decide)
  simp [difference, contains, hindex]

theorem contains_foldl_insert (cs : List Capability) (s : CapabilitySet) (c : Capability) :
    (cs.foldl insert s).contains c = (s.contains c || cs.contains c) := by
  induction cs generalizing s with
  | nil => simp
  | cons d ds ih =>
    simp only [List.foldl_cons, ih, contains_insert, List.contains_cons, Bool.or_assoc]

@[simp]
theorem contains_ofList (cs : List Capability) (c : Capability) :
    (ofList cs).contains c = cs.contains c := by
  simp [ofList, contains_foldl_insert]

@[simp]
theorem mem_toList {s : CapabilitySet} {c : Capability} : c ∈ s.toList ↔ s.contains c = true := by
  simp [toList, Capability.mem_all]

end CapabilitySet

end ValueObject
