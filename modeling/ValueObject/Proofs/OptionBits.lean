/-
# ValueObject.Proofs.OptionBits -- flags and bits of options

What an attribute asks for is kept in two ways: generators read a record with a named flag for each
option, and the support unit writes a word with a bit for each. The two tables are written apart, one pair
for a single value and one for several values.

`OptionTable` is what both pairs have in common, and `Lawful` what they owe: every option has a bit of its
own, and folding a list sets the flags of the listed options, or the standard one if nothing is listed.
From that alone the flags of a list are the bits of its word, in both directions, and a fold is never
empty, looks at nothing but which options are listed, and takes lists that are joined to the union
(`flags_match_bits`).
-/

import Mathlib.Data.Nat.Bitwise
import ValueObject.Options

namespace ValueObject

/-- **A table of options**: their bits, the flags of a record, and how lists are folded into records. -/
structure OptionTable (Opt Flags : Type) where
  all : List Opt
  bit : Opt → Nat
  /-- What stands in where nothing is listed. -/
  standard : Opt
  none : Flags
  has : Flags → Opt → Bool
  isEmpty : Flags → Bool
  listed : List Opt → Flags
  ofList : List Opt → Flags

/-- The options for a single value. -/
def ValueOptions.table : OptionTable ValueOption ValueOptions where
  all := ValueOption.all
  bit := ValueOption.bit
  standard := .constructor
  none := none
  has := has
  isEmpty := isEmpty
  listed := listed
  ofList := ofList

/-- The options for several values. -/
def MultiOptions.table : OptionTable MultiOption MultiOptions where
  all := MultiOption.all
  bit := MultiOption.bit
  standard := .constructor
  none := none
  has := has
  isEmpty := isEmpty
  listed := listed
  ofList := ofList

namespace OptionTable

variable {Opt Flags : Type}

/-- **What a table owes.** Every option has one bit, which is its own; a record is nothing but its flags;
and a list is folded into the flags of what it lists, or of the standard option. -/
structure Lawful (t : OptionTable Opt Flags) : Prop where
  mem_all : ∀ o, o ∈ t.all
  exists_bit : ∀ o, ∃ n, t.bit o = 2 ^ n
  bit_inj : ∀ o p, t.bit o = t.bit p → o = p
  ext : ∀ f g, (∀ o, t.has f o = t.has g o) → f = g
  has_none : ∀ o, t.has t.none o = false
  isEmpty_iff : ∀ f, t.isEmpty f = true ↔ f = t.none
  has_listed : ∀ os o, t.has (t.listed os) o = true ↔ o ∈ os
  ofList_eq : ∀ os, t.ofList os =
    if t.isEmpty (t.listed os) then t.listed [t.standard] else t.listed os

end OptionTable

theorem ValueOptions.lawful : table.Lawful where
  mem_all := ValueOption.mem_all
  exists_bit o := by
    cases o
    case implicitFrom => exact ⟨0, rfl⟩
    case implicitAs => exact ⟨1, rfl⟩
    case explicitFrom => exact ⟨2, rfl⟩
    case toText => exact ⟨3, rfl⟩
    case constructor => exact ⟨4, rfl⟩
    case comparable => exact ⟨5, rfl⟩
    case parsable => exact ⟨6, rfl⟩
  bit_inj o p := by cases o <;> cases p <;> decide
  ext _ _ := ext_has
  has_none := has_none
  isEmpty_iff _ := beq_iff_eq
  has_listed os o := by
    show (listed os).has o = true ↔ o ∈ os
    rw [has_listed, List.contains_iff_mem]
  ofList_eq _ := rfl

theorem MultiOptions.lawful : table.Lawful where
  mem_all := MultiOption.mem_all
  exists_bit o := by
    cases o
    case explicitFrom => exact ⟨0, rfl⟩
    case constructor => exact ⟨1, rfl⟩
    case deconstruct => exact ⟨2, rfl⟩
  bit_inj o p := by cases o <;> cases p <;> decide
  ext _ _ := ext_has
  has_none := has_none
  isEmpty_iff _ := beq_iff_eq
  has_listed os o := by
    show (listed os).has o = true ↔ o ∈ os
    rw [has_listed, List.contains_iff_mem]
  ofList_eq _ := rfl

namespace OptionTable

variable {Opt Flags : Type} {t : OptionTable Opt Flags}

/-! ## Words -/

/-- **The word of a list**: the bits of all its options. -/
def word (t : OptionTable Opt Flags) (os : List Opt) : Nat :=
  os.foldl (fun w o => w ||| t.bit o) 0

/-- The word that a list asks for. A list whose word has no bit asks for the standard option. -/
def askedWord (t : OptionTable Opt Flags) (os : List Opt) : Nat :=
  if t.word os = 0 then t.bit t.standard else t.word os

theorem testBit_foldl_or (os : List Opt) (w n : Nat) :
    (os.foldl (fun w o => w ||| t.bit o) w).testBit n = true ↔
      w.testBit n = true ∨ ∃ o ∈ os, (t.bit o).testBit n = true := by
  induction os generalizing w with
  | nil => simp
  | cons p ps ih =>
    rw [List.foldl_cons, ih, Nat.testBit_or, Bool.or_eq_true, or_assoc]
    simp only [List.mem_cons, exists_eq_or_imp]

/-- A bit of the word is a bit of one of the options. -/
theorem testBit_word (os : List Opt) (n : Nat) :
    (t.word os).testBit n = true ↔ ∃ o ∈ os, (t.bit o).testBit n = true := by
  rw [word, testBit_foldl_or, Nat.zero_testBit]
  simp

/-- Lists of the same options have the same word. -/
theorem word_congr {a b : List Opt} (h : ∀ o, o ∈ a ↔ o ∈ b) : t.word a = t.word b := by
  apply Nat.eq_of_testBit_eq
  intro n
  rw [Bool.eq_iff_iff, testBit_word, testBit_word]
  simp only [h]

namespace Lawful

variable (ht : t.Lawful)

include ht

theorem testBit_bit_iff {o p : Opt} {n : Nat} (hp : t.bit p = 2 ^ n) :
    (t.bit o).testBit n = true ↔ o = p := by
  obtain ⟨m, hm⟩ := ht.exists_bit o
  rw [hm, Nat.testBit_two_pow, decide_eq_true_eq]
  constructor
  · rintro rfl
    exact ht.bit_inj o p (hm.trans hp.symm)
  · rintro rfl
    exact Nat.pow_right_injective (Nat.le_refl 2) (hm.symm.trans hp)

/-- **The bit of an option is in the word of a list exactly if the option is listed.** -/
theorem word_and_bit_ne_zero_iff (os : List Opt) (o : Opt) :
    t.word os &&& t.bit o ≠ 0 ↔ o ∈ os := by
  obtain ⟨n, hn⟩ := ht.exists_bit o
  rw [hn, Nat.and_two_pow, Ne, Nat.mul_eq_zero, Bool.toNat_eq_zero]
  simp only [Nat.two_pow_pos, Nat.ne_of_gt, or_false, Bool.not_eq_false, testBit_word,
    ht.testBit_bit_iff hn, exists_eq_right]

theorem word_eq_zero_iff (os : List Opt) : t.word os = 0 ↔ os = [] := by
  constructor
  · intro h
    rw [List.eq_nil_iff_forall_not_mem]
    intro o ho
    apply (ht.word_and_bit_ne_zero_iff os o).mpr ho
    rw [h, Nat.zero_and]
  · rintro rfl
    rfl

/-! ## Folds -/

theorem isEmpty_listed_iff (os : List Opt) : t.isEmpty (t.listed os) = true ↔ os = [] := by
  rw [ht.isEmpty_iff, List.eq_nil_iff_forall_not_mem]
  constructor
  · intro h o ho
    rw [← ht.has_listed, h, ht.has_none] at ho
    cases ho
  · intro h
    apply ht.ext
    intro o
    rw [ht.has_none, ← Bool.not_eq_true, ht.has_listed]
    exact h o

theorem ofList_of_ne_nil {os : List Opt} (h : os ≠ []) : t.ofList os = t.listed os := by
  rw [ht.ofList_eq, if_neg (mt (ht.isEmpty_listed_iff os).mp h)]

theorem ofList_nil : t.ofList [] = t.listed [t.standard] := by
  rw [ht.ofList_eq, if_pos ((ht.isEmpty_listed_iff []).mpr rfl)]

/-- An option that is not the standard one is in force exactly if it is listed. -/
theorem has_ofList_iff {os : List Opt} {o : Opt} (ho : o ≠ t.standard) :
    t.has (t.ofList os) o = true ↔ o ∈ os := by
  by_cases h : os = []
  · subst h
    rw [ht.ofList_nil, ht.has_listed, List.mem_singleton]
    exact iff_of_false ho List.not_mem_nil
  · rw [ht.ofList_of_ne_nil h, ht.has_listed]

/-- **A fold is the fold of what is asked for**: the list itself, or the standard option. -/
theorem exists_asked (os : List Opt) :
    ∃ asked, asked ≠ [] ∧ t.ofList os = t.listed asked ∧ t.askedWord os = t.word asked := by
  by_cases h : os = []
  · subst h
    exact ⟨[t.standard], List.cons_ne_nil _ _, ht.ofList_nil, (Nat.zero_or _).symm⟩
  · refine ⟨os, h, ht.ofList_of_ne_nil h, ?_⟩
    rw [askedWord, if_neg (mt (ht.word_eq_zero_iff os).mp h)]

theorem ofList_congr {a b : List Opt} (h : ∀ o, o ∈ a ↔ o ∈ b) : t.ofList a = t.ofList b := by
  have hlisted : t.listed a = t.listed b := by
    apply ht.ext
    intro o
    rw [Bool.eq_iff_iff, ht.has_listed, ht.has_listed, h]
  rw [ht.ofList_eq, ht.ofList_eq, hlisted]

end Lawful

/-- **Flags and bits say the same thing.** -/
structure FlagsMatchBits (t : OptionTable Opt Flags) : Prop where
  /-- A flag is set exactly if its bit is in the word that the list asks for. -/
  has_iff : ∀ os o, t.has (t.ofList os) o = true ↔ t.askedWord os &&& t.bit o ≠ 0
  /-- The word of the flags that are set is that word again. -/
  word_eq : ∀ os, t.word (t.all.filter (t.has (t.ofList os))) = t.askedWord os
  not_isEmpty : ∀ os, t.isEmpty (t.ofList os) = false
  congr : ∀ a b, (∀ o, o ∈ a ↔ o ∈ b) → t.ofList a = t.ofList b
  append : ∀ a b, a ≠ [] → b ≠ [] →
    ∀ o, t.has (t.ofList (a ++ b)) o = (t.has (t.ofList a) o || t.has (t.ofList b) o)

theorem Lawful.flagsMatchBits (ht : t.Lawful) : t.FlagsMatchBits where
  has_iff os o := by
    obtain ⟨asked, -, hfold, hword⟩ := ht.exists_asked os
    rw [hfold, hword, ht.has_listed, ht.word_and_bit_ne_zero_iff]
  word_eq os := by
    obtain ⟨asked, -, hfold, hword⟩ := ht.exists_asked os
    rw [hword, hfold]
    apply word_congr
    intro o
    rw [List.mem_filter, ht.has_listed, and_iff_right (ht.mem_all o)]
  not_isEmpty os := by
    obtain ⟨asked, hne, hfold, -⟩ := ht.exists_asked os
    rw [hfold, ← Bool.not_eq_true]
    exact mt (ht.isEmpty_listed_iff asked).mp hne
  congr _ _ := ht.ofList_congr
  append a b ha hb o := by
    have hab : a ++ b ≠ [] := List.append_ne_nil_of_left_ne_nil ha b
    rw [ht.ofList_of_ne_nil ha, ht.ofList_of_ne_nil hb, ht.ofList_of_ne_nil hab, Bool.eq_iff_iff,
      Bool.or_eq_true, ht.has_listed, ht.has_listed, ht.has_listed, List.mem_append]

end OptionTable

/-- **The flags of a list are its bits**, for the options of a single value and for those of several. -/
theorem flags_match_bits : ValueOptions.table.FlagsMatchBits ∧ MultiOptions.table.FlagsMatchBits :=
  ⟨ValueOptions.lawful.flagsMatchBits, MultiOptions.lawful.flagsMatchBits⟩

/-- Two options of which one is listed twice, and none. -/
example :
    ValueOptions.table.askedWord [.parsable, .implicitFrom, .parsable] = 0x41 ∧
      ValueOptions.ofList [.parsable, .implicitFrom, .parsable] =
        { implicitFrom := true, parsable := true } ∧
      MultiOptions.table.askedWord [] = 0x02 ∧ MultiOptions.ofList [] = { constructor := true } := by
  decide

end ValueObject
