/-
# ValueObject.Proofs.Source.OutParameter -- the out parameter of `Try` is new

`Try` hands its instance out under the first of the names `valueObject`, `valueObject1`, `valueObject2`
and so on that is not taken. `Search` is that search without a bound: it goes from one candidate to the
next as long as they are taken, and has a result only if it ends.

It ends. The candidates are distinct, and a field takes one at most, so among the first `n + 1` of them
one is free where there are `n` fields, and the first free one is the out parameter
(`outParameter_found`). Only a parameter can be a candidate, since a backing field starts with a mark;
and a property that is called like a candidate has it as its parameter, so what is free as a parameter
is free altogether.
-/

import Mathlib.Data.List.Nodup
import Mathlib.Data.List.Perm.Subperm
import Mathlib.Data.Nat.Find
import ValueObject.Proofs.Source.DeclaredMembers

namespace ValueObject.Source.MultiValue

open Identifier

/-! ## The candidates -/

theorem exists_outCandidate_eq (n : Nat) : ∃ rest, outCandidate n = "valueObject" ++ rest := by
  cases n with
  | zero => exact ⟨"", rfl⟩
  | succ n => exact ⟨toString (n + 1), rfl⟩

/-- **The candidates are distinct**, since their numbers are. -/
theorem outCandidate_injective : Function.Injective outCandidate := by
  have hnumbered (n : Nat) : outCandidate (n + 1) ≠ outCandidate 0 := by
    intro h
    simp [outCandidate, String.ext_iff] at h
  intro m n h
  cases m with
  | zero =>
    cases n with
    | zero => rfl
    | succ n => exact absurd h.symm (hnumbered n)
  | succ m =>
    cases n with
    | zero => exact absurd h (hnumbered m)
    | succ n =>
      have hnumber : (m + 1).repr = (n + 1).repr := by
        simpa [outCandidate, String.ext_iff] using h
      -- a number is read back from its digits
      have hdigits := congrArg (fun s => Nat.ofDigitChars 10 s.toList 0) hnumber
      simpa only [Nat.toList_repr, Nat.ofDigitChars_ten_toDigits] using hdigits

/-- No text of a list starts like a candidate, so no candidate is in it. -/
theorem outCandidate_not_mem {names : List String}
    (h : ∀ x ∈ names, Text.startsWith "valueObject" x = false) (n : Nat) :
    outCandidate n ∉ names := by
  intro hmem
  obtain ⟨rest, hrest⟩ := exists_outCandidate_eq n
  have hfalse := h _ hmem
  rw [hrest] at hfalse
  simp [Text.startsWith] at hfalse

/-- **A candidate is its own parameter**: it starts in lower case and is no keyword. -/
theorem parameterName_outCandidate (n : Nat) : parameterName (outCandidate n) = outCandidate n := by
  rw [parameterName_eq_self_iff]
  constructor
  · have hhead : (outCandidate n).toList.head? = some 'v' := by
      obtain ⟨rest, hrest⟩ := exists_outCandidate_eq n
      simp [hrest]
    exact lowerFirst_eq_self hhead (by decide)
  · have hnone : outCandidate n ∉ keywords := outCandidate_not_mem (by decide +kernel) n
    simpa [isKeyword] using hnone

/-- A candidate is no backing field. -/
theorem backing_ne_outCandidate (f : Field) (n : Nat) : f.backing ≠ outCandidate n := by
  obtain ⟨rest, hrest⟩ := exists_outCandidate_eq n
  intro h
  have hhead := congrArg (fun s => s.toList.head?) (h.trans hrest)
  simp [Field.backing, backingName] at hhead

/-- A property that is called like a candidate has it as its parameter. -/
theorem parameter_eq_of_name_eq {f : Field} {n : Nat} (h : f.name = outCandidate n) :
    f.parameter = outCandidate n := by
  rw [Field.parameter, h, parameterName_outCandidate]

/-- **A candidate is taken** exactly when it is a parameter. -/
theorem isTaken_outCandidate_iff {fields : List Field} {n : Nat} :
    isTaken fields (outCandidate n) = true ↔ ∃ f ∈ fields, f.parameter = outCandidate n := by
  simp [isTaken, backing_ne_outCandidate]

/-- **One of the first `n + 1` candidates is free** where there are `n` fields. -/
theorem exists_free (fields : List Field) :
    ∃ k ≤ fields.length, isTaken fields (outCandidate k) = false := by
  by_contra hnone
  push Not at hnone
  have hsubset : (List.range (fields.length + 1)).map outCandidate ⊆ fields.map Field.parameter := by
    intro x hx
    obtain ⟨k, hk, rfl⟩ := List.mem_map.mp hx
    have htaken := hnone k (Nat.le_of_lt_succ (List.mem_range.mp hk))
    obtain ⟨f, hf, hparameter⟩ := isTaken_outCandidate_iff.mp (by simpa using htaken)
    exact List.mem_map.mpr ⟨f, hf, hparameter⟩
  have hnodup : ((List.range (fields.length + 1)).map outCandidate).Nodup :=
    (List.nodup_map_iff outCandidate_injective).mpr List.nodup_range
  have hlength := (List.subperm_of_subset hnodup hsubset).length_le
  rw [List.length_map, List.length_map, List.length_range] at hlength
  omega

/-! ## The search -/

/-- **The search for a candidate that is not taken**, from a candidate on: how many it tries, and which
one it finds. -/
inductive Search (fields : List Field) : Nat → Nat → String → Prop
  | found {k : Nat} : isTaken fields (outCandidate k) = false → Search fields k 1 (outCandidate k)
  | next {k tries : Nat} {name : String} : isTaken fields (outCandidate k) = true →
      Search fields (k + 1) tries name → Search fields k (tries + 1) name

/-- The candidate is free, and those before it, from the `k`-th on, are taken. -/
structure FirstFree (fields : List Field) (k first : Nat) : Prop where
  le : k ≤ first
  free : isTaken fields (outCandidate first) = false
  taken : ∀ j, k ≤ j → j < first → isTaken fields (outCandidate j) = true

/-- A taken candidate is passed. -/
theorem FirstFree.succ {fields : List Field} {k first : Nat} (h : FirstFree fields k first)
    (hne : k ≠ first) : FirstFree fields (k + 1) first where
  le := by have := h.le; omega
  free := h.free
  taken j hj := h.taken j (by omega)

/-- **A search ends at the first free candidate**, and only there. -/
theorem FirstFree.search_iff {fields : List Field} {k first : Nat} (h : FirstFree fields k first)
    {tries : Nat} {name : String} :
    Search fields k tries name ↔ tries = first - k + 1 ∧ name = outCandidate first := by
  constructor
  · intro hsearch
    induction hsearch with
    | @found k hfree =>
      obtain rfl : k = first := by
        by_contra hne
        have htaken := h.taken k le_rfl (lt_of_le_of_ne h.le hne)
        simp [hfree] at htaken
      exact ⟨by omega, rfl⟩
    | @next k tries name htaken _ ih =>
      have hne : k ≠ first := by
        rintro rfl
        simp [h.free] at htaken
      obtain ⟨htries, hname⟩ := ih (h.succ hne)
      have := h.le
      exact ⟨by omega, hname⟩
  · rintro ⟨rfl, rfl⟩
    -- as many steps are left as there are taken candidates to pass
    induction hsteps : first - k generalizing k with
    | zero =>
      obtain rfl : k = first := le_antisymm h.le (Nat.sub_eq_zero_iff_le.mp hsteps)
      exact .found h.free
    | succ steps ih =>
      have hne : k ≠ first := by omega
      exact .next (h.taken k le_rfl (lt_of_le_of_ne h.le hne)) (ih (h.succ hne) (by omega))

/-- **There is a first free candidate** among the first `n + 1`. -/
theorem exists_firstFree (fields : List Field) :
    ∃ first ≤ fields.length, FirstFree fields 0 first := by
  obtain ⟨k, hk, hfree⟩ := exists_free fields
  have hexists : ∃ n, isTaken fields (outCandidate n) = false := ⟨k, hfree⟩
  have hbound : Nat.find hexists ≤ k := Nat.find_min' hexists hfree
  refine ⟨Nat.find hexists, Nat.le_trans hbound hk, Nat.zero_le _, Nat.find_spec hexists, ?_⟩
  intro j _ hj
  simpa using Nat.find_min hexists hj

theorem outParameter_eq_of_firstFree {fields : List Field} {first : Nat}
    (hfirst : first ≤ fields.length) (h : FirstFree fields 0 first) :
    outParameter fields = outCandidate first := by
  have hfind : (List.range (fields.length + 1)).find?
      ((fun c => !isTaken fields c) ∘ outCandidate) = some first := by
    rw [List.find?_range_eq_some]
    refine ⟨by simp [h.free], List.mem_range.mpr (by omega), ?_⟩
    intro j hj
    simp [h.taken j (Nat.zero_le j) hj]
  simp only [outParameter, List.find?_map, hfind, Option.map_some, Option.getD_some]

/-! ## The out parameter -/

/-- What is free as a parameter is free altogether. -/
theorem FirstFree.new {fields : List Field} {k first : Nat} (h : FirstFree fields k first)
    {f : Field} (hf : f ∈ fields) :
    f.parameter ≠ outCandidate first ∧ f.backing ≠ outCandidate first ∧
      f.name ≠ outCandidate first := by
  have hparameter : f.parameter ≠ outCandidate first := by
    intro heq
    have htaken := isTaken_outCandidate_iff.mpr ⟨f, hf, heq⟩
    simp [h.free] at htaken
  exact ⟨hparameter, backing_ne_outCandidate f first, mt parameter_eq_of_name_eq hparameter⟩

/-- It hides no member of a type with these fields. -/
theorem FirstFree.not_mem_namesOf {v : MultiValue} {k first : Nat}
    (h : FirstFree v.fields k first) :
    outCandidate first ∉ namesOf .backingField v.declaredMembers ∧
      outCandidate first ∉ namesOf .property v.declaredMembers ∧
      outCandidate first ∉ namesOf .method v.declaredMembers := by
  refine ⟨?_, ?_, ?_⟩
  · rw [namesOf_backingField, List.mem_map]
    rintro ⟨f, hf, hname⟩
    exact (h.new hf).2.1 hname
  · rw [namesOf_property, List.mem_map]
    rintro ⟨f, hf, hname⟩
    exact (h.new hf).2.2 hname
  · rw [namesOf_method]
    intro hmethod
    exact outCandidate_not_mem (by decide +kernel) first (v.methodNames_subset hmethod)

/-- **The out parameter is found and it is new.** The search for it ends after at most `n + 1` candidates
where there are `n` fields, at the first one that is no parameter, and what it finds is the out
parameter. It is called like no parameter, backing field or property of a field, and like no method
either, so it hides no member of the type. -/
theorem outParameter_found (fields : List Field) :
    ∃ first ≤ fields.length,
      (∀ tries name, Search fields 0 tries name ↔ tries = first + 1 ∧ name = outParameter fields) ∧
      outParameter fields = outCandidate first ∧
      (∀ j < first, ∃ f ∈ fields, f.parameter = outCandidate j) ∧
      (∀ f ∈ fields, f.parameter ≠ outParameter fields ∧ f.backing ≠ outParameter fields ∧
        f.name ≠ outParameter fields) ∧
      ∀ v : MultiValue, v.fields = fields →
        outParameter fields ∉ namesOf .backingField v.declaredMembers ∧
          outParameter fields ∉ namesOf .property v.declaredMembers ∧
          outParameter fields ∉ namesOf .method v.declaredMembers := by
  obtain ⟨first, hfirst, hfree⟩ := exists_firstFree fields
  rw [outParameter_eq_of_firstFree hfirst hfree]
  refine ⟨first, hfirst, ?_, rfl, ?_, fun f hf => hfree.new hf, ?_⟩
  · intro tries name
    exact hfree.search_iff
  · intro j hj
    exact isTaken_outCandidate_iff.mp (hfree.taken j (Nat.zero_le j) hj)
  · rintro v rfl
    exact hfree.not_mem_namesOf

/-- Numbers under names that take the first three candidates, in another order and not all by their own
name. -/
def crowdedFields : List Field :=
  ["ValueObject2", "valueObject", "Name", "ValueObject1"].map fun name =>
    { name, typeName := "int", isValueType := true, readOnly := true, returnsByRef := false
      location := none }

theorem outParameter_found_crowded :
    Search crowdedFields 0 4 "valueObject3" ∧ outParameter crowdedFields = "valueObject3" ∧
      ∀ f ∈ crowdedFields, f.name ≠ "valueObject3" := by
  have hout : outParameter crowdedFields = "valueObject3" := by decide +kernel
  obtain ⟨first, -, hsearch, hcandidate, -, hnew, -⟩ := outParameter_found crowdedFields
  rw [hout] at hsearch hcandidate hnew
  obtain rfl : 3 = first := outCandidate_injective (by rw [← hcandidate]; decide +kernel)
  exact ⟨(hsearch 4 "valueObject3").mpr ⟨rfl, rfl⟩, hout, fun f hf => (hnew f hf).2.2⟩

end ValueObject.Source.MultiValue
