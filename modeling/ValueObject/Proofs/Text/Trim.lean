/-
# ValueObject.Proofs.Text.Trim -- what trimming leaves

A trimmed text starts and ends with a character that is not blank, holds no character that the text
did not hold, and is not changed by trimming it again. Nothing is left exactly of a text that holds
blanks only, which is what it means for a text to be **missing** when it may be absent as well.
-/

import Mathlib.Data.List.DropRight
import ValueObject.Text.Blank

namespace ValueObject.Text

theorem trimEnd_eq_rdropWhile (cs : List Char) : trimEnd cs = cs.rdropWhile isBlank := rfl

/-! ## Trimming a list of characters -/

theorem mem_of_mem_trimChars {cs : List Char} {c : Char} (h : c ∈ trimChars cs) : c ∈ cs := by
  rw [trimChars, trimEnd_eq_rdropWhile] at h
  have hdropped : c ∈ cs.dropWhile isBlank := (List.rdropWhile_prefix isBlank _).subset h
  exact (List.dropWhile_suffix isBlank).subset hdropped

/-- No blank is left at the end. -/
theorem isBlank_getLast?_trimChars {cs : List Char} {c : Char}
    (h : c ∈ (trimChars cs).getLast?) : isBlank c = false := by
  rw [trimChars, trimEnd_eq_rdropWhile] at h
  have hne : (cs.dropWhile isBlank).rdropWhile isBlank ≠ [] := by
    intro hnil
    rw [hnil] at h
    cases h
  have hlast := List.rdropWhile_last_not isBlank _ hne
  rw [List.getLast?_eq_some_getLast hne, Option.mem_some_iff] at h
  rwa [h, Bool.not_eq_true] at hlast

/-- Nothing is left exactly of blanks. -/
theorem trimChars_eq_nil_iff {cs : List Char} :
    trimChars cs = [] ↔ ∀ c ∈ cs, isBlank c = true := by
  rw [trimChars, trimEnd_eq_rdropWhile, List.rdropWhile_eq_nil_iff]
  constructor
  · intro h
    rw [← List.dropWhile_eq_nil_iff]
    rcases hcs : cs.dropWhile isBlank with _ | ⟨c, rest⟩
    · rfl
    · -- the first character that was kept is no blank, so not all of them are
      have hfirst := List.head?_dropWhile_not isBlank cs
      rw [hcs] at hfirst h
      have hblank : isBlank c = true := h c (by simp)
      simp [hblank] at hfirst
  · intro h c hc
    exact h c ((List.dropWhile_suffix isBlank).subset hc)

/-- No blank is left at the front. -/
theorem isBlank_head?_trimChars {cs : List Char} {c : Char} (h : c ∈ (trimChars cs).head?) :
    isBlank c = false := by
  obtain ⟨rest, hrest⟩ := List.head?_eq_some_iff.mp h
  have hprefix : c :: rest <+: cs.dropWhile isBlank := by
    rw [← hrest, trimChars, trimEnd_eq_rdropWhile]
    exact List.rdropWhile_prefix isBlank _
  obtain ⟨tail, htail⟩ := hprefix
  have hfirst := List.head?_dropWhile_not isBlank cs
  rw [← htail] at hfirst
  simpa using hfirst

/-- **A trimmed text**: neither its first character nor its last is blank. -/
structure Trimmed (cs : List Char) : Prop where
  front : ∀ c ∈ cs.head?, isBlank c = false
  back : ∀ c ∈ cs.getLast?, isBlank c = false

theorem trimmed_iff {cs : List Char} :
    Trimmed cs ↔ (cs.head?.all (!isBlank ·) && cs.getLast?.all (!isBlank ·)) = true := by
  rw [Bool.and_eq_true, Option.all_eq_true, Option.all_eq_true]
  constructor
  · exact fun h => ⟨fun c hc => by simp [h.front c hc], fun c hc => by simp [h.back c hc]⟩
  · exact fun h => ⟨fun c hc => by simpa using h.1 c hc, fun c hc => by simpa using h.2 c hc⟩

instance (cs : List Char) : Decidable (Trimmed cs) :=
  decidable_of_iff _ trimmed_iff.symm

theorem trimmed_trimChars (cs : List Char) : Trimmed (trimChars cs) where
  front _ hc := isBlank_head?_trimChars hc
  back _ hc := isBlank_getLast?_trimChars hc

theorem Trimmed.append {a b : List Char} (ha : Trimmed a) (hb : Trimmed b) : Trimmed (a ++ b) where
  front c hc := by
    rw [List.head?_append, Option.mem_def, Option.or_eq_some_iff] at hc
    rcases hc with hc | ⟨-, hc⟩
    · exact ha.front c hc
    · exact hb.front c hc
  back c hc := by
    rw [List.getLast?_append, Option.mem_def, Option.or_eq_some_iff] at hc
    rcases hc with hc | ⟨-, hc⟩
    · exact hb.back c hc
    · exact ha.back c hc

/-- Trimming leaves a trimmed text as it is. -/
theorem trimChars_eq_self {cs : List Char} (h : Trimmed cs) : trimChars cs = cs := by
  have hfront : cs.dropWhile isBlank = cs := by
    rw [List.dropWhile_eq_self_iff]
    intro hpos
    have hblank := h.front _ (List.head?_eq_some_head (List.ne_nil_of_length_pos hpos))
    rwa [List.head_eq_getElem_zero, ← Bool.not_eq_true] at hblank
  rw [trimChars, hfront, trimEnd_eq_rdropWhile, List.rdropWhile_eq_self_iff]
  intro hne
  have hblank := h.back _ (List.getLast?_eq_some_getLast hne)
  rwa [← Bool.not_eq_true] at hblank

/-- **Trimming again changes nothing.** -/
theorem trimChars_trimChars (cs : List Char) : trimChars (trimChars cs) = trimChars cs :=
  trimChars_eq_self (trimmed_trimChars cs)

/-- Blanks around a trimmed text are all that trimming takes off. -/
theorem trimChars_around {before cs after : List Char} (hbefore : ∀ c ∈ before, isBlank c = true)
    (h : Trimmed cs) (hafter : ∀ c ∈ after, isBlank c = true) :
    trimChars (before ++ cs ++ after) = cs := by
  have htrimmed := trimChars_eq_self h
  rw [trimChars, trimEnd] at htrimmed
  rw [List.append_assoc, trimChars, trimEnd, List.dropWhile_append_of_pos hbefore,
    List.dropWhile_append]
  split
  · next hnone =>
    -- nothing but blanks stands behind the front
    rw [List.isEmpty_iff] at hnone
    rw [hnone] at htrimmed
    rw [List.dropWhile_eq_nil_iff.mpr hafter, ← htrimmed]
  · rw [List.reverse_append, List.dropWhile_append_of_pos (by simpa using hafter), htrimmed]

/-- A text is what trimming leaves of it, with blanks around. -/
theorem exists_eq_around (cs : List Char) :
    ∃ before after, (∀ c ∈ before, isBlank c = true) ∧ (∀ c ∈ after, isBlank c = true) ∧
      cs = before ++ trimChars cs ++ after := by
  refine ⟨cs.takeWhile isBlank, (cs.dropWhile isBlank).rtakeWhile isBlank,
    fun c hc => List.mem_takeWhile_imp hc, fun c hc => List.mem_rtakeWhile_imp hc, ?_⟩
  rw [List.append_assoc, trimChars, trimEnd_eq_rdropWhile, List.rdropWhile_append_rtakeWhile,
    List.takeWhile_append_dropWhile]

/-- Trimming makes no text longer. -/
theorem length_trimChars_le (cs : List Char) : (trimChars cs).length ≤ cs.length := by
  obtain ⟨before, after, -, -, hcs⟩ := exists_eq_around cs
  have hlength := congrArg List.length hcs
  simp only [List.length_append] at hlength
  omega

theorem trim_trim (s : String) : trim (trim s) = trim s := by
  rw [← String.toList_inj, toList_trim, toList_trim, trimChars_trimChars]

theorem isBlankText_trim (s : String) : isBlankText (trim s) = isBlankText s := by
  rw [isBlankText, isBlankText, trim_trim]

/-! ## Texts that may be missing -/

/-- A text that is absent, or of which nothing but blanks is there. -/
def Missing (s : Option String) : Prop :=
  ∀ t, s = some t → ∀ c ∈ t.toList, isBlank c = true

theorem isEmpty_trim_iff {s : String} :
    (trim s).isEmpty = true ↔ ∀ c ∈ s.toList, isBlank c = true := by
  rw [← trimChars_eq_nil_iff, String.isEmpty_iff, trim, ← String.toList_inj, String.toList_ofList]
  rfl

theorem missing_some_iff {s : String} : Missing (some s) ↔ isBlankText s = true := by
  rw [isBlankText, isEmpty_trim_iff]
  simp [Missing]

theorem trimmed?_eq_none_iff {s : Option String} : trimmed? s = none ↔ Missing s := by
  cases s with
  | none => simp [trimmed?, Missing]
  | some t => simp [trimmed?, Missing, ← isEmpty_trim_iff]

theorem trimmed?_eq_some_iff {s : Option String} {t : String} :
    trimmed? s = some t ↔ ¬ Missing s ∧ ∃ u, s = some u ∧ trim u = t := by
  cases s with
  | none => simp [trimmed?]
  | some u =>
    have hmissing : Missing (some u) ↔ (trim u).isEmpty = true := missing_some_iff
    simp only [trimmed?, Option.map_some, Option.filter_some, hmissing]
    grind

end ValueObject.Text
