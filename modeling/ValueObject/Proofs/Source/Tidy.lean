/-
# ValueObject.Proofs.Source.Tidy -- tidy lines from the texts they are put together from

A line of generated code is fixed text with names and types in between. Three properties of the
parts decide whether the line is tidy: every part is **clean** (balanced, without a line break), the
first part **opens** with a character other than a space, and the last one **closes** with a character
that is not blank. Each has one rule for joining texts and one for fixed text, where a computation on
the characters decides; so a line is shown to be tidy by going along its parts.

A text of the user is clean when it is **plain**: no brace and no line break.
-/

import ValueObject.Proofs.Source.CodeLayout
import ValueObject.Proofs.Text.Trim
import ValueObject.Source.Frame

namespace ValueObject.Source

/-- A text that may stand anywhere inside a line. -/
structure Clean (s : String) : Prop where
  balanced : Balanced s
  unbroken : '\n' ∉ s.toList

/-- A text whose first character is there and is no space. -/
structure Opens (s : String) : Prop where
  front : ∃ c, s.toList.head? = some c ∧ c ≠ ' '

/-- A text whose last character is there and is not blank. -/
structure Closes (s : String) : Prop where
  back : ∃ c, s.toList.getLast? = some c ∧ Text.isBlank c = false

/-- **Plain text** holds no brace and no line break. -/
structure Plain (s : String) : Prop where
  chars : ∀ c ∈ s.toList, c ≠ '{' ∧ c ≠ '}' ∧ c ≠ '\n'

/-- A clean line is tidy when its ends are. -/
theorem Tidy.of_ends {s : String} (h : Clean s) (ho : Opens s) (hc : Closes s) : Tidy s := by
  obtain ⟨⟨c, hfirst, hne⟩⟩ := ho
  obtain ⟨⟨d, hlast, hblank⟩⟩ := hc
  refine ⟨h.balanced, h.unbroken, ?_, ?_⟩
  · intro x hx
    rw [hfirst, Option.mem_some_iff] at hx
    rwa [← hx]
  · intro x hx
    rw [hlast, Option.mem_some_iff] at hx
    rwa [← hx]

/-! ## Clean texts -/

theorem Plain.clean {s : String} (h : Plain s) : Clean s where
  balanced := depthAfter_of_no_brace (fun c hc => ⟨(h.chars c hc).1, (h.chars c hc).2.1⟩) 0
  unbroken := fun hmem => (h.chars _ hmem).2.2 rfl

theorem Plain.lit {l : List Char} (h : (l.all fun c => c != '{' && c != '}' && c != '\n') = true) :
    Plain (String.ofList l) := by
  constructor
  intro c hc
  rw [String.toList_ofList] at hc
  simpa [and_assoc] using List.all_eq_true.mp h c hc

theorem Plain.of_chars {s t : String} (h : Plain s) (hsub : ∀ c ∈ t.toList, c ∈ s.toList) :
    Plain t :=
  ⟨fun c hc => h.chars c (hsub c hc)⟩

theorem Plain.trim {s : String} (h : Plain s) : Plain (Text.trim s) := by
  apply h.of_chars
  intro c hc
  rw [Text.toList_trim] at hc
  exact Text.mem_of_mem_trimChars hc

/-- The mark at the end of a nullable type is no brace. -/
theorem Plain.nullable {s : String} (h : Plain s) : Plain (TypeName.nullable s) := by
  unfold TypeName.nullable
  dsimp only
  split
  · exact h.trim
  · constructor
    intro c hc
    rw [String.toList_append, List.mem_append] at hc
    rcases hc with hc | hc
    · exact h.trim.chars c hc
    · obtain rfl : c = '?' := by simpa using hc
      decide

/-- Fixed text, which is read through. -/
theorem Clean.lit {l : List Char} (h : (depthAfter 0 l == some 0 && !l.contains '\n') = true) :
    Clean (String.ofList l) := by
  simp only [Bool.and_eq_true, beq_iff_eq, Bool.not_eq_true', List.contains_eq_mem,
    decide_eq_false_iff_not] at h
  constructor
  · show depthAfter 0 (String.ofList l).toList = some 0
    rw [String.toList_ofList]
    exact h.1
  · rw [String.toList_ofList]
    exact h.2

theorem Clean.append {a b : String} (ha : Clean a) (hb : Clean b) : Clean (a ++ b) where
  balanced := ha.balanced.append hb.balanced
  unbroken := by
    rw [String.toList_append, List.mem_append, not_or]
    exact ⟨ha.unbroken, hb.unbroken⟩

theorem Clean.braced {s : String} (h : Clean s) : Clean (Code.braced s) := by
  have hlist : (Code.braced s).toList = '{' :: (s.toList ++ ['}']) := by
    simp [Code.braced, Code.lbrace, Code.rbrace]
  constructor
  · show depthAfter 0 (Code.braced s).toList = some 0
    rw [hlist]
    exact depthAfter_append_of (h.balanced.depthAfter 1) (depthAfter_close 0)
  · rw [hlist]
    simpa using h.unbroken

theorem Clean.intercalate {sep : String} (hsep : Clean sep) {parts : List String}
    (h : ∀ p ∈ parts, Clean p) : Clean (sep.intercalate parts) := by
  -- two parts are joined at a time, as the library unfolds `intercalate`
  induction parts with
  | nil => exact .lit (l := []) rfl
  | cons a rest ih =>
    have ha : Clean a := h a (by simp)
    cases rest with
    | nil => rwa [String.intercalate_singleton]
    | cons b rest =>
      rw [String.intercalate_cons_cons]
      exact (ha.append hsep).append (ih fun p hp => h p (by simp [hp]))

theorem Clean.commaList {parts : List String} (h : ∀ p ∈ parts, Clean p) :
    Clean (commaList parts) :=
  .intercalate (.lit rfl) h

/-! ## Ends of texts -/

theorem Opens.lit {c : Char} {l : List Char} (h : (c != ' ') = true) :
    Opens (String.ofList (c :: l)) :=
  ⟨c, by rw [String.toList_ofList]; rfl, by simpa using h⟩

theorem Opens.append {a : String} (h : Opens a) (b : String) : Opens (a ++ b) := by
  obtain ⟨c, hc, hne⟩ := h.front
  refine ⟨c, ?_, hne⟩
  rw [String.toList_append, List.head?_append, hc]
  rfl

theorem Closes.lit {l : List Char} (h : (l.getLast?.any fun c => !Text.isBlank c) = true) :
    Closes (String.ofList l) := by
  cases hlast : l.getLast? with
  | none =>
    rw [hlast] at h
    cases h
  | some c =>
    rw [hlast] at h
    exact ⟨c, by rw [String.toList_ofList]; exact hlast, by simpa using h⟩

theorem Closes.append {b : String} (h : Closes b) (a : String) : Closes (a ++ b) := by
  obtain ⟨c, hc, hblank⟩ := h.back
  refine ⟨c, ?_, hblank⟩
  rw [String.toList_append, List.getLast?_append, hc]
  rfl

theorem Closes.braced (s : String) : Closes (Code.braced s) :=
  .append (.lit rfl) _

theorem Closes.intercalate {sep : String} {parts : List String} (h : ∀ p ∈ parts, Closes p)
    (hne : parts ≠ []) : Closes (sep.intercalate parts) := by
  induction parts with
  | nil => exact absurd rfl hne
  | cons a rest ih =>
    cases rest with
    | nil =>
      rw [String.intercalate_singleton]
      exact h a (by simp)
    | cons b rest =>
      rw [String.intercalate_cons_cons]
      exact .append (ih (fun p hp => h p (by simp [hp])) (by simp)) (a ++ sep)

end ValueObject.Source
