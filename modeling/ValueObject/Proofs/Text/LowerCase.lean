/-
# ValueObject.Proofs.Text.LowerCase -- what lower-casing can make of a character

Two facts about the mapping of `ValueObject.Text.Lowercase` carry everything that is said about
derived names. Lower-casing makes no ASCII character but a lower-case letter, or leaves the character
alone (`eq_or_letter_of_mem_lowercase`); so it makes no brace, no blank, no underscore and no `@`.
And what it has made it does not change again (`lowercase_head`); so lower-casing the first character
of a name is idempotent (`lowerFirst_lowerFirst`).

ASCII is checked character by character. Outside ASCII the runs are compared with each other, and no
single character is looked at.
-/

import ValueObject.Text.Lowercase

namespace ValueObject.Text

/-- What holds of the first 128 code points holds of every ASCII character. -/
theorem ascii_induction {P : Char → Prop} (h : ∀ n < 128, P (Char.ofNat n)) {c : Char}
    (hc : c.toNat < 128) : P c := by
  have := h c.toNat hc
  rwa [Char.ofNat_toNat] at this

theorem toNat_ofNat_of_valid {n : Nat} (h : n.isValidChar) : (Char.ofNat n).toNat = n := by
  rw [Char.ofNat, dif_pos h]
  rfl

/-- An ASCII lower-case letter. -/
def IsLetter (c : Char) : Prop :=
  97 ≤ c.toNat ∧ c.toNat ≤ 122

instance (c : Char) : Decidable (IsLetter c) :=
  inferInstanceAs (Decidable (_ ∧ _))

theorem toLower_eq_or_letter {c : Char} (h : c.toNat < 128) :
    c.toLower = c ∨ IsLetter c.toLower := by
  have hall : ∀ n < 128, (Char.ofNat n).toLower = Char.ofNat n ∨
      IsLetter (Char.ofNat n).toLower := by decide
  exact ascii_induction (P := fun c => c.toLower = c ∨ IsLetter c.toLower) hall h

/-! ## Characters of a run -/

/-- The lower case of every character of the run is a character outside ASCII, or the run is one
character whose lower case is a letter. It is never U+0130, the one character with a lower case of
two. -/
def CaseRun.Sound (r : CaseRun) : Prop :=
  (128 ≤ r.lower ∨ (r.first = r.last ∧ 97 ≤ r.lower ∧ r.lower ≤ 122)) ∧
  (r.lower + (r.last - r.first) < 0x130 ∨ 0x130 < r.lower) ∧
  (r.lower + (r.last - r.first) < 0xD800 ∨
    (0xE000 ≤ r.lower ∧ r.lower + (r.last - r.first) < 0x110000))

instance (r : CaseRun) : Decidable r.Sound :=
  inferInstanceAs (Decidable (_ ∧ _))

/-- No character that `r` makes belongs to `r'`: its characters lie beside those of `r'`, or between
every second one of them. -/
def CaseRun.misses (r r' : CaseRun) : Bool :=
  Nat.blt (r.lower + (r.last - r.first)) r'.first || Nat.blt r'.last r.lower ||
  (Nat.beq r'.stride 2 && (Nat.beq r.stride 2 || Nat.beq r.first r.last) &&
    Nat.beq ((r.lower + r'.first) % 2) 1)

theorem CaseRun.misses_iff {r r' : CaseRun} :
    r.misses r' = true ↔
      (r.lower + (r.last - r.first) < r'.first ∨ r'.last < r.lower) ∨
      (r'.stride = 2 ∧ (r.stride = 2 ∨ r.first = r.last)) ∧ (r.lower + r'.first) % 2 = 1 := by
  simp only [misses, Bool.or_eq_true, Bool.and_eq_true, Nat.blt_eq, Nat.beq_eq]

theorem sound_of_mem : ∀ r ∈ caseRuns, r.Sound := by
  decide +kernel

theorem misses_of_mem : (caseRuns.all fun r => caseRuns.all r.misses) = true := by
  decide +kernel

theorem CaseRun.contains_iff {r : CaseRun} {n : Nat} :
    r.contains n = true ↔ r.first ≤ n ∧ n ≤ r.last ∧ (n - r.first) % r.stride = 0 := by
  simp [CaseRun.contains, and_assoc]

theorem CaseRun.Sound.toNat_apply {r : CaseRun} (h : r.Sound) {n : Nat}
    (hn : r.contains n = true) : (r.apply n).toNat = r.lower + (n - r.first) := by
  obtain ⟨hfirst, hlast, -⟩ := CaseRun.contains_iff.mp hn
  apply toNat_ofNat_of_valid
  rcases h.2.2 with h | h
  · exact .inl (by omega)
  · exact .inr (by omega)

theorem CaseRun.not_contains_of_misses {r r' : CaseRun} (h : r.misses r' = true) {n : Nat}
    (hn : r.contains n = true) : r'.contains (r.lower + (n - r.first)) = false := by
  obtain ⟨hfirst, hlast, hstride⟩ := CaseRun.contains_iff.mp hn
  rw [Bool.eq_false_iff]
  intro hmem
  obtain ⟨hfirst', hlast', hstride'⟩ := CaseRun.contains_iff.mp hmem
  -- the lower cases of `r` lie before `r'`, after it, or between its characters
  rcases CaseRun.misses_iff.mp h with (h | h) | ⟨⟨htwo, hstep⟩, hodd⟩
  · omega
  · omega
  · rw [htwo] at hstride'
    rcases hstep with hstep | hstep
    · rw [hstep] at hstride
      omega
    · omega

/-- A run leads out of ASCII or to a lower-case letter. -/
theorem CaseRun.Sound.letter_of_ascii {r : CaseRun} (h : r.Sound) {n : Nat}
    (hn : r.contains n = true) (hascii : (r.apply n).toNat < 128) : IsLetter (r.apply n) := by
  obtain ⟨hfirst, hlast, -⟩ := CaseRun.contains_iff.mp hn
  have hnat := h.toNat_apply hn
  rcases h.1 with h128 | ⟨hone, hletter⟩
  · omega
  · -- the one run that leads into ASCII has one character
    refine ⟨?_, ?_⟩ <;> omega

/-! ## Lower-casing a character -/

/-- The three ways in which a character outside ASCII is lower-cased. -/
theorem lowercase_cases {c : Char} (h : ¬ c.toNat < 128) :
    lowercase c = ['i', Char.ofNat 0x307] ∨
    (∃ r ∈ caseRuns, r.contains c.toNat = true ∧ lowercase c = [r.apply c.toNat]) ∨
    lowercase c = [c] := by
  unfold lowercase
  rw [if_neg h]
  split
  · exact .inl rfl
  · cases hfind : caseRuns.find? (·.contains c.toNat) with
    | none => exact .inr (.inr rfl)
    | some r =>
      have hcontains := List.find?_some hfind
      exact .inr (.inl ⟨r, List.mem_of_find?_eq_some hfind, hcontains, rfl⟩)

/-- **Lower-casing makes no ASCII character but a lower-case letter**, unless it leaves the
character as it is. -/
theorem eq_or_letter_of_mem_lowercase {c d : Char} (hd : d ∈ lowercase c) (hascii : d.toNat < 128) :
    d = c ∨ IsLetter d := by
  by_cases hc : c.toNat < 128
  · rw [lowercase_of_lt hc, List.mem_singleton] at hd
    rw [hd]
    exact toLower_eq_or_letter hc
  · rcases lowercase_cases hc with h | ⟨r, hr, hcontains, h⟩ | h
    · rw [h, List.mem_cons, List.mem_singleton] at hd
      rcases hd with rfl | rfl
      · exact .inr (by decide)
      · exact absurd hascii (by decide)
    · rw [h, List.mem_singleton] at hd
      subst hd
      exact .inr ((sound_of_mem r hr).letter_of_ascii hcontains hascii)
    · rw [h, List.mem_singleton] at hd
      exact .inl hd

/-- A character that no run has is its own lower case. -/
theorem lowercase_eq_self {c : Char} (h128 : ¬ c.toNat < 128) (h130 : c.toNat ≠ 0x130)
    (hruns : ∀ r ∈ caseRuns, r.contains c.toNat = false) : lowercase c = [c] := by
  have hnone : caseRuns.find? (·.contains c.toNat) = none := by
    rw [List.find?_eq_none]
    intro r hr
    rw [hruns r hr]
    decide
  unfold lowercase
  rw [if_neg h128, if_neg h130, hnone]

theorem lowercase_of_letter {c : Char} (h : IsLetter c) : lowercase c = [c] := by
  have hascii : c.toNat < 128 := by unfold IsLetter at h; omega
  have hall : ∀ n < 128, IsLetter (Char.ofNat n) →
      (Char.ofNat n).toLower = Char.ofNat n := by decide
  have hlower : c.toLower = c :=
    ascii_induction (P := fun c => IsLetter c → c.toLower = c) hall hascii h
  rw [lowercase_of_lt hascii, hlower]

/-- What a run leads to is in no run, so it is its own lower case. -/
theorem lowercase_apply {r : CaseRun} (hr : r ∈ caseRuns) {n : Nat} (hn : r.contains n = true) :
    lowercase (r.apply n) = [r.apply n] := by
  have hsound := sound_of_mem r hr
  have hnat := hsound.toNat_apply hn
  by_cases hascii : (r.apply n).toNat < 128
  · exact lowercase_of_letter (hsound.letter_of_ascii hn hascii)
  · obtain ⟨hfirst, hlast, -⟩ := CaseRun.contains_iff.mp hn
    have hdotted : (r.apply n).toNat ≠ 0x130 := by
      have := hsound.2.1
      omega
    refine lowercase_eq_self hascii hdotted ?_
    intro r' hr'
    have hmisses := List.all_eq_true.mp (List.all_eq_true.mp misses_of_mem r hr) r' hr'
    rw [hnat]
    exact CaseRun.not_contains_of_misses hmisses hn

/-- **What lower-casing has put in front it does not change again.** -/
theorem lowercase_head {c d : Char} {rest : List Char} (h : lowercase c = d :: rest) :
    lowercase d = [d] := by
  by_cases hc : c.toNat < 128
  · rw [lowercase_of_lt hc] at h
    obtain rfl : c.toLower = d := (List.cons.inj h).1
    rcases toLower_eq_or_letter hc with hsame | hletter
    · rw [hsame, lowercase_of_lt hc, hsame]
    · exact lowercase_of_letter hletter
  · rcases lowercase_cases hc with hi | ⟨r, hr, hcontains, hrun⟩ | hself
    · rw [hi] at h
      obtain rfl : 'i' = d := (List.cons.inj h).1
      exact lowercase_of_letter (by decide)
    · rw [hrun] at h
      obtain rfl : r.apply c.toNat = d := (List.cons.inj h).1
      exact lowercase_apply hr hcontains
    · rw [hself] at h
      obtain rfl : c = d := (List.cons.inj h).1
      exact hself

/-! ## Lower-casing the first character -/

theorem mem_lowerFirst {cs : List Char} {d : Char} (h : d ∈ lowerFirst cs) :
    d ∈ cs ∨ ∃ c ∈ cs, d ∈ lowercase c := by
  cases cs with
  | nil => exact .inl h
  | cons c rest =>
    rcases List.mem_append.mp h with h | h
    · exact .inr ⟨c, by simp, h⟩
    · exact .inl (by simp [h])

/-- A lower-cased name holds no ASCII character that the name does not hold, letters apart. -/
theorem mem_or_letter_of_mem_lowerFirst {cs : List Char} {d : Char} (h : d ∈ lowerFirst cs)
    (hascii : d.toNat < 128) : d ∈ cs ∨ IsLetter d := by
  rcases mem_lowerFirst h with h | ⟨c, hc, hd⟩
  · exact .inl h
  · rcases eq_or_letter_of_mem_lowercase hd hascii with rfl | hletter
    · exact .inl hc
    · exact .inr hletter

/-- The first character of a lower-cased name, if it is ASCII and no letter, is that of the name. -/
theorem head?_of_head?_lowerFirst {cs : List Char} {d : Char} (h : (lowerFirst cs).head? = some d)
    (hascii : d.toNat < 128) : cs.head? = some d ∨ IsLetter d := by
  cases cs with
  | nil => cases h
  | cons c rest =>
    obtain ⟨e, tail, he⟩ := List.exists_cons_of_ne_nil (lowercase_ne_nil c)
    have hhead : e = d := by simpa [lowerFirst, he] using h
    have hmem : d ∈ lowercase c := by simp [he, hhead]
    rcases eq_or_letter_of_mem_lowercase hmem hascii with rfl | hletter
    · exact .inl rfl
    · exact .inr hletter

/-- **Lower-casing the first character again changes nothing.** -/
theorem lowerFirst_lowerFirst (cs : List Char) : lowerFirst (lowerFirst cs) = lowerFirst cs := by
  cases cs with
  | nil => rfl
  | cons c rest =>
    obtain ⟨d, tail, hd⟩ := List.exists_cons_of_ne_nil (lowercase_ne_nil c)
    have hfirst : lowerFirst (c :: rest) = d :: (tail ++ rest) := by simp [lowerFirst, hd]
    rw [hfirst, lowerFirst, lowercase_head hd, List.singleton_append]

end ValueObject.Text
