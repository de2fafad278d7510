/-
# ValueObject.Proofs.Source.BraceDepth -- reading the braces of a text

A text is read from left to right and the braces that stand open are counted. Reading **fails** when
a brace closes that was never opened, so a depth that comes out of a text says two things at once:
how many braces are open at its end, and that the count never fell below zero on the way.

Reading a text twice as long is reading its halves one after the other (`depthAfter_append`), and a
balanced text can be read at any depth (`Balanced.depthAfter`). Nothing below looks at a single
character again: every later fact about braces is put together from these two.
-/

import ValueObject.Source.Writer

namespace ValueObject.Source

/-- The open braces after one more character; none if the character closes what is not open. -/
def braceStep (d : Nat) (c : Char) : Option Nat :=
  if c = '{' then some (d + 1)
  else if c = '}' then (if d = 0 then none else some (d - 1))
  else some d

/-- **The brace depth after a text** that is read from depth `d` on. -/
def depthAfter (d : Nat) (cs : List Char) : Option Nat :=
  cs.foldlM braceStep d

/-- A text closes what it opens and nothing else: read from the start, its depth never falls below
zero and ends at zero. -/
def Balanced (s : String) : Prop :=
  depthAfter 0 s.toList = some 0

instance (s : String) : Decidable (Balanced s) :=
  inferInstanceAs (Decidable (_ = _))

/-! ## Reading a text in parts -/

@[simp]
theorem depthAfter_nil (d : Nat) : depthAfter d [] = some d := rfl

theorem depthAfter_cons (d : Nat) (c : Char) (cs : List Char) :
    depthAfter d (c :: cs) = (braceStep d c).bind fun e => depthAfter e cs := rfl

theorem depthAfter_append (d : Nat) (a b : List Char) :
    depthAfter d (a ++ b) = (depthAfter d a).bind fun e => depthAfter e b := by
  simp only [depthAfter, List.foldlM_append]
  rfl

/-- Parts that are read one after the other. -/
theorem depthAfter_append_of {d e k : Nat} {a b : List Char} (ha : depthAfter d a = some e)
    (hb : depthAfter e b = some k) : depthAfter d (a ++ b) = some k := by
  rw [depthAfter_append, ha, Option.bind_some, hb]

@[simp]
theorem depthAfter_open (d : Nat) : depthAfter d ['{'] = some (d + 1) := rfl

@[simp]
theorem depthAfter_close (d : Nat) : depthAfter (d + 1) ['}'] = some d := rfl

/-- A text without braces leaves the depth as it is. -/
theorem depthAfter_of_no_brace {cs : List Char} (h : ∀ c ∈ cs, c ≠ '{' ∧ c ≠ '}') (d : Nat) :
    depthAfter d cs = some d := by
  induction cs with
  | nil => rfl
  | cons c cs ih =>
    obtain ⟨hopen, hclose⟩ := h c (by simp)
    have hstep : braceStep d c = some d := by simp [braceStep, hopen, hclose]
    rw [depthAfter_cons, hstep, Option.bind_some]
    exact ih fun x hx => h x (by simp [hx])

/-! ## Reading a text further in -/

theorem braceStep_add {d e : Nat} {c : Char} (h : braceStep d c = some e) (k : Nat) :
    braceStep (d + k) c = some (e + k) := by
  unfold braceStep at h ⊢
  split at h
  · next hopen => simp only [if_pos hopen]; grind
  · next hopen =>
    rw [if_neg hopen]
    split at h
    · next hclose =>
      rw [if_pos hclose]
      split at h
      · cases h
      · next hpos =>
        cases h
        rw [if_neg (by omega)]
        congr 1
        omega
    · next hclose => simpa [hclose] using h

/-- What is open around a text does not change how the text itself is read. -/
theorem depthAfter_add {d e : Nat} {cs : List Char} (h : depthAfter d cs = some e) (k : Nat) :
    depthAfter (d + k) cs = some (e + k) := by
  induction cs generalizing d with
  | nil =>
    rw [depthAfter_nil, Option.some.injEq] at h
    rw [depthAfter_nil, h]
  | cons c cs ih =>
    rw [depthAfter_cons] at h ⊢
    obtain ⟨m, hm, hrest⟩ := Option.bind_eq_some_iff.mp h
    rw [braceStep_add hm, Option.bind_some]
    exact ih hrest

/-- **A balanced text leaves every depth as it is.** -/
theorem Balanced.depthAfter {s : String} (h : Balanced s) (d : Nat) :
    depthAfter d s.toList = some d := by
  simpa using depthAfter_add h d

theorem Balanced.append {a b : String} (ha : Balanced a) (hb : Balanced b) : Balanced (a ++ b) := by
  show Source.depthAfter 0 (a ++ b).toList = some 0
  rw [String.toList_append]
  exact depthAfter_append_of ha hb

end ValueObject.Source
