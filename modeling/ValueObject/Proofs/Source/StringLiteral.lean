/-
# ValueObject.Proofs.Source.StringLiteral -- how a string literal is read

Between the quotes of a string literal a character stands for itself, unless it is a backslash. A
backslash and the characters behind it are an **escape**: a sign such as `\n`, or a number in hexadecimal
digits, `\x` with up to four of them, `\u` with four and `\U` with eight. What a literal means is a text
in UTF-16. No literal goes over the end of a line.

A reader of literals takes one character at a time (`step`) and stops behind the quote that closes the
literal. It never writes more code units than it has read (`within`), and fewer once it has read a
backslash; so the text between two quotes is read as itself exactly if nothing in it is an escape or ends
the line (`readFrom_plain_iff`).
-/

import Mathlib.Data.List.Basic
import ValueObject.Data.Numeral

namespace ValueObject.Source.Literal

open Data

/-! ## Texts in UTF-16 -/

/-- The code units of a code point: one, or a pair of surrogates. -/
def codeUnits (n : Nat) : List Nat :=
  if n < 0x10000 then [n]
  else [0xD800 + (n - 0x10000) / 0x400, 0xDC00 + (n - 0x10000) % 0x400]

/-- **The code units of a text.** -/
def units (cs : List Char) : List Nat :=
  cs.flatMap fun c => codeUnits c.toNat

theorem units_cons (c : Char) (cs : List Char) : units (c :: cs) = codeUnits c.toNat ++ units cs :=
  rfl

theorem length_codeUnits_pos (n : Nat) : 0 < (codeUnits n).length := by
  unfold codeUnits
  split <;> simp

theorem length_codeUnits_le (n : Nat) : (codeUnits n).length ≤ 2 := by
  unfold codeUnits
  split <;> simp

/-! ## The reader -/

/-- The character ends a line of code. -/
def endsLine (c : Char) : Bool :=
  c == '\n' || c == '\r' || c == '\u0085' || c == '\u2028' || c == '\u2029'

/-- **The text stays on one line.** -/
def OnOneLine (cs : List Char) : Prop :=
  ∀ c ∈ cs, endsLine c = false

instance (cs : List Char) : Decidable (OnOneLine cs) :=
  List.decidableBAll (fun c => endsLine c = false) cs

theorem onOneLine_append {a b : List Char} : OnOneLine (a ++ b) ↔ OnOneLine a ∧ OnOneLine b :=
  List.forall_mem_append

/-- Where a reader is in a literal. -/
inductive Mode where
  /-- Where a character stands for itself. -/
  | plain
  /-- Behind a backslash. -/
  | escape
  /-- In a number: the digits that must follow, those that may, and the value of the ones before. -/
  | number (required optional value : Nat)
  deriving DecidableEq, Repr

/-- What a reader does with a character. -/
inductive Step where
  /-- This is no literal. -/
  | refuse
  /-- The literal ends here. -/
  | close (written : List Nat)
  /-- It goes on. -/
  | goOn (written : List Nat) (next : Mode)
  deriving DecidableEq, Repr

/-- A character that is in no escape, behind one that means `written`. -/
def plainStep (written : List Nat) (c : Char) : Step :=
  if c = '"' then .close written
  else if c = '\\' then .goOn written .escape
  else if endsLine c then .refuse
  else .goOn (written ++ codeUnits c.toNat) .plain

/-- The character behind a backslash. -/
def escapeStep : Char → Step
  | '\'' => .goOn [0x27] .plain
  | '"' => .goOn [0x22] .plain
  | '\\' => .goOn [0x5C] .plain
  | '0' => .goOn [0x00] .plain
  | 'a' => .goOn [0x07] .plain
  | 'b' => .goOn [0x08] .plain
  | 'e' => .goOn [0x1B] .plain
  | 'f' => .goOn [0x0C] .plain
  | 'n' => .goOn [0x0A] .plain
  | 'r' => .goOn [0x0D] .plain
  | 't' => .goOn [0x09] .plain
  | 'v' => .goOn [0x0B] .plain
  | 'x' => .goOn [] (.number 1 3 0)
  | 'u' => .goOn [] (.number 4 0 0)
  | 'U' => .goOn [] (.number 8 0 0)
  | _ => .refuse

/-- The character behind a number, which must be a code point. -/
def afterNumber (value : Nat) (c : Char) : Step :=
  if value < 0x110000 then plainStep (codeUnits value) c else .refuse

/-- **What a reader does with one character.** -/
def step : Mode → Char → Step
  | .plain, c => plainStep [] c
  | .escape, c => escapeStep c
  | .number (required + 1) optional value, c =>
    if isHexDigit c then .goOn [] (.number required optional (16 * value + digitsValue 16 [c]))
    else .refuse
  | .number 0 (optional + 1) value, c =>
    if isHexDigit c then .goOn [] (.number 0 optional (16 * value + digitsValue 16 [c]))
    else afterNumber value c
  | .number 0 0 value, c => afterNumber value c

/-- **Reads a literal up to its quote**: what it means, and the text behind it. -/
def readFrom : Mode → List Char → Option (List Nat × List Char)
  | _, [] => none
  | m, c :: rest =>
    match step m c with
    | .refuse => none
    | .close written => some (written, rest)
    | .goOn written next => (readFrom next rest).map fun r => (written ++ r.1, r.2)

/-! ## What one step writes -/

/-- The code units that may still be written for what has been read. -/
def Mode.owed : Mode → Nat
  | .plain | .escape => 0
  | .number (_ + 1) _ _ => 1
  | .number 0 _ _ => 2

/-- **A step that goes on**: it stays on the line, writes no more than it has read, and a backslash that
begins an escape writes less. -/
structure Follows (m : Mode) (c : Char) (written : List Nat) (next : Mode) : Prop where
  sameLine : endsLine c = false
  within : written.length + next.owed ≤ m.owed + (codeUnits c.toNat).length
  backslash : m ≠ .escape → c = '\\' →
    written.length + next.owed < m.owed + (codeUnits c.toNat).length
  other : m ≠ .escape → c ≠ '\\' → next ≠ .escape

theorem sameLine_of_isHexDigit {c : Char} (h : isHexDigit c = true) : endsLine c = false := by
  rw [Bool.eq_false_iff]
  intro hends
  simp only [endsLine, Bool.or_eq_true, beq_iff_eq] at hends
  obtain (((rfl | rfl) | rfl) | rfl) | rfl := hends
  all_goals exact absurd h (by decide)

variable {m next : Mode} {c : Char} {written : List Nat}

/-- A digit of a number. -/
theorem follows_digit (hc : isHexDigit c = true) (hnext : next.owed ≤ m.owed + 1)
    (hescape : next ≠ .escape) : Follows m c [] next where
  sameLine := sameLine_of_isHexDigit hc
  within := by
    have hpos := length_codeUnits_pos c.toNat
    rw [List.length_nil]
    omega
  backslash := by
    rintro - rfl
    exact absurd hc (by decide)
  other := fun _ _ => hescape

theorem follows_plainStep {before : List Nat} (hbefore : before.length ≤ m.owed)
    (h : plainStep before c = .goOn written next) : Follows m c written next := by
  unfold plainStep at h
  split at h
  · cases h
  · split at h
    · next hc =>
      cases h
      subst hc
      have hlength : (codeUnits '\\'.toNat).length = 1 := rfl
      refine ⟨rfl, ?_, ?_, fun _ hc => absurd rfl hc⟩
      · show written.length + 0 ≤ _
        omega
      · intro _ _
        show written.length + 0 < _
        omega
    · next hc =>
      split at h
      · cases h
      · next hline =>
        cases h
        refine ⟨by simpa using hline, ?_, fun _ hback => absurd hback hc, fun _ _ => by simp⟩
        rw [List.length_append]
        show _ + 0 ≤ _
        omega

theorem close_of_plainStep {before : List Nat} (h : plainStep before c = .close written) :
    c = '"' ∧ written = before := by
  unfold plainStep at h
  split at h
  · next hc =>
    cases h
    exact ⟨hc, rfl⟩
  · repeat' split at h
    all_goals cases h

theorem follows_escapeStep (h : escapeStep c = .goOn written next) :
    Follows .escape c written next := by
  unfold escapeStep at h
  split at h
  all_goals
    cases h
    try exact ⟨by decide, by decide, fun hm => absurd rfl hm, fun hm => absurd rfl hm⟩

theorem not_close_escapeStep : escapeStep c ≠ .close written := by
  unfold escapeStep
  split
  all_goals exact Step.noConfusion

theorem afterNumber_of_ne_refuse {value : Nat} (h : afterNumber value c ≠ .refuse) :
    afterNumber value c = plainStep (codeUnits value) c := by
  unfold afterNumber at h ⊢
  split at h
  · next hvalue => rw [if_pos hvalue]
  · exact absurd rfl h

theorem follows_of_step (h : step m c = .goOn written next) : Follows m c written next := by
  have hnumber {value : Nat} (hm : m.owed = 2) (h : afterNumber value c = .goOn written next) :
      Follows m c written next := by
    rw [afterNumber_of_ne_refuse (by simp [h])] at h
    exact follows_plainStep (hm ▸ length_codeUnits_le value) h
  cases m with
  | plain => exact follows_plainStep (Nat.zero_le _) h
  | escape => exact follows_escapeStep h
  | number required optional value =>
    rcases required with _ | required
    · rcases optional with _ | optional
      · exact hnumber rfl h
      · rw [step] at h
        split at h
        · next hc =>
          cases h
          exact follows_digit hc (Nat.le_succ 2) (by simp)
        · exact hnumber rfl h
    · rw [step] at h
      split at h
      · next hc =>
        cases h
        refine follows_digit hc ?_ (by simp)
        cases required <;> simp [Mode.owed]
      · cases h

theorem close_of_step (h : step m c = .close written) : c = '"' ∧ written.length ≤ m.owed := by
  have hnumber {value : Nat} (hm : m.owed = 2) (h : afterNumber value c = .close written) :
      c = '"' ∧ written.length ≤ m.owed := by
    rw [afterNumber_of_ne_refuse (by simp [h])] at h
    obtain ⟨hc, rfl⟩ := close_of_plainStep h
    exact ⟨hc, hm ▸ length_codeUnits_le value⟩
  cases m with
  | plain =>
    obtain ⟨hc, rfl⟩ := close_of_plainStep h
    exact ⟨hc, Nat.le_refl 0⟩
  | escape => exact absurd h not_close_escapeStep
  | number required optional value =>
    rcases required with _ | required
    · rcases optional with _ | optional
      · exact hnumber rfl h
      · rw [step] at h
        split at h
        · cases h
        · exact hnumber rfl h
    · rw [step] at h
      split at h <;> cases h

/-! ## What a run writes -/

/-- **A run that ends**: what was read up to the quote is on one line, is at least as long as what was
written, and longer if an escape was read. -/
structure Reads (m : Mode) (consumed : List Char) (out : List Nat) : Prop where
  sameLine : OnOneLine consumed
  within : out.length ≤ m.owed + (units consumed).length
  backslash : m ≠ .escape → '\\' ∈ consumed → out.length < m.owed + (units consumed).length

/-- A step in front of a run. -/
theorem Reads.cons {consumed : List Char} {out : List Nat} (hstep : Follows m c written next)
    (h : Reads next consumed out) : Reads m (c :: consumed) (written ++ out) where
  sameLine := List.forall_mem_cons.mpr ⟨hstep.sameLine, h.sameLine⟩
  within := by
    have hfirst := hstep.within
    have hrest := h.within
    rw [units_cons, List.length_append, List.length_append]
    omega
  backslash := by
    intro hm hmem
    have hrest := h.within
    rw [units_cons, List.length_append, List.length_append]
    -- the backslash that writes less is this character, or one of those behind it
    by_cases hc : c = '\\'
    · have hfirst := hstep.backslash hm hc
      omega
    · have hfirst := hstep.within
      have hmem : '\\' ∈ consumed := (List.mem_cons.mp hmem).resolve_left (Ne.symm hc)
      have hless := h.backslash (hstep.other hm hc) hmem
      omega

theorem reads_of_readFrom {cs rest : List Char} {out : List Nat}
    (h : readFrom m cs = some (out, rest)) :
    ∃ consumed, cs = consumed ++ '"' :: rest ∧ Reads m consumed out := by
  induction cs generalizing m out with
  | nil => cases h
  | cons c cs ih =>
    rw [readFrom] at h
    split at h
    · cases h
    · next written hstep =>
      obtain ⟨rfl, hlength⟩ := close_of_step hstep
      cases h
      exact ⟨[], rfl, List.forall_mem_nil _, hlength, by simp⟩
    · next written next hstep =>
      obtain ⟨⟨out', rest'⟩, hrun, heq⟩ := Option.map_eq_some_iff.mp h
      cases heq
      obtain ⟨consumed, rfl, hreads⟩ := ih hrun
      exact ⟨c :: consumed, rfl, hreads.cons (follows_of_step hstep)⟩

/-! ## Texts that are read as themselves -/

/-- **Nothing in the text is an escape or ends the line.** -/
def Verbatim (cs : List Char) : Prop :=
  ∀ c ∈ cs, c ≠ '\\' ∧ endsLine c = false

instance (cs : List Char) : Decidable (Verbatim cs) :=
  List.decidableBAll (fun c => c ≠ '\\' ∧ endsLine c = false) cs

theorem readFrom_plain_of_verbatim {cs : List Char} (hquote : '"' ∉ cs) (h : Verbatim cs)
    (rest : List Char) : readFrom .plain (cs ++ '"' :: rest) = some (units cs, rest) := by
  induction cs with
  | nil => rfl
  | cons c cs ih =>
    rw [List.mem_cons, not_or] at hquote
    obtain ⟨⟨hback, hline⟩, htail⟩ := List.forall_mem_cons.mp h
    have hstep : step .plain c = .goOn (codeUnits c.toNat) .plain := by
      show plainStep [] c = _
      rw [plainStep, if_neg (Ne.symm hquote.1), if_neg hback, hline]
      rfl
    rw [List.cons_append, readFrom, hstep]
    show (readFrom .plain (cs ++ '"' :: rest)).map _ = _
    rw [ih hquote.2 htail]
    rfl

/-- **A text between quotes is read as itself exactly if it is verbatim.** -/
theorem readFrom_plain_iff {cs : List Char} (hquote : '"' ∉ cs) (rest : List Char) :
    readFrom .plain (cs ++ '"' :: rest) = some (units cs, rest) ↔ Verbatim cs := by
  constructor
  · intro h
    -- what is left is the same on both sides, so the quote that was met is the one behind the text
    obtain ⟨consumed, heq, hreads⟩ := reads_of_readFrom h
    obtain rfl : cs = consumed := List.append_cancel_right heq
    intro c hc
    refine ⟨?_, hreads.sameLine c hc⟩
    rintro rfl
    have hless := hreads.backslash (by simp) hc
    rw [Mode.owed, Nat.zero_add] at hless
    exact Nat.lt_irrefl _ hless
  · exact fun h => readFrom_plain_of_verbatim hquote h rest

/-- A tabulator by its sign, a character by its number, and a number that ends the literal. -/
example : readFrom .plain "\\t\\x41.\\U0001F600\";".toList =
    some ([0x09, 0x41, 0x2E, 0xD83D, 0xDE00], [';']) := by
  decide +kernel

end ValueObject.Source.Literal
