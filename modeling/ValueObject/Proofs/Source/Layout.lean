/-
# ValueObject.Proofs.Source.Layout -- the layout of generated text

A text is **well-formed** when its braces balance, every line that is not empty has exactly four
spaces in front for each brace that stands open before it (one level fewer for a closing brace that
has the line to itself), and no line ends in a blank.

The text of a writer is followed as a list of complete lines (`Laid`). A step adds lines that fit the
depth they start at, provided the texts it is given are **tidy**: balanced, without a line break,
and with no space in front and no blank at the end. So a run of steps with tidy texts builds a
well-formed text (`wellFormed_build`), whatever the steps are and in whatever order they come.
-/

import ValueObject.Proofs.Source.WriterRun
import ValueObject.Proofs.Text.Split
import ValueObject.Text.Affix
import ValueObject.Text.Blank

namespace ValueObject.Source

/-! ## Lines of a text -/

/-- The lines of a text: its parts between line breaks. -/
def lines (s : String) : List (List Char) :=
  Text.splitOn '\n' s.toList

/-- The number of spaces in front of a line. -/
def marginOf (line : List Char) : Nat :=
  (line.takeWhile (· == ' ')).length

/-- The line is a closing brace and nothing else. -/
def isCloser (line : List Char) : Bool :=
  line.dropWhile (· == ' ') == ['}']

/-- **A well-formed text.** -/
structure WellFormed (s : String) : Prop where
  balanced : Balanced s
  indented : ∀ before line after, lines s = before ++ line :: after → line ≠ [] →
    ∃ d, depthAfter 0 before.flatten = some d ∧
      marginOf line = 4 * (if isCloser line then d - 1 else d)
  trimmed : ∀ line ∈ lines s, ∀ c ∈ line.getLast?, Text.isBlank c = false

/-- Lines, each with its line break. -/
def unlines (ls : List (List Char)) : List Char :=
  ls.flatMap fun l => l ++ ['\n']

@[simp]
theorem unlines_append (a b : List (List Char)) : unlines (a ++ b) = unlines a ++ unlines b := by
  simp [unlines]

/-- Lines can be read back from the text that is made of them. -/
theorem splitOn_unlines {ls : List (List Char)} (h : ∀ l ∈ ls, '\n' ∉ l) :
    Text.splitOn '\n' (unlines ls) = ls ++ [[]] := by
  induction ls with
  | nil => rfl
  | cons l ls ih =>
    have hsplit : unlines (l :: ls) = l ++ '\n' :: unlines ls := by simp [unlines]
    rw [hsplit, Text.splitOn_append, Text.splitOn_of_not_mem (h l (by simp)),
      ih fun x hx => h x (by simp [hx])]
    rfl

/-! ## Lines that fit their depth -/

/-- A line that is laid out for the depth `d` and leaves the depth at `e`. -/
structure LineFits (d : Nat) (line : List Char) (e : Nat) : Prop where
  depth : depthAfter d line = some e
  unbroken : '\n' ∉ line
  margin : line ≠ [] → marginOf line = 4 * (if isCloser line then d - 1 else d)
  trimmed : ∀ c ∈ line.getLast?, Text.isBlank c = false

/-- Lines that are laid out one after the other from the start, and the depth after them. -/
inductive Laid : List (List Char) → Nat → Prop
  | nil : Laid [] 0
  | snoc {ls : List (List Char)} {line : List Char} {d e : Nat} :
      Laid ls d → LineFits d line e → Laid (ls ++ [line]) e

theorem Laid.depthAfter {ls : List (List Char)} {d : Nat} (h : Laid ls d) :
    depthAfter 0 (unlines ls) = some d ∧ Source.depthAfter 0 ls.flatten = some d := by
  induction h with
  | nil => exact ⟨rfl, rfl⟩
  | @snoc ls line d e hls hline ih =>
    have hunlines : unlines (ls ++ [line]) = unlines ls ++ (line ++ ['\n']) := by simp [unlines]
    have hflatten : (ls ++ [line]).flatten = ls.flatten ++ line := by simp
    rw [hunlines, hflatten]
    refine ⟨depthAfter_append_of ih.1 ?_, depthAfter_append_of ih.2 hline.depth⟩
    exact depthAfter_append_of hline.depth rfl

theorem Laid.unbroken {ls : List (List Char)} {d : Nat} (h : Laid ls d) :
    ∀ l ∈ ls, '\n' ∉ l := by
  induction h with
  | nil => simp
  | snoc hls hline ih =>
    intro l hl
    rcases List.mem_append.mp hl with hl | hl
    · exact ih l hl
    · rw [List.mem_singleton.mp hl]
      exact hline.unbroken

/-- Every line that is laid out fits the depth of the lines before it. -/
theorem Laid.fits {ls : List (List Char)} {d : Nat} (h : Laid ls d) :
    ∀ before line after, ls = before ++ line :: after →
      ∃ k e, Source.depthAfter 0 before.flatten = some k ∧ LineFits k line e := by
  induction h with
  | nil => intro before line after heq; simp at heq
  | @snoc ls l d e hls hline ih =>
    intro before line after heq
    -- the line is the last one, or it was laid out before
    rcases List.eq_nil_or_concat after with rfl | ⟨init, last, rfl⟩
    · obtain ⟨rfl, hl⟩ := List.append_inj' heq rfl
      obtain rfl : l = line := by simpa using hl
      exact ⟨d, e, hls.depthAfter.2, hline⟩
    · have hsplit : ls ++ [l] = (before ++ line :: init) ++ [last] := by simpa using heq
      exact ih before line init (List.append_inj' hsplit rfl).1

/-- **Lines that are laid out back to depth zero make a well-formed text.** -/
theorem Laid.wellFormed {ls : List (List Char)} {s : String} (h : Laid ls 0)
    (hs : s.toList = unlines ls) : WellFormed s := by
  have hlines : lines s = ls ++ [[]] := by
    rw [lines, hs]
    exact splitOn_unlines h.unbroken
  -- what follows the last line break is empty, so a line with text in it is one of `ls`
  have hfits : ∀ before line after, lines s = before ++ line :: after → line ≠ [] →
      ∃ k e, Source.depthAfter 0 before.flatten = some k ∧ LineFits k line e := by
    intro before line after heq hne
    rw [hlines] at heq
    rcases List.eq_nil_or_concat after with rfl | ⟨init, last, rfl⟩
    · obtain ⟨-, hl⟩ := List.append_inj' heq rfl
      exact absurd (by simpa using hl.symm) hne
    · have hsplit : ls ++ [[]] = (before ++ line :: init) ++ [last] := by simpa using heq
      exact h.fits before line init (List.append_inj' hsplit rfl).1
  refine ⟨?_, ?_, ?_⟩
  · show Source.depthAfter 0 s.toList = some 0
    rw [hs]
    exact h.depthAfter.1
  · intro before line after heq hne
    obtain ⟨k, e, hk, hline⟩ := hfits before line after heq hne
    exact ⟨k, hk, hline.margin hne⟩
  · intro line hmem c hc
    obtain ⟨before, after, heq⟩ := List.append_of_mem hmem
    have hne : line ≠ [] := by
      rintro rfl
      simp at hc
    obtain ⟨k, e, -, hline⟩ := hfits before line after heq hne
    exact hline.trimmed c hc

/-! ## What the lines of a step fit -/

/-- A text that can be written as a line of its own: it is balanced, holds no line break, and has
neither a space in front nor a blank at the end. -/
structure Tidy (s : String) : Prop where
  balanced : Balanced s
  unbroken : '\n' ∉ s.toList
  front : ∀ c ∈ s.toList.head?, c ≠ ' '
  back : ∀ c ∈ s.toList.getLast?, Text.isBlank c = false

/-- A line without its line break: the margin of `n` levels in front of a text that is not empty. -/
def indented (n : Nat) (cs : List Char) : List Char :=
  if cs = [] then [] else List.replicate (4 * n) ' ' ++ cs

theorem toList_lineAt (n : Nat) (text : String) :
    (Writer.lineAt n text).toList = unlines [indented n text.toList] := by
  by_cases h : text = ""
  · simp [Writer.lineAt, indented, unlines, h]
  · simp [Writer.lineAt, indented, unlines, h]

theorem marginOf_replicate {cs : List Char} (hfront : ∀ c ∈ cs.head?, c ≠ ' ') (k : Nat) :
    marginOf (List.replicate k ' ' ++ cs) = k ∧
      isCloser (List.replicate k ' ' ++ cs) = (cs == ['}']) := by
  unfold marginOf isCloser
  induction k with
  | zero =>
    cases cs with
    | nil => exact ⟨rfl, rfl⟩
    | cons c cs =>
      have hc : (c == ' ') = false := by simpa using hfront c rfl
      simp [hc]
  | succ k ih =>
    simp only [List.replicate_succ, List.cons_append, List.takeWhile_cons, List.dropWhile_cons,
      beq_self_eq_true, if_true, List.length_cons, ih.1, ih.2, and_self]

/-- A text in its margin fits the depth `d`, if the margin has the levels that the text calls for. -/
theorem lineFits_indented {cs : List Char} {n d e : Nat} (hdepth : depthAfter d cs = some e)
    (hunbroken : '\n' ∉ cs) (hfront : ∀ c ∈ cs.head?, c ≠ ' ')
    (hback : ∀ c ∈ cs.getLast?, Text.isBlank c = false)
    (hn : n = if cs == ['}'] then d - 1 else d) : LineFits d (indented n cs) e := by
  unfold indented
  split
  · next hempty =>
    subst hempty
    exact ⟨hdepth, by simp, fun h => absurd rfl h, by simp⟩
  · next hne =>
    obtain ⟨hmargin, hcloser⟩ := marginOf_replicate hfront (4 * n)
    refine ⟨?_, ?_, fun _ => ?_, ?_⟩
    · refine depthAfter_append_of (depthAfter_of_no_brace ?_ d) hdepth
      intro c hc
      rw [List.eq_of_mem_replicate hc]
      decide
    · simp [hunbroken]
    · rw [hmargin, hcloser, hn]
    · intro c hc
      apply hback
      rwa [List.getLast?_append, Option.or_of_isSome (by simpa using hne)] at hc

theorem Tidy.lineFits {s : String} (h : Tidy s) (d : Nat) :
    LineFits d (indented d s.toList) d := by
  apply lineFits_indented (h.balanced.depthAfter d) h.unbroken h.front h.back
  -- a closing brace by itself is no balanced text
  have hcloser : s.toList ≠ ['}'] := by
    intro heq
    have := h.balanced
    rw [Balanced, heq] at this
    cases this
  simp [hcloser]

theorem isBlank_brace : Text.isBlank '{' = false ∧ Text.isBlank '}' = false := by
  decide

theorem lineFits_open (d : Nat) : LineFits d (indented d ['{']) (d + 1) :=
  lineFits_indented (depthAfter_open d) (by decide) (by simp) (by simp [isBlank_brace]) rfl

theorem lineFits_close (d : Nat) : LineFits (d + 1) (indented d ['}']) d :=
  lineFits_indented (depthAfter_close d) (by decide) (by simp) (by simp [isBlank_brace]) rfl

/-! ## Steps keep the layout -/

/-- Text that continues lines that are laid out up to depth `d`, and leaves them laid out up to
depth `e`. -/
def Continues (d : Nat) (x : String) (e : Nat) : Prop :=
  ∀ ls, Laid ls d → ∃ more, x.toList = unlines more ∧ Laid (ls ++ more) e

theorem Continues.refl (d : Nat) : Continues d "" d :=
  fun ls hls => ⟨[], rfl, by simpa using hls⟩

theorem Continues.append {d e k : Nat} {x y : String} (hx : Continues d x e)
    (hy : Continues e y k) : Continues d (x ++ y) k := by
  intro ls hls
  obtain ⟨first, hfirst, hlaid⟩ := hx ls hls
  obtain ⟨second, hsecond, hlaid'⟩ := hy (ls ++ first) hlaid
  refine ⟨first ++ second, ?_, ?_⟩
  · rw [String.toList_append, unlines_append, hfirst, hsecond]
  · rwa [List.append_assoc] at hlaid'

theorem continues_lineAt {n d e : Nat} {text : String}
    (h : LineFits d (indented n text.toList) e) : Continues d (Writer.lineAt n text) e :=
  fun _ hls => ⟨[indented n text.toList], toList_lineAt n text, hls.snoc h⟩

theorem continues_closing (n : Nat) : Continues n (Writer.closing n) 0 := by
  induction n with
  | zero => exact .refl 0
  | succ n ih =>
    rw [Writer.closing_succ]
    exact (continues_lineAt (lineFits_close n)).append ih

/-- **One step with tidy texts** continues the layout, at the depth that the step leads to. -/
theorem continues_added (n : Nat) (s : Writer.Step) (h : ∀ t ∈ s.texts, Tidy t) :
    Continues n (Writer.added n s) (Writer.openAfter n s) := by
  have hopen : Continues n (Writer.lineAt n "\x7b") (n + 1) := continues_lineAt (lineFits_open n)
  cases s with
  | line text => exact continues_lineAt ((h text (by simp [Writer.Step.texts])).lineFits n)
  | openScope header =>
    have hheader : Tidy header := h header (by simp [Writer.Step.texts])
    exact (continues_lineAt (hheader.lineFits n)).append hopen
  | scope => exact hopen
  | endScope =>
    cases n with
    | zero => exact .refl 0
    | succ n =>
      have hclose : Writer.added (n + 1) .endScope = Writer.lineAt n "\x7d" := rfl
      rw [hclose]
      exact continues_lineAt (lineFits_close n)
  | closeAll => exact continues_closing n

/-- **A run of steps with tidy texts** continues the layout. -/
theorem continues_addedBy (n : Nat) (steps : List Writer.Step)
    (h : ∀ t ∈ steps.flatMap Writer.Step.texts, Tidy t) :
    Continues n (Writer.addedBy n steps) (steps.foldl Writer.openAfter n) := by
  induction steps generalizing n with
  | nil => exact .refl n
  | cons s rest ih =>
    simp only [List.flatMap_cons, List.mem_append] at h
    exact (continues_added n s fun t ht => h t (.inl ht)).append
      (ih (Writer.openAfter n s) fun t ht => h t (.inr ht))

/-- **What steps with tidy texts build is well-formed.** -/
theorem wellFormed_build (steps : List Writer.Step)
    (h : ∀ t ∈ steps.flatMap Writer.Step.texts, Tidy t) :
    WellFormed (({} : Writer).run steps).build := by
  rw [Writer.run_empty, Writer.build_atDepth]
  have hall : Continues 0 (Writer.addedBy 0 steps ++ Writer.closing (Writer.openScopes steps)) 0 :=
    (continues_addedBy 0 steps h).append (continues_closing _)
  obtain ⟨ls, htext, hlaid⟩ := hall [] .nil
  exact Laid.wellFormed (by simpa using hlaid) htext

end ValueObject.Source
