/-
# ValueObject.Proofs.Source.WriterRun -- what a writer has written after any steps

A writer keeps two counters: the indentation of the next line, and the closing lines that it still
owes. Every writer that is reached from the empty one by steps stands **at a depth** `n`: it is
indented by `n` and owes `n` closing braces (`atDepth`). The module says once what a step makes of
such a writer (`step_atDepth`): which text it adds, and at which depth it leaves off. What a whole
run has written, and what is built from it, follows by induction on the steps.

`openScopes` counts the scopes by itself, without looking at a writer; that a writer agrees with it
is a statement and not a definition.
-/

import ValueObject.Proofs.Source.BraceDepth

namespace ValueObject.Source.Writer

/-! ## What steps should write -/

/-- A line at a depth: four spaces for each level in front of a text, and a bare line break for the
empty text. -/
def lineAt (n : Nat) (text : String) : String :=
  if text = "" then "\n" else String.ofList (List.replicate (4 * n) ' ') ++ text ++ "\n"

/-- The closing lines of `n` scopes, innermost first: indented by `n - 1` levels, ..., 1 and 0. -/
def closing (n : Nat) : String :=
  String.join ((List.range n).reverse.map fun k => lineAt k "\x7d")

/-- The number of open scopes after one more step. -/
def openAfter (n : Nat) : Step → Nat
  | .line _ => n
  | .openScope _ | .scope => n + 1
  | .endScope => n - 1
  | .closeAll => 0

/-- **The scopes that steps have opened and not yet closed.** -/
def openScopes (steps : List Step) : Nat :=
  steps.foldl openAfter 0

/-- The text that a step adds when `n` scopes are open. -/
def added (n : Nat) : Step → String
  | .line text => lineAt n text
  | .openScope header => lineAt n header ++ lineAt n "\x7b"
  | .scope => lineAt n "\x7b"
  | .endScope => if n = 0 then "" else lineAt (n - 1) "\x7d"
  | .closeAll => closing n

/-- The text that steps add when `n` scopes are open. -/
def addedBy (n : Nat) : List Step → String
  | [] => ""
  | s :: rest => added n s ++ addedBy (openAfter n s) rest

/-- The texts that a step is given to write. -/
def Step.texts : Step → List String
  | .line text => [text]
  | .openScope header => [header]
  | .scope | .endScope | .closeAll => []

theorem lineText_eq_lineAt (n : Nat) (text : String) : lineText n text = lineAt n text := by
  unfold lineText lineAt margin
  by_cases h : text = ""
  · simp [h]
  · simp [h]

theorem closing_zero : closing 0 = "" := rfl

theorem closing_succ (n : Nat) : closing (n + 1) = lineAt n "\x7d" ++ closing n := by
  unfold closing
  rw [List.range_succ, List.reverse_append, List.reverse_singleton, List.map_append,
    List.map_singleton, List.singleton_append, String.join_cons]

/-! ## Writers at a depth -/

/-- A writer with `n` open scopes, which has written `text`. -/
def atDepth (n : Nat) (text : String) : Writer where
  text := text
  indent := n
  closers := List.replicate n "\x7d"

theorem empty_eq_atDepth : ({} : Writer) = atDepth 0 "" := rfl

@[simp]
theorem text_atDepth (n : Nat) (x : String) : (atDepth n x).text = x := rfl

@[simp]
theorem indent_atDepth (n : Nat) (x : String) : (atDepth n x).indent = n := rfl

@[simp]
theorem depth_atDepth (n : Nat) (x : String) : (atDepth n x).depth = n := by
  simp [depth, atDepth]

theorem line_atDepth (n : Nat) (x text : String) :
    (atDepth n x).line text = atDepth n (x ++ lineAt n text) := by
  simp only [line, atDepth, lineText_eq_lineAt]

theorem scope_atDepth (n : Nat) (x : String) :
    (atDepth n x).scope = atDepth (n + 1) (x ++ lineAt n "\x7b") := by
  rw [scope, line_atDepth]
  rfl

theorem openScope_atDepth (n : Nat) (x header : String) :
    (atDepth n x).openScope header = atDepth (n + 1) (x ++ lineAt n header ++ lineAt n "\x7b") := by
  rw [openScope, line_atDepth, scope_atDepth]

theorem endScope_atDepth_zero (x : String) : (atDepth 0 x).endScope = atDepth 0 x := rfl

theorem endScope_atDepth_succ (n : Nat) (x : String) :
    (atDepth (n + 1) x).endScope = atDepth n (x ++ lineAt n "\x7d") := by
  have hclosed : (atDepth (n + 1) x).endScope = (atDepth n x).line "\x7d" := rfl
  rw [hclosed, line_atDepth]

theorem repeat_succ {α : Type} (f : α → α) (n : Nat) (a : α) :
    Nat.repeat f (n + 1) a = Nat.repeat f n (f a) := by
  induction n with
  | zero => rfl
  | succ n ih => exact congrArg f ih

/-- Closing everything writes the closing lines, innermost first, and leaves no scope open. -/
theorem closeAll_atDepth (n : Nat) (x : String) :
    (atDepth n x).closeAll = atDepth 0 (x ++ closing n) := by
  unfold closeAll
  rw [depth_atDepth]
  -- each closing adds to the text, so the induction is over every text
  induction n generalizing x with
  | zero => simp [Nat.repeat, closing_zero]
  | succ n ih =>
    rw [repeat_succ, endScope_atDepth_succ, ih, closing_succ, String.append_assoc]

/-- **One step**: it only adds to the text, and the depth follows the scopes. -/
theorem step_atDepth (n : Nat) (x : String) (s : Step) :
    (atDepth n x).step s = atDepth (openAfter n s) (x ++ added n s) := by
  cases s with
  | line text => exact line_atDepth n x text
  | openScope header =>
    rw [step, openScope_atDepth, String.append_assoc]
    rfl
  | scope => exact scope_atDepth n x
  | endScope =>
    cases n with
    | zero => simp [step, endScope_atDepth_zero, openAfter, added]
    | succ n => exact endScope_atDepth_succ n x
  | closeAll => exact closeAll_atDepth n x

/-- **A run of steps** is at the depth that the steps amount to. -/
theorem run_atDepth (n : Nat) (x : String) (steps : List Step) :
    (atDepth n x).run steps = atDepth (steps.foldl openAfter n) (x ++ addedBy n steps) := by
  induction steps generalizing n x with
  | nil => simp [run, addedBy]
  | cons s rest ih =>
    have htail : (atDepth n x).run (s :: rest) = ((atDepth n x).step s).run rest := rfl
    rw [htail, step_atDepth, ih, String.append_assoc]
    rfl

/-- Every writer that steps reach from the empty one. -/
theorem run_empty (steps : List Step) :
    ({} : Writer).run steps = atDepth (openScopes steps) (addedBy 0 steps) := by
  rw [empty_eq_atDepth, run_atDepth]
  simp [openScopes]

theorem build_atDepth (n : Nat) (x : String) : (atDepth n x).build = x ++ closing n := by
  rw [build, closeAll_atDepth, text_atDepth]

/-! ## Braces in what steps write -/

/-- Margin and line break hold no brace, so a line is read like its text. -/
theorem depthAfter_lineAt (d n : Nat) (text : String) :
    depthAfter d (lineAt n text).toList = depthAfter d text.toList := by
  have hbreak : ∀ e, depthAfter e ['\n'] = some e := fun _ => rfl
  have hmargin : depthAfter d (List.replicate (4 * n) ' ') = some d := by
    apply depthAfter_of_no_brace
    intro c hc
    rw [List.eq_of_mem_replicate hc]
    decide
  -- an empty text gets no margin
  by_cases h : text = ""
  · subst h
    have hempty : (lineAt n "").toList = ['\n'] := by simp [lineAt]
    rw [hempty, hbreak]
    rfl
  · have hlist : (lineAt n text).toList =
        List.replicate (4 * n) ' ' ++ text.toList ++ ['\n'] := by simp [lineAt, h]
    rw [hlist, depthAfter_append, depthAfter_append, hmargin, Option.bind_some]
    cases hd : depthAfter d text.toList with
    | none => rfl
    | some e => exact hbreak e

theorem depthAfter_closing (n : Nat) : depthAfter n (closing n).toList = some 0 := by
  induction n with
  | zero => rfl
  | succ n ih =>
    rw [closing_succ, String.toList_append]
    refine depthAfter_append_of ?_ ih
    rw [depthAfter_lineAt]
    exact depthAfter_close n

/-- With balanced texts, what a step adds changes the brace depth as the step changes the number of
open scopes. -/
theorem depthAfter_added (n : Nat) (s : Step) (h : ∀ t ∈ s.texts, Balanced t) :
    depthAfter n (added n s).toList = some (openAfter n s) := by
  have hopen : depthAfter n (lineAt n "\x7b").toList = some (n + 1) := by
    rw [depthAfter_lineAt]
    exact depthAfter_open n
  cases s with
  | line text =>
    have htext : Balanced text := h text (by simp [Step.texts])
    simp only [added, depthAfter_lineAt]
    exact htext.depthAfter n
  | openScope header =>
    have hheader : Balanced header := h header (by simp [Step.texts])
    simp only [added, String.toList_append]
    refine depthAfter_append_of ?_ hopen
    rw [depthAfter_lineAt]
    exact hheader.depthAfter n
  | scope => exact hopen
  | endScope =>
    cases n with
    | zero => rfl
    | succ n =>
      have hclose : added (n + 1) .endScope = lineAt n "\x7d" := rfl
      rw [hclose, depthAfter_lineAt]
      exact depthAfter_close n
  | closeAll => exact depthAfter_closing n

theorem depthAfter_addedBy (n : Nat) (steps : List Step)
    (h : ∀ t ∈ steps.flatMap Step.texts, Balanced t) :
    depthAfter n (addedBy n steps).toList = some (steps.foldl openAfter n) := by
  induction steps generalizing n with
  | nil => rfl
  | cons s rest ih =>
    simp only [List.flatMap_cons, List.mem_append] at h
    rw [addedBy, String.toList_append, List.foldl_cons]
    refine depthAfter_append_of (depthAfter_added n s fun t ht => h t (.inl ht)) ?_
    exact ih (openAfter n s) fun t ht => h t (.inr ht)

/-! ## The laws of a run -/

/-- **What holds of every writer that steps reach from the empty one.** The indentation, the number
of closers that are owed and the depth are one number, the number of scopes that the steps have
opened and not closed; closing with nothing open changes nothing, and closing everything ends at
depth zero. A step only adds to the text, and a line adds the margin of the depth and its text, or
a bare line break. What is built is the text and one closing brace for each open scope, each four
spaces further out than the one before; it is balanced if each text given to the steps is. -/
theorem run_laws (steps : List Step) :
    let w := ({} : Writer).run steps
    w.indent = w.closers.length ∧ w.depth = w.indent ∧ w.depth = openScopes steps ∧
    (w.depth = 0 → w.endScope = w) ∧ w.closeAll.depth = 0 ∧
    (∀ s, (w.step s).text = w.text ++ added w.depth s) ∧
    (∀ t, (w.line t).text =
      w.text ++ (if t = "" then "\n" else
        String.ofList (List.replicate (4 * w.depth) ' ') ++ t ++ "\n")) ∧
    w.build = w.text ++ String.join ((List.range w.depth).reverse.map fun k =>
      String.ofList (List.replicate (4 * k) ' ') ++ "\x7d" ++ "\n") ∧
    ((∀ t ∈ steps.flatMap Step.texts, Balanced t) → Balanced w.build) := by
  intro w
  -- everything below is about a writer at a depth; how it got there matters for the depth only
  obtain ⟨n, hn⟩ : ∃ n, n = openScopes steps := ⟨_, rfl⟩
  have hw : w = atDepth n (addedBy 0 steps) := by
    rw [hn]
    exact run_empty steps
  rw [hw]
  simp only [depth_atDepth, indent_atDepth, text_atDepth]
  refine ⟨?_, trivial, hn, ?_, ?_, ?_, ?_, ?_, ?_⟩
  · simp [atDepth]
  · rintro rfl
    exact endScope_atDepth_zero _
  · rw [closeAll_atDepth, depth_atDepth]
  · intro s
    rw [step_atDepth, text_atDepth]
  · intro t
    rw [line_atDepth, text_atDepth]
    rfl
  · rw [build_atDepth]
    rfl
  · intro h
    have htext : depthAfter 0 (addedBy 0 steps).toList = some n := by
      rw [hn]
      exact depthAfter_addedBy 0 steps h
    rw [build_atDepth]
    show depthAfter 0 (addedBy 0 steps ++ closing n).toList = some 0
    rw [String.toList_append]
    exact depthAfter_append_of htext (depthAfter_closing n)

/-- Closing with nothing open, closing everything with two scopes open, going on after it, and a
text with braces of its own. -/
theorem run_laws_sample :
    let steps : List Step := [.endScope, .openScope "namespace A", .openScope "struct B",
      .line "int x \x7b get; \x7d", .line "", .closeAll, .scope, .line "y"]
    (∀ t ∈ steps.flatMap Step.texts, Balanced t) ∧ openScopes steps = 1 ∧
      Balanced (({} : Writer).run steps).build := by
  intro steps
  have htexts : ∀ t ∈ steps.flatMap Step.texts, Balanced t := by decide
  exact ⟨htexts, rfl, (run_laws steps).2.2.2.2.2.2.2.2 htexts⟩

end ValueObject.Source.Writer
