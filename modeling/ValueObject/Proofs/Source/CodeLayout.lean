/-
# ValueObject.Proofs.Source.CodeLayout -- the layout of written code

Writing code is a run of steps: a line is one step, and a block opens a scope, writes its body and
closes the scope again (`writeAll_eq_run`). A list of code therefore ends at the depth where it
began, the text of a unit is the text of its pieces one after the other (`unitText_append`), and it
is well-formed as soon as every line and every header in it is tidy (`wellFormed_unitText`).

What is left to show of any particular code is a question about its lines, and `AllTidy` takes the
code apart down to them.
-/

import ValueObject.Proofs.Source.Layout
import ValueObject.Source.Code

namespace ValueObject.Source.Code

open Writer

/-! ## Code as steps -/

mutual

/-- The steps that write one piece. -/
def steps : Code → List Step
  | line text => [.line text]
  | block header body => .openScope header :: (stepsAll body ++ [.endScope])

/-- The steps that write pieces in order. -/
def stepsAll : List Code → List Step
  | [] => []
  | c :: rest => c.steps ++ stepsAll rest

end

theorem run_append (w : Writer) (a b : List Step) : w.run (a ++ b) = (w.run a).run b := by
  simp only [run, List.foldl_append]

mutual

theorem write_eq_run : ∀ (c : Code) (w : Writer), c.write w = w.run c.steps
  | line text, w => by
    simp only [write, steps]
    rfl
  | block header body, w => by
    simp only [write, steps]
    rw [writeAll_eq_run body, ← List.singleton_append, run_append, run_append]
    rfl

/-- **Writing code is running its steps.** -/
theorem writeAll_eq_run : ∀ (cs : List Code) (w : Writer), writeAll cs w = w.run (stepsAll cs)
  | [], w => by
    simp only [writeAll, stepsAll]
    rfl
  | c :: rest, w => by
    simp only [writeAll, stepsAll]
    rw [writeAll_eq_run rest, write_eq_run c, run_append]

end

theorem stepsAll_append (a b : List Code) : stepsAll (a ++ b) = stepsAll a ++ stepsAll b := by
  induction a with
  | nil => simp [stepsAll]
  | cons c a ih => simp only [List.cons_append, stepsAll, ih, List.append_assoc]

mutual

theorem openAfter_steps : ∀ (c : Code) (n : Nat), c.steps.foldl openAfter n = n
  | line text, n => by
    simp only [steps]
    rfl
  | block header body, n => by
    simp only [steps, List.foldl_cons, List.foldl_append]
    rw [openAfter_stepsAll body]
    rfl

/-- Code leaves no scope open and closes none that it did not open. -/
theorem openAfter_stepsAll : ∀ (cs : List Code) (n : Nat), (stepsAll cs).foldl openAfter n = n
  | [], n => by
    simp only [stepsAll]
    rfl
  | c :: rest, n => by
    simp only [stepsAll, List.foldl_append]
    rw [openAfter_steps c, openAfter_stepsAll rest]

end

theorem addedBy_append (n : Nat) (a b : List Step) :
    addedBy n (a ++ b) = addedBy n a ++ addedBy (a.foldl openAfter n) b := by
  induction a generalizing n with
  | nil => simp [addedBy]
  | cons s a ih => simp only [List.cons_append, addedBy, ih, List.foldl_cons, String.append_assoc]

theorem unitText_eq_addedBy (cs : List Code) : unitText cs = addedBy 0 (stepsAll cs) := by
  have hdepth : openScopes (stepsAll cs) = 0 := openAfter_stepsAll cs 0
  rw [unitText, writeAll_eq_run, run_empty, build_atDepth, hdepth, closing_zero, String.append_empty]

/-- The text of a unit is the text of its pieces, one after the other. -/
theorem unitText_append (a b : List Code) : unitText (a ++ b) = unitText a ++ unitText b := by
  rw [unitText_eq_addedBy, unitText_eq_addedBy, unitText_eq_addedBy, stepsAll_append,
    addedBy_append, openAfter_stepsAll]

/-- A line of a unit that is in no block has no margin. -/
theorem unitText_line_cons (text : String) (rest : List Code) :
    unitText (line text :: rest) = text ++ "\n" ++ unitText rest := by
  have hline : unitText [line text] = text ++ "\n" := by
    rw [unitText_eq_addedBy]
    by_cases h : text = ""
    · simp [stepsAll, steps, addedBy, added, lineAt, h]
    · simp [stepsAll, steps, addedBy, added, lineAt, h]
  rw [← List.singleton_append, unitText_append, hline]

@[simp]
theorem unitText_nil : unitText [] = "" := by
  rw [unitText_eq_addedBy]
  rfl

/-! ## Tidy code -/

/-- Every line and every header of the code is tidy. -/
structure AllTidy (cs : List Code) : Prop where
  texts : ∀ t ∈ (stepsAll cs).flatMap Step.texts, Tidy t

theorem allTidy_iff {cs : List Code} :
    AllTidy cs ↔ ∀ t ∈ (stepsAll cs).flatMap Step.texts, Tidy t :=
  ⟨AllTidy.texts, AllTidy.mk⟩

@[simp]
theorem allTidy_nil : AllTidy [] := by
  simp [allTidy_iff, stepsAll]

@[simp]
theorem allTidy_append {a b : List Code} : AllTidy (a ++ b) ↔ AllTidy a ∧ AllTidy b := by
  simp only [allTidy_iff, stepsAll_append, List.flatMap_append, List.mem_append, or_imp, forall_and]

@[simp]
theorem allTidy_line_cons {text : String} {rest : List Code} :
    AllTidy (line text :: rest) ↔ Tidy text ∧ AllTidy rest := by
  simp [allTidy_iff, stepsAll, steps, Step.texts]

@[simp]
theorem allTidy_block_cons {header : String} {body rest : List Code} :
    AllTidy (block header body :: rest) ↔ Tidy header ∧ AllTidy body ∧ AllTidy rest := by
  simp only [allTidy_iff, stepsAll, steps, List.cons_append, List.append_assoc, List.flatMap_cons,
    List.flatMap_append, Step.texts, List.nil_append, List.mem_append, List.mem_cons, or_imp,
    forall_and, forall_eq]

/-- Code in front that is tidy by itself leaves the rest to ask for. -/
theorem allTidy_cons_of {c : Code} (h : AllTidy [c]) {rest : List Code} :
    AllTidy (c :: rest) ↔ AllTidy rest := by
  rw [← List.singleton_append, allTidy_append, and_iff_right h]

/-- Code that is put together from parts is tidy when each part is. -/
theorem allTidy_flatMap {α : Type} {xs : List α} {f : α → List Code}
    (h : ∀ x ∈ xs, AllTidy (f x)) : AllTidy (xs.flatMap f) := by
  induction xs with
  | nil => exact allTidy_nil
  | cons x xs ih =>
    rw [List.flatMap_cons, allTidy_append]
    exact ⟨h x (by simp), ih fun y hy => h y (by simp [hy])⟩

theorem allTidy_map_line {α : Type} {xs : List α} {f : α → String} (h : ∀ x ∈ xs, Tidy (f x)) :
    AllTidy (xs.map fun x => line (f x)) := by
  induction xs with
  | nil => exact allTidy_nil
  | cons x xs ih =>
    rw [List.map_cons, allTidy_line_cons]
    exact ⟨h x (by simp), ih fun y hy => h y (by simp [hy])⟩

/-- **Tidy code makes a well-formed text.** -/
theorem wellFormed_unitText {cs : List Code} (h : AllTidy cs) : WellFormed (unitText cs) := by
  rw [unitText, writeAll_eq_run]
  exact wellFormed_build (stepsAll cs) h.texts

end ValueObject.Source.Code
