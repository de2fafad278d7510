/-
# ValueObject.Source.Writer -- writing indented text with brace scopes

A **writer** keeps the text written so far, the indentation of the next line, and the closing
lines that are still owed, innermost first. A scope is opened by a line with an opening brace, is
indented by one step, and owes a closing brace. Closing with nothing open does nothing.

What is built from a writer is its text with every owed line written, innermost first, so built
text closes each scope that it opens.
-/

namespace ValueObject.Source

/-- Text being written. -/
structure Writer where
  text : String := ""
  indent : Nat := 0
  closers : List String := []
  deriving DecidableEq, Repr

namespace Writer

/-- One step of indentation is four spaces. -/
def margin (indent : Nat) : String :=
  String.ofList (List.replicate (4 * indent) ' ')

/-- What one line adds to a text. An empty line carries no spaces. -/
def lineText (indent : Nat) (line : String) : String :=
  (if line.isEmpty then "" else margin indent ++ line) ++ "\n"

/-- Writes one line. -/
def line (w : Writer) (text : String) : Writer :=
  { w with text := w.text ++ lineText w.indent text }

/-- Opens a scope. -/
def scope (w : Writer) : Writer :=
  let w := w.line "\x7b"
  { w with indent := w.indent + 1, closers := "\x7d" :: w.closers }

/-- Writes a line and opens a scope under it. -/
def openScope (w : Writer) (header : String) : Writer :=
  (w.line header).scope

/-- Closes the innermost scope; with nothing open, does nothing. -/
def endScope (w : Writer) : Writer :=
  match w.closers with
  | [] => w
  | closer :: rest => { w with indent := w.indent - 1, closers := rest }.line closer

/-- The number of open scopes. -/
def depth (w : Writer) : Nat :=
  w.closers.length

/-- Closes every scope, innermost first. -/
def closeAll (w : Writer) : Writer :=
  Nat.repeat endScope w.depth w

/-- **The text with every scope closed.** -/
def build (w : Writer) : String :=
  w.closeAll.text

/-! ## Steps -/

/-- One step of a writer. -/
inductive Step where
  | line (text : String)
  | openScope (header : String)
  | scope
  | endScope
  | closeAll
  deriving DecidableEq, Repr

/-- Takes one step. -/
def step (w : Writer) : Step → Writer
  | .line text => w.line text
  | .openScope header => w.openScope header
  | .scope => w.scope
  | .endScope => w.endScope
  | .closeAll => w.closeAll

/-- Takes steps in order. -/
def run (w : Writer) (steps : List Step) : Writer :=
  steps.foldl step w

end Writer

end ValueObject.Source
