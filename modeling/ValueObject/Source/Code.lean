/-
# ValueObject.Source.Code -- code as lines and blocks

Generated code is a list of **pieces**: a line, or a header with a block of pieces under it. The
braces of a block are not written by hand anywhere; `write` hands a piece to a writer, which opens
and closes the scope.
-/

import ValueObject.Source.Writer

namespace ValueObject.Source

/-- A piece of code. -/
inductive Code where
  | line (text : String)
  | block (header : String) (body : List Code)

namespace Code

mutual

/-- Writes one piece. -/
def write : Code → Writer → Writer
  | line text, w => w.line text
  | block header body, w => (writeAll body (w.openScope header)).endScope

/-- Writes pieces in order. -/
def writeAll : List Code → Writer → Writer
  | [], w => w
  | c :: rest, w => writeAll rest (c.write w)

end

/-- **The text of a unit.** -/
def unitText (unit : List Code) : String :=
  (writeAll unit {}).build

/-- An opening brace inside a line. -/
def lbrace : String := "\x7b"

/-- A closing brace inside a line. -/
def rbrace : String := "\x7d"

/-- A text between braces inside a line. -/
def braced (s : String) : String :=
  lbrace ++ s ++ rbrace

end Code

end ValueObject.Source
