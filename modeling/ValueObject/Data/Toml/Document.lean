/-
# ValueObject.Data.Toml.Document -- TOML texts

Reads a TOML text into a datum, which is a table. A text is a list of statements, one to a line:
the header of a table, the header of one more table of a list, or a key with its value.
-/

import ValueObject.Data.Toml.Scalar
import ValueObject.Data.Toml.Tree

namespace ValueObject.Data.Toml

/-! ## Keys -/

/-- A character of a key without quotes. -/
def isBareKeyChar (c : Char) : Bool :=
  c.isAlphanum || c == '_' || c == '-'

/-- One part of a key, and what follows it. -/
def readKeyPart (cs : List Char) : Option (String × List Char) :=
  match cs with
  | '"' :: rest => readLineText '"' true (cs.length + 1) [] rest
  | '\'' :: rest => readLineText '\'' false (cs.length + 1) [] rest
  | cs =>
    match cs.takeWhile isBareKeyChar with
    | [] => none
    | part => some (String.ofList part, cs.dropWhile isBareKeyChar)

/-- Parts of a key with dots between them, and what follows them. -/
def readKeyParts : Nat → List Char → Option (List String × List Char)
  | 0, _ => none
  | fuel + 1, cs =>
    match readKeyPart (skipSpace cs) with
    | none => none
    | some (part, rest) =>
      match skipSpace rest with
      | '.' :: rest => (readKeyParts fuel rest).map fun (parts, rest) => (part :: parts, rest)
      | rest => some ([part], rest)

/-- A key has this many parts at most, and lists and inline tables lie inside one another this deep
at most. -/
def nestingLimit : Nat := 80

/-- A key, and what follows it. -/
def readKey (cs : List Char) : Option (List String × List Char) :=
  (readKeyParts (cs.length + 1) cs).filter fun r => decide (r.1.length ≤ nestingLimit)

/-- A key and the sign `=` after it, and what follows. -/
def readKeyAndSign (cs : List Char) : Option (List String × List Char) :=
  match readKey cs with
  | some (key, '=' :: rest) => some (key, skipSpace rest)
  | _ => none

/-! ## Values -/

/-- What follows blanks, line breaks and comments inside brackets. -/
def afterGap (cs : List Char) : Option (List Char) :=
  afterFiller (cs.length + 1) cs

/-- A key and the sign `=` after it inside braces, where lines may end on either side of the sign,
and what follows. -/
def readInlineKey (cs : List Char) : Option (List String × List Char) := do
  let (key, rest) ← readKey cs
  let rest ← afterGap rest
  let rest ← afterChar '=' rest
  let rest ← afterGap rest
  some (key, rest)

mutual

/-- A value, and what follows it. `depth` lists and inline tables lie around it. -/
def readValue : Nat → Nat → List Char → Option (Datum × List Char)
  | 0, _, _ => none
  | fuel + 1, depth, cs =>
    match cs with
    | '"' :: _ | '\'' :: _ => (readQuoted cs).map fun (s, rest) => (.text s, rest)
    | '[' :: rest =>
      if depth < nestingLimit then readItems fuel (depth + 1) [] rest else none
    | '\x7b' :: rest =>
      if depth < nestingLimit then readPairs fuel (depth + 1) [] rest else none
    | cs => readScalarWord cs

/-- The items of a list, up to its end. A comma may stand after the last. -/
def readItems : Nat → Nat → List Datum → List Char → Option (Datum × List Char)
  | 0, _, _, _ => none
  | fuel + 1, depth, done, cs =>
    match afterGap cs with
    | none => none
    | some (']' :: rest) => some (.list done.reverse, rest)
    | some cs =>
      match readValue fuel depth cs with
      | none => none
      | some (d, rest) =>
        match afterGap rest with
        | some (',' :: rest) => readItems fuel depth (d :: done) rest
        | some (']' :: rest) => some (.list (d :: done).reverse, rest)
        | _ => none

/-- The pairs of an inline table, up to its end. A comma may stand after the last. -/
def readPairs : Nat → Nat → Entries → List Char → Option (Datum × List Char)
  | 0, _, _, _ => none
  | fuel + 1, depth, done, cs =>
    match afterGap cs with
    | none => none
    | some ('\x7d' :: rest) => some (.table (entriesToData done), rest)
    | some cs =>
      match readInlineKey cs with
      | none => none
      | some (key, rest) =>
        match readValue fuel depth rest with
        | none => none
        | some (d, rest) =>
          match define true key d done with
          | none => none
          | some done =>
            match afterGap rest with
            | some (',' :: rest) => readPairs fuel depth done rest
            | some ('\x7d' :: rest) => some (.table (entriesToData done), rest)
            | _ => none

end

/-! ## Statements -/

/-- What a text has stated so far, and the header of the open table. -/
structure State where
  header : List String := []
  entries : Entries := []

/-- The key between the brackets of a header, and what follows the closing ones. -/
def readHeader (closing : List Char) (cs : List Char) : Option (List String × List Char) :=
  match readKey cs with
  | none => none
  | some (key, rest) =>
    if closing.isPrefixOf rest then some (key, rest.drop closing.length) else none

/-- One statement, and what follows it. -/
def readStatement (s : State) (cs : List Char) : Option (State × List Char) :=
  match cs with
  | '[' :: '[' :: rest =>
    match readHeader [']', ']'] rest with
    | none => none
    | some (key, rest) =>
      (openItem key s.entries).map fun entries => ({ header := key, entries }, rest)
  | '[' :: rest =>
    match readHeader [']'] rest with
    | none => none
    | some (key, rest) =>
      (openTable key s.entries).map fun entries => ({ header := key, entries }, rest)
  | cs =>
    match readKeyAndSign cs with
    | none => none
    | some (key, rest) =>
      match readValue (2 * rest.length + 2) 0 rest with
      | none => none
      | some (d, rest) =>
        (defineUnder s.header key d s.entries).map fun entries => ({ s with entries }, rest)

/-- The statements of a text, one to a line. -/
def readStatements : Nat → State → List Char → Option State
  | 0, _, _ => none
  | fuel + 1, s, cs =>
    match afterGap cs with
    | none => none
    | some [] => some s
    | some cs =>
      match readStatement s cs with
      | none => none
      | some (s, rest) =>
        match afterLine rest with
        | none => none
        | some rest => readStatements fuel s rest

/-- Without a byte order mark in front. -/
def afterMark : List Char → List Char
  | c :: rest => if c.toNat = 0xFEFF then rest else c :: rest
  | [] => []

/-- **Reads a text.** Each statement takes a character at least, so the length of the text is
statements enough. -/
def read (s : String) : Option Datum :=
  let cs := afterMark s.toList
  (readStatements (cs.length + 1) {} cs).map fun s => .table (entriesToData s.entries)

end ValueObject.Data.Toml
