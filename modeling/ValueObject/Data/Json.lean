/-
# ValueObject.Data.Json -- JSON texts

Reads a JSON text into a datum and writes a datum as JSON. The reader is strict: blanks are space,
tab and the two line breaks; nothing may follow the value; a control character inside a text is
refused. Half of a surrogate pair and a number out of range have proper form, but no value holds
them; a table with such a key cannot be held as a whole.

A whole number that does not fit into 64 bits is kept as a literal, as is a negative zero: neither
is a number that a record of this library can hold.
-/

import ValueObject.Data.Datum
import ValueObject.Data.Numeral

namespace ValueObject.Data.Json

/-! ## Reading -/

/-- A blank between tokens. -/
def isSpace (c : Char) : Bool :=
  c == ' ' || c == '\t' || c == '\n' || c == '\r'

/-- Without leading blanks. -/
def skipSpace (cs : List Char) : List Char :=
  cs.dropWhile isSpace

/-- Four hexadecimal digits, and what follows them. -/
def readHex4 : List Char → Option (Nat × List Char)
  | a :: b :: c :: d :: rest =>
    if [a, b, c, d].all isHexDigit then some (digitsValue 16 [a, b, c, d], rest) else none
  | _ => none

/-- A code unit that opens a surrogate pair. -/
def isHighSurrogate (n : Nat) : Bool :=
  decide (0xD800 ≤ n) && decide (n < 0xDC00)

/-- A code unit that ends a surrogate pair. -/
def isLowSurrogate (n : Nat) : Bool :=
  decide (0xDC00 ≤ n) && decide (n < 0xE000)

/-- The second half of a surrogate pair, if an escape with one comes next, and what follows. -/
def readLowSurrogate : List Char → Option (Nat × List Char)
  | '\\' :: 'u' :: rest => (readHex4 rest).filter fun r => isLowSurrogate r.1
  | _ => none

/-- The character of a `\u` escape, whose digits come next, unless it is half of a surrogate pair;
and what follows it. A whole pair takes a second escape. -/
def readUnicode (cs : List Char) : Option (Option Char × List Char) :=
  match readHex4 cs with
  | none => none
  | some (code, rest) =>
    if isHighSurrogate code then
      match readLowSurrogate rest with
      | some (low, rest) =>
        some (some (Char.ofNat (0x10000 + (code - 0xD800) * 0x400 + (low - 0xDC00))), rest)
      | none => some (none, rest)
    else if isLowSurrogate code then some (none, rest)
    else some (some (Char.ofNat code), rest)

/-- The character of an escape, after the backslash, unless it is half of a surrogate pair; and
what follows it. -/
def readEscape : List Char → Option (Option Char × List Char)
  | '"' :: rest => some (some '"', rest)
  | '\\' :: rest => some (some '\\', rest)
  | '/' :: rest => some (some '/', rest)
  | 'b' :: rest => some (some (Char.ofNat 8), rest)
  | 'f' :: rest => some (some (Char.ofNat 12), rest)
  | 'n' :: rest => some (some '\n', rest)
  | 'r' :: rest => some (some '\r', rest)
  | 't' :: rest => some (some '\t', rest)
  | 'u' :: rest => readUnicode rest
  | _ => none

/-- A text after its opening quote, and what follows the closing one. `done` holds the characters
so far, the last one first, unless half of a surrogate pair was among them. -/
def readText : Nat → Option (List Char) → List Char → Option (Option String × List Char)
  | 0, _, _ => none
  | _ + 1, _, [] => none
  | fuel + 1, done, c :: rest =>
    if c = '"' then some (done.map fun cs => String.ofList cs.reverse, rest)
    else if c = '\\' then
      match readEscape rest with
      | some (e, rest) => readText fuel (e.bind fun e => done.map (e :: ·)) rest
      | none => none
    else if c.toNat < 0x20 then none
    else readText fuel (done.map (c :: ·)) rest

/-- Digits, at least one. -/
def readDigits (cs : List Char) : Option (List Char × List Char) :=
  match cs.takeWhile Char.isDigit with
  | [] => none
  | digits => some (digits, cs.dropWhile Char.isDigit)

/-- The whole digits of a number: a zero stands alone. -/
def readWhole : List Char → Option (List Char × List Char)
  | '0' :: rest => some (['0'], rest)
  | cs => readDigits cs

/-- A fraction, if there is one. -/
def readFraction : List Char → Option (Option (List Char) × List Char)
  | '.' :: rest => (readDigits rest).map fun (digits, rest) => (some digits, rest)
  | cs => some (none, cs)

/-- An exponent, if there is one, with its sign. -/
def readExponent : List Char → Option (Option (Bool × List Char) × List Char)
  | c :: rest =>
    if c = 'e' ∨ c = 'E' then
      let (negative, rest) := match rest with
        | '-' :: rest => (true, rest)
        | '+' :: rest => (false, rest)
        | rest => (false, rest)
      (readDigits rest).map fun (digits, rest) => (some (negative, digits), rest)
    else some (none, c :: rest)
  | [] => some (none, [])

/-- A number, and what follows it. -/
def readNumeral (cs : List Char) : Option (Numeral × List Char) := do
  let (negative, cs) := match cs with
    | '-' :: rest => (true, rest)
    | cs => (false, cs)
  let (whole, cs) ← readWhole cs
  let (fraction, cs) ← readFraction cs
  let (exponent, cs) ← readExponent cs
  some ({ negative, whole, fraction, exponent }, cs)

/-- The datum of a number. -/
def ofNumeral (n : Numeral) : Datum :=
  if n.isWhole && Datum.fitsWord n.wholeValue && !(n.negative && n.wholeValue == 0) then
    .integer n.wholeValue
  else if n.productExceedsDouble then .unheld
  else .decimal n.literal

mutual

/-- A value, and what follows it. -/
def readValue : Nat → List Char → Option (Datum × List Char)
  | 0, _ => none
  | fuel + 1, cs =>
    match skipSpace cs with
    | 'n' :: 'u' :: 'l' :: 'l' :: rest => some (.null, rest)
    | 't' :: 'r' :: 'u' :: 'e' :: rest => some (.bool true, rest)
    | 'f' :: 'a' :: 'l' :: 's' :: 'e' :: rest => some (.bool false, rest)
    | '"' :: rest =>
      (readText (rest.length + 1) (some []) rest).map fun (s, rest) => (s.elim .unheld .text, rest)
    | '[' :: rest =>
      match skipSpace rest with
      | ']' :: rest => some (.list [], rest)
      | rest => readItems fuel [] rest
    | '\x7b' :: rest =>
      match skipSpace rest with
      | '\x7d' :: rest => some (.table [], rest)
      | rest => readEntries fuel (some []) rest
    | cs => (readNumeral cs).map fun (n, rest) => (ofNumeral n, rest)

/-- The items of a list that has some, up to its end. -/
def readItems : Nat → List Datum → List Char → Option (Datum × List Char)
  | 0, _, _ => none
  | fuel + 1, done, cs =>
    match readValue fuel cs with
    | none => none
    | some (d, rest) =>
      match skipSpace rest with
      | ',' :: rest => readItems fuel (d :: done) rest
      | ']' :: rest => some (.list (d :: done).reverse, rest)
      | _ => none

/-- The entries of a table that has some, up to its end. `done` holds the entries so far, the last
one first, unless the key of one cannot be held. -/
def readEntries : Nat → Option (List (String × Datum)) → List Char → Option (Datum × List Char)
  | 0, _, _ => none
  | fuel + 1, done, cs =>
    match skipSpace cs with
    | '"' :: rest =>
      match readText (rest.length + 1) (some []) rest with
      | none => none
      | some (key, rest) =>
        match skipSpace rest with
        | ':' :: rest =>
          match readValue fuel rest with
          | none => none
          | some (d, rest) =>
            let done := key.bind fun key => done.map ((key, d) :: ·)
            match skipSpace rest with
            | ',' :: rest => readEntries fuel done rest
            | '\x7d' :: rest => some (done.elim .unheld fun es => .table es.reverse, rest)
            | _ => none
        | _ => none
    | _ => none

end

/-- **Reads a text** that holds one value and blanks around it. Each level of nesting takes two
steps at most, each of them for a character, so twice the length of the text is steps enough. -/
def read (s : String) : Option Datum :=
  let cs := s.toList
  match readValue (2 * cs.length + 2) cs with
  | some (d, rest) => if (skipSpace rest).isEmpty then some d else none
  | none => none

/-! ## Writing -/

/-- A hexadecimal digit. -/
def hexDigit (n : Nat) : Char :=
  Nat.digitChar (n % 16)

/-- One character inside a text. -/
def escapeChar (c : Char) : List Char :=
  if c = '"' then ['\\', '"']
  else if c = '\\' then ['\\', '\\']
  else if c = '\n' then ['\\', 'n']
  else if c = '\r' then ['\\', 'r']
  else if c = '\t' then ['\\', 't']
  else if c.toNat = 8 then ['\\', 'b']
  else if c.toNat = 12 then ['\\', 'f']
  else if c.toNat < 0x20 then ['\\', 'u', '0', '0', hexDigit (c.toNat / 16), hexDigit c.toNat]
  else [c]

/-- A text between quotes. -/
def quote (s : String) : String :=
  "\"" ++ String.ofList (s.toList.flatMap escapeChar) ++ "\""

mutual

/-- **Writes a datum** without blanks. -/
def write : Datum → String
  | .null | .unheld => "null"
  | .bool b => if b then "true" else "false"
  | .integer n => toString n
  | .decimal literal => literal
  | .moment literal => quote literal
  | .text s => quote s
  | .list items => "[" ++ ",".intercalate (writeItems items) ++ "]"
  | .table entries => "\x7b" ++ ",".intercalate (writeEntries entries) ++ "\x7d"

/-- Writes each item. -/
def writeItems : List Datum → List String
  | [] => []
  | d :: rest => write d :: writeItems rest

/-- Writes each entry. -/
def writeEntries : List (String × Datum) → List String
  | [] => []
  | (key, d) :: rest => (quote key ++ ":" ++ write d) :: writeEntries rest

end

end ValueObject.Data.Json
