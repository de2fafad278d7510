/-
# ValueObject.Data.Toml.Scalar -- texts, numbers and flags in TOML

Texts come in four kinds: between single or double quotes, on one line or on several. Between
double quotes a backslash escapes; on several lines a line break right after the opening quotes is
dropped, and a backslash at the end of a line drops every blank up to the next character.

Whatever is not quoted and not a bracket is a **word**: a flag, a number or a moment.
-/

import ValueObject.Data.Datum
import ValueObject.Data.Numeral
import ValueObject.Data.Toml.Moment

namespace ValueObject.Data.Toml

/-! ## Blanks, line breaks and comments -/

/-- A blank inside a line. -/
def isSpace (c : Char) : Bool :=
  c == ' ' || c == '\t'

/-- Without leading blanks. -/
def skipSpace (cs : List Char) : List Char :=
  cs.dropWhile isSpace

/-- A control character, which may stand nowhere but in an escape. A tab is none. -/
def isControl (c : Char) : Bool :=
  (decide (c.toNat < 0x20) && c != '\t') || c.toNat == 0x7F

/-- What follows a line break. -/
def afterBreak : List Char → Option (List Char)
  | '\n' :: rest => some rest
  | '\r' :: '\n' :: rest => some rest
  | _ => none

/-- What follows a comment, if there is one: the line break that ends it or nothing. -/
def afterComment : List Char → Option (List Char)
  | '#' :: rest =>
    let inside := rest.takeWhile fun c => c != '\n' && c != '\r'
    if inside.any isControl then none else some (rest.drop inside.length)
  | cs => some cs

/-- What follows blanks, a comment if there is one, and the end of the line. -/
def afterLine (cs : List Char) : Option (List Char) :=
  match afterComment (skipSpace cs) with
  | none => none
  | some [] => some []
  | some cs => afterBreak cs

/-- What follows blanks, line breaks and comments. -/
def afterFiller : Nat → List Char → Option (List Char)
  | 0, _ => none
  | fuel + 1, cs =>
    match afterComment (skipSpace cs) with
    | none => none
    | some cs =>
      match afterBreak cs with
      | some rest => afterFiller fuel rest
      | none => some cs

/-! ## Texts -/

/-- The character whose number `count` hexadecimal digits give. -/
def readCode (count : Nat) (cs : List Char) : Option (Char × List Char) :=
  let digits := cs.take count
  let n := digitsValue 16 digits
  if digits.length = count ∧ digits.all isHexDigit ∧ n.isValidChar then
    some (Char.ofNat n, cs.drop count)
  else none

/-- The character of an escape, after the backslash. -/
def readEscape : List Char → Option (Char × List Char)
  | 'b' :: rest => some (Char.ofNat 8, rest)
  | 'e' :: rest => some (Char.ofNat 0x1B, rest)
  | 't' :: rest => some ('\t', rest)
  | 'n' :: rest => some ('\n', rest)
  | 'f' :: rest => some (Char.ofNat 12, rest)
  | 'r' :: rest => some ('\r', rest)
  | '"' :: rest => some ('"', rest)
  | '\\' :: rest => some ('\\', rest)
  | 'x' :: rest => readCode 2 rest
  | 'u' :: rest => readCode 4 rest
  | 'U' :: rest => readCode 8 rest
  | _ => none

/-- A text on one line after its opening quote, and what follows the closing one. With `escapes`
a backslash escapes. -/
def readLineText (quote : Char) (escapes : Bool) :
    Nat → List Char → List Char → Option (String × List Char)
  | 0, _, _ => none
  | _ + 1, _, [] => none
  | fuel + 1, done, c :: rest =>
    if c = quote then some (String.ofList done.reverse, rest)
    else if escapes && c == '\\' then
      match readEscape rest with
      | some (e, rest) => readLineText quote escapes fuel (e :: done) rest
      | none => none
    else if isControl c then none
    else readLineText quote escapes fuel (c :: done) rest

/-- Without leading blanks and line breaks. -/
def skipLines : List Char → List Char
  | ' ' :: rest => skipLines rest
  | '\t' :: rest => skipLines rest
  | '\n' :: rest => skipLines rest
  | '\r' :: '\n' :: rest => skipLines rest
  | cs => cs

/-- What follows a backslash that ends a line: all blanks and line breaks are dropped. -/
def afterContinuation (cs : List Char) : Option (List Char) :=
  (afterBreak (skipSpace cs)).map skipLines

/-- A text on several lines after its opening quotes, and what follows the closing ones. Up to two
quotes before the closing three belong to the text. -/
def readBlockText (quote : Char) (escapes : Bool) :
    Nat → List Char → List Char → Option (String × List Char)
  | 0, _, _ => none
  | _ + 1, _, [] => none
  | fuel + 1, done, c :: rest =>
    if c = quote then
      let more := min ((rest.takeWhile (· == quote)).length) 4
      if more < 2 then readBlockText quote escapes fuel (c :: done) rest
      else
        some (String.ofList (List.replicate (more - 2) quote ++ done).reverse, rest.drop more)
    else if escapes && c == '\\' then
      match afterContinuation rest with
      | some rest => readBlockText quote escapes fuel done rest
      | none =>
        match readEscape rest with
        | some (e, rest) => readBlockText quote escapes fuel (e :: done) rest
        | none => none
    else if c = '\n' then readBlockText quote escapes fuel (c :: done) rest
    else if c = '\r' then
      match rest with
      | '\n' :: rest => readBlockText quote escapes fuel ('\n' :: '\r' :: done) rest
      | _ => none
    else if isControl c then none
    else readBlockText quote escapes fuel (c :: done) rest

/-- A quoted text of any kind, and what follows it; nothing if no quote comes first. -/
def readQuoted (cs : List Char) : Option (String × List Char) :=
  let fuel := cs.length + 1
  match cs with
  | '"' :: '"' :: '"' :: rest => readBlockText '"' true fuel [] ((afterBreak rest).getD rest)
  | '\'' :: '\'' :: '\'' :: rest =>
    readBlockText '\'' false fuel [] ((afterBreak rest).getD rest)
  | '"' :: rest => readLineText '"' true fuel [] rest
  | '\'' :: rest => readLineText '\'' false fuel [] rest
  | _ => none

/-! ## Words -/

/-- A character of a word. -/
def isWordChar (c : Char) : Bool :=
  c.isAlphanum || c == '_' || c == '+' || c == '-' || c == '.' || c == ':'

/-- The digits between underscores; an underscore must stand between two digits. -/
def ungroup? (isDigit : Char → Bool) : List Char → Option (List Char)
  | [] => none
  | [c] => if isDigit c then some [c] else none
  | c :: '_' :: rest => if isDigit c then (ungroup? isDigit rest).map (c :: ·) else none
  | c :: rest => if isDigit c then (ungroup? isDigit rest).map (c :: ·) else none

/-- A sign, if there is one, and the rest. -/
def splitSign : List Char → Bool × List Char
  | '-' :: rest => (true, rest)
  | '+' :: rest => (false, rest)
  | cs => (false, cs)

/-- Whole digits: a zero stands alone. -/
def wholeDigits? (cs : List Char) : Option (List Char) :=
  match ungroup? Char.isDigit cs with
  | some ('0' :: _ :: _) => none
  | digits => digits

/-- Whole numbers beyond 128 bits cannot be held. -/
def ofInteger (n : Int) : Datum :=
  if -(Nat.pow 2 127 : Int) ≤ n ∧ n < Nat.pow 2 128 then .integer n else .unheld

/-- A number in a base other than ten, after its mark. -/
def readBased (base : Nat) (isDigit : Char → Bool) (cs : List Char) : Option Datum :=
  (ungroup? isDigit cs).map fun digits => ofInteger (digitsValue base digits)

/-- A number in base ten. -/
def readDecimal (cs : List Char) : Option Datum := do
  let (negative, cs) := splitSign cs
  let isExponentMark := fun c => c == 'e' || c == 'E'
  let mantissa := cs.takeWhile fun c => !isExponentMark c
  let whole ← wholeDigits? (mantissa.takeWhile (· != '.'))
  let fraction ← match mantissa.dropWhile (· != '.') with
    | [] => some none
    | _ :: digits => (ungroup? Char.isDigit digits).map some
  let exponent ← match cs.dropWhile fun c => !isExponentMark c with
    | [] => some none
    | _ :: rest =>
      let (negative, digits) := splitSign rest
      (ungroup? Char.isDigit digits).map fun digits => some (negative, digits)
  let n : Numeral := { negative, whole, fraction, exponent }
  some (if n.isWhole then ofInteger n.wholeValue
    else if n.exceedsDouble then .unheld
    else .decimal n.literal)

/-- The datum of a word. -/
def readWord (cs : List Char) : Option Datum :=
  if cs = "true".toList then some (.bool true)
  else if cs = "false".toList then some (.bool false)
  else if (splitSign cs).2 = "inf".toList ∨ (splitSign cs).2 = "nan".toList then
    some (.decimal (String.ofList cs))
  else if isMoment cs then some (.moment (String.ofList cs))
  else match cs with
    | '0' :: 'x' :: rest => readBased 16 isHexDigit rest
    | '0' :: 'o' :: rest => readBased 8 (fun c => decide ('0' ≤ c) && decide (c ≤ '7')) rest
    | '0' :: 'b' :: rest => readBased 2 (fun c => c == '0' || c == '1') rest
    | cs => readDecimal cs

/-- A word, and what follows it. One blank may stand between a date and a time. -/
def readScalarWord (cs : List Char) : Option (Datum × List Char) :=
  let word := cs.takeWhile isWordChar
  let rest := cs.dropWhile isWordChar
  match isDate word, rest with
  | true, ' ' :: c :: more =>
    if c.isDigit then
      let time := (c :: more).takeWhile isWordChar
      (readWord (word ++ ' ' :: time)).map fun d => (d, (c :: more).dropWhile isWordChar)
    else (readWord word).map fun d => (d, rest)
  | _, _ => (readWord word).map fun d => (d, rest)

end ValueObject.Data.Toml
