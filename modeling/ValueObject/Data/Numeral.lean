/-
# ValueObject.Data.Numeral -- decimal numerals

A **numeral** is a sign, whole digits, and perhaps a fraction and an exponent. This module says
which number it stands for, how digits are read, and whether the number is out of range: beyond
every finite double. There are two answers to the last question. One looks at the number itself;
the other at a product of two doubles that stands in for it, which can be off by one place at the
very end of the range.
-/

namespace ValueObject.Data

/-- A decimal numeral. -/
structure Numeral where
  negative : Bool
  whole : List Char
  fraction : Option (List Char) := none
  exponent : Option (Bool × List Char) := none
  deriving DecidableEq, Repr

/-- The number that digits of a base stand for. A character that is no digit counts as nothing. -/
def digitsValue (base : Nat) (digits : List Char) : Nat :=
  digits.foldl (fun n c =>
    let v :=
      if c.isDigit then c.toNat - '0'.toNat
      else if 'a' ≤ c ∧ c ≤ 'f' then c.toNat - 'a'.toNat + 10
      else if 'A' ≤ c ∧ c ≤ 'F' then c.toNat - 'A'.toNat + 10
      else 0
    n * base + v) 0

/-- The character is a hexadecimal digit. -/
def isHexDigit (c : Char) : Bool :=
  c.isDigit || (decide ('a' ≤ c) && decide (c ≤ 'f')) || (decide ('A' ≤ c) && decide (c ≤ 'F'))

namespace Numeral

/-- The numeral has neither fraction nor exponent. -/
def isWhole (n : Numeral) : Bool :=
  n.fraction.isNone && n.exponent.isNone

/-- The whole part with its sign. -/
def wholeValue (n : Numeral) : Int :=
  let v : Int := digitsValue 10 n.whole
  if n.negative then -v else v

/-- All digits as one number. -/
def significand (n : Numeral) : Nat :=
  digitsValue 10 (n.whole ++ n.fraction.getD [])

/-- The power of ten that the significand is multiplied by. -/
def scale (n : Numeral) : Int :=
  let shift : Int := (n.fraction.getD []).length
  match n.exponent with
  | none => -shift
  | some (negative, digits) =>
    let e : Int := digitsValue 10 digits
    (if negative then -e else e) - shift

/-- The least number that rounds to no finite double. -/
def doubleLimit : Nat := Nat.pow 2 1024 - Nat.pow 2 970

/-- **The number is beyond every finite double.** The number of digits settles all but numbers
close to the limit; those are compared exactly. -/
def exceedsDouble (n : Numeral) : Bool :=
  let m := n.significand
  if m = 0 then false
  else
    let size : Int := (Nat.toDigits 10 m).length + n.scale
    if size > 310 then true
    else if size < 300 then false
    else if n.scale ≥ 0 then decide (doubleLimit ≤ m * Nat.pow 10 n.scale.toNat)
    else decide (doubleLimit * Nat.pow 10 (-n.scale).toNat ≤ m)

/-! ## The number as a product of doubles -/

/-- The double that is nearest to a whole number, as a whole number: 53 binary digits are kept, and
of two equally near ones the even one is taken. -/
def roundDouble (n : Nat) : Nat :=
  let unit := Nat.pow 2 (n.log2 - 52)
  let kept := n / unit
  let rest := n % unit
  if unit < 2 * rest ∨ (unit = 2 * rest ∧ kept % 2 = 1) then (kept + 1) * unit else kept * unit

/-- Takes digits into a number as long as it fits into 64 bits; gives the digits left over too. -/
def takeWord (n : Nat) : List Char → Nat × List Char
  | [] => (n, [])
  | c :: rest =>
    let next := n * 10 + digitsValue 10 [c]
    if next < Nat.pow 2 64 then takeWord next rest else (n, c :: rest)

/-- The digits that fit into 64 bits, the fraction included, and the power of ten that makes up for
the whole digits left over and the fraction digits taken. -/
def wordParts (n : Numeral) : Nat × Int :=
  let fraction := n.fraction.getD []
  let (high, wholeLeft) := takeWord 0 n.whole
  let (word, fractionLeft) := takeWord high fraction
  let exponent : Int := match n.exponent with
    | none => 0
    | some (negative, digits) =>
      let e : Int := digitsValue 10 digits
      if negative then -e else e
  (word, exponent + wholeLeft.length - (fraction.length - fractionLeft.length : Nat))

/-- The greatest power of ten that is a finite double. -/
def greatestTen : Nat := 308

/-- **The number is out of range as a product** of two doubles: the digits that fit into 64 bits,
and a power of ten. -/
def productExceedsDouble (n : Numeral) : Bool :=
  match n.wordParts with
  | (word, .ofNat e) =>
    word != 0 &&
      (decide (greatestTen < e) || decide (doubleLimit ≤ roundDouble word * roundDouble (Nat.pow 10 e)))
  | (_, .negSucc _) => false

/-- The numeral as text. -/
def literal (n : Numeral) : String :=
  (if n.negative then "-" else "") ++ String.ofList n.whole ++
    n.fraction.elim "" (fun ds => "." ++ String.ofList ds) ++
    n.exponent.elim "" (fun e => "e" ++ (if e.1 then "-" else "") ++ String.ofList e.2)

end Numeral

end ValueObject.Data
