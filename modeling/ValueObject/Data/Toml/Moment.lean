/-
# ValueObject.Data.Toml.Moment -- dates and times in TOML

Recognises the four forms of a moment: a date with a time and an offset, a date with a time, a
date, and a time. Nothing here computes with moments; no record holds one.
-/

import ValueObject.Data.Numeral

namespace ValueObject.Data.Toml

/-- Two digits as a number, and what follows them. -/
def readTwo : List Char → Option (Nat × List Char)
  | a :: b :: rest => if a.isDigit && b.isDigit then some (digitsValue 10 [a, b], rest) else none
  | _ => none

/-- Four digits as a number, and what follows them. -/
def readFour (cs : List Char) : Option (Nat × List Char) := do
  let (high, cs) ← readTwo cs
  let (low, cs) ← readTwo cs
  some (high * 100 + low, cs)

/-- What follows a known character. -/
def afterChar (c : Char) : List Char → Option (List Char)
  | d :: rest => if d = c then some rest else none
  | [] => none

/-- The number of days in a month. -/
def daysIn (year month : Nat) : Nat :=
  if month = 2 then
    if year % 4 = 0 ∧ (year % 100 ≠ 0 ∨ year % 400 = 0) then 29 else 28
  else if month = 4 ∨ month = 6 ∨ month = 9 ∨ month = 11 then 30
  else 31

/-- What follows a date. -/
def afterDate (cs : List Char) : Option (List Char) := do
  let (year, cs) ← readFour cs
  let cs ← afterChar '-' cs
  let (month, cs) ← readTwo cs
  let cs ← afterChar '-' cs
  let (day, cs) ← readTwo cs
  if 1 ≤ month ∧ month ≤ 12 ∧ 1 ≤ day ∧ day ≤ daysIn year month then some cs else none

/-- What follows a fraction of a second, if there is one. -/
def afterFraction : List Char → Option (List Char)
  | '.' :: c :: rest => if c.isDigit then some (rest.dropWhile Char.isDigit) else none
  | '.' :: [] => none
  | cs => some cs

/-- What follows the seconds of a time, if there are any. A minute may have a leap second. -/
def afterSeconds : List Char → Option (List Char)
  | ':' :: cs => do
    let (second, cs) ← readTwo cs
    if second ≤ 60 then afterFraction cs else none
  | cs => some cs

/-- What follows a time, which may be without seconds. -/
def afterTime (cs : List Char) : Option (List Char) := do
  let (hour, cs) ← readTwo cs
  let cs ← afterChar ':' cs
  let (minute, cs) ← readTwo cs
  if hour ≤ 23 ∧ minute ≤ 59 then afterSeconds cs else none

/-- The text is an offset, or nothing. -/
def isOffset : List Char → Bool
  | [] => true
  | ['Z'] | ['z'] => true
  | c :: rest =>
    (c == '+' || c == '-') &&
      match (do
        let (hour, cs) ← readTwo rest
        let cs ← afterChar ':' cs
        let (minute, cs) ← readTwo cs
        if hour ≤ 23 ∧ minute ≤ 59 then some cs else none) with
      | some [] => true
      | _ => false

/-- The text is a date. -/
def isDate (cs : List Char) : Bool :=
  afterDate cs == some []

/-- The text is a time. -/
def isTime (cs : List Char) : Bool :=
  afterTime cs == some []

/-- **The text is a moment.** -/
def isMoment (cs : List Char) : Bool :=
  isTime cs ||
    match afterDate cs with
    | none => false
    | some [] => true
    | some (sep :: rest) =>
      (sep == 'T' || sep == 't' || sep == ' ') && (afterTime rest).any isOffset

end ValueObject.Data.Toml
