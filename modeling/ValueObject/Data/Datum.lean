/-
# ValueObject.Data.Datum -- data as a text format carries it

A **datum** is what a JSON or TOML text says before anyone asks what it is for: nothing, a flag, a
number, a text, a list or a table. Tables keep their entries in the order of the text and keep a
repeated key twice, so a reader can refuse repetition where it matters.

Whole numbers are numbers. Any other numeral stays a literal, since nothing in this library counts
in fractions; the same holds of a moment in time, which only TOML can write.

A text may be in proper form and still say what no value can **hold**: a number out of range, or
half of a surrogate pair. Such a datum does no harm where nobody looks at it, and is refused by
every reader that does.
-/

namespace ValueObject.Data

/-- What a text says. -/
inductive Datum where
  | null
  | bool (b : Bool)
  | integer (n : Int)
  | decimal (literal : String)
  | moment (literal : String)
  | text (s : String)
  | list (items : List Datum)
  | table (entries : List (String × Datum))
  | unheld

namespace Datum

/-- The text, if the datum is one. -/
def text? : Datum → Option String
  | text s => some s
  | _ => none

/-- The flag, if the datum is one. -/
def bool? : Datum → Option Bool
  | bool b => some b
  | _ => none

/-- The number of an unsigned word of 32 bits, if the datum is one. -/
def word? : Datum → Option UInt32
  | integer n => if 0 ≤ n ∧ n < Nat.pow 2 32 then some (UInt32.ofNat n.toNat) else none
  | _ => none

/-- A list of which every item is read by `f`. -/
def list? {α : Type} (f : Datum → Option α) : Datum → Option (List α)
  | list items => items.mapM f
  | _ => none

/-- A value that may be absent: `null` is nothing, anything else is read by `f`. -/
def optional? {α : Type} (f : Datum → Option α) : Datum → Option (Option α)
  | null => some none
  | d => (f d).map some

/-- A text, or `null` for none. -/
def ofText? (s : Option String) : Datum :=
  s.elim null text

@[simp]
theorem word?_ofNat (n : UInt32) : (integer n.toNat).word? = some n := by
  have h := n.toNat_lt
  simp [word?]
  omega

mutual

/-- How many lists and tables lie inside one another, at most. -/
def nesting : Datum → Nat
  | list items => nestingAll items + 1
  | table entries => nestingEntries entries + 1
  | _ => 0

/-- The deepest nesting among items. -/
def nestingAll : List Datum → Nat
  | [] => 0
  | d :: rest => max d.nesting (nestingAll rest)

/-- The deepest nesting among entries. -/
def nestingEntries : List (String × Datum) → Nat
  | [] => 0
  | (_, d) :: rest => max d.nesting (nestingEntries rest)

end

/-- The number fits into 64 bits, signed or unsigned. -/
def fitsWord (n : Int) : Bool :=
  decide (-(Nat.pow 2 63 : Int) ≤ n) && decide (n < Nat.pow 2 64)

mutual

/-- Everything in the datum can be held, where `fits` says which whole numbers can. -/
def isHeld (fits : Int → Bool) : Datum → Bool
  | integer n => fits n
  | list items => allHeld fits items
  | table entries => entriesHeld fits entries
  | unheld => false
  | _ => true

/-- Everything among the items can be held. -/
def allHeld (fits : Int → Bool) : List Datum → Bool
  | [] => true
  | d :: rest => d.isHeld fits && allHeld fits rest

/-- Everything among the entries can be held. -/
def entriesHeld (fits : Int → Bool) : List (String × Datum) → Bool
  | [] => true
  | (_, d) :: rest => d.isHeld fits && entriesHeld fits rest

end

end Datum

end ValueObject.Data
