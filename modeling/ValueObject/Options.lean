/-
# ValueObject.Options -- what an attribute asks for

The attribute on a value object lists **options**. The list is folded into a record of flags, so
that order and repetition are gone before anything else looks at it. Nothing listed means that a
public constructor is asked for.

Each option also owns one bit of a flags enum in the support unit. The flags of a list and the bits
of a list say the same thing in two ways.
-/

namespace ValueObject

/-! ## Options of a single value -/

/-- An option of the attribute for a single value. -/
inductive ValueOption where
  | implicitFrom
  | implicitAs
  | explicitFrom
  | toText
  | constructor
  | comparable
  | parsable
  deriving DecidableEq, Repr

namespace ValueOption

/-- All options, in the order of their bits. -/
def all : List ValueOption :=
  [implicitFrom, implicitAs, explicitFrom, toText, constructor, comparable, parsable]

/-- The name in an attribute and in the flags enum. -/
def name : ValueOption → String
  | implicitFrom => "ImplicitFrom"
  | implicitAs => "ImplicitAs"
  | explicitFrom => "ExplicitFrom"
  | toText => "ToString"
  | constructor => "Constructor"
  | comparable => "Comparable"
  | parsable => "Parsable"

/-- The **bit** in the flags enum. -/
def bit : ValueOption → Nat
  | implicitFrom => 0x01
  | implicitAs => 0x02
  | explicitFrom => 0x04
  | toText => 0x08
  | constructor => 0x10
  | comparable => 0x20
  | parsable => 0x40

theorem mem_all (o : ValueOption) : o ∈ all := by
  cases o <;> decide

end ValueOption

/-- What is asked of a single value, one flag for an option. -/
structure ValueOptions where
  implicitFrom : Bool := false
  implicitAs : Bool := false
  explicitFrom : Bool := false
  toText : Bool := false
  constructor : Bool := false
  comparable : Bool := false
  parsable : Bool := false
  deriving DecidableEq, Repr

namespace ValueOptions

/-- Nothing is asked for. -/
def none : ValueOptions := {}

/-- No flag is set. -/
def isEmpty (o : ValueOptions) : Bool :=
  o == none

/-- The flag of one option. -/
def has (o : ValueOptions) : ValueOption → Bool
  | .implicitFrom => o.implicitFrom
  | .implicitAs => o.implicitAs
  | .explicitFrom => o.explicitFrom
  | .toText => o.toText
  | .constructor => o.constructor
  | .comparable => o.comparable
  | .parsable => o.parsable

/-- The record with one more flag set. -/
def set (o : ValueOptions) : ValueOption → ValueOptions
  | .implicitFrom => { o with implicitFrom := true }
  | .implicitAs => { o with implicitAs := true }
  | .explicitFrom => { o with explicitFrom := true }
  | .toText => { o with toText := true }
  | .constructor => { o with constructor := true }
  | .comparable => { o with comparable := true }
  | .parsable => { o with parsable := true }

/-- The flags of a list, an empty list included. -/
def listed (options : List ValueOption) : ValueOptions :=
  options.foldl set none

/-- **The flags that a list asks for.** Nothing listed asks for the constructor. -/
def ofList (options : List ValueOption) : ValueOptions :=
  if (listed options).isEmpty then none.set .constructor else listed options

/-- A conversion between the value object and its raw value is asked for. -/
def hasConversion (o : ValueOptions) : Bool :=
  o.implicitFrom || o.implicitAs

@[simp]
theorem has_none (x : ValueOption) : none.has x = false := by
  cases x <;> rfl

@[simp]
theorem has_set (o : ValueOptions) (x y : ValueOption) :
    (o.set x).has y = (o.has y || y == x) := by
  cases x <;> cases y <;> simp [set, has]

/-- Two records with the same flags are the same record. -/
theorem ext_has {a b : ValueOptions} (h : ∀ x, a.has x = b.has x) : a = b := by
  cases a
  cases b
  simp only [mk.injEq]
  exact ⟨h .implicitFrom, h .implicitAs, h .explicitFrom, h .toText, h .constructor,
    h .comparable, h .parsable⟩

theorem has_foldl_set (options : List ValueOption) (o : ValueOptions) (x : ValueOption) :
    (options.foldl set o).has x = (o.has x || options.contains x) := by
  induction options generalizing o with
  | nil => simp
  | cons y ys ih =>
    simp only [List.foldl_cons, ih, has_set, List.contains_cons, Bool.or_assoc]

/-- A flag is set when its option is listed. -/
@[simp]
theorem has_listed (options : List ValueOption) (x : ValueOption) :
    (listed options).has x = options.contains x := by
  simp [listed, has_foldl_set]

end ValueOptions

/-! ## Options of several values -/

/-- An option of the attribute for several values. -/
inductive MultiOption where
  | explicitFrom
  | constructor
  | deconstruct
  deriving DecidableEq, Repr

namespace MultiOption

/-- All options, in the order of their bits. -/
def all : List MultiOption :=
  [explicitFrom, constructor, deconstruct]

/-- The name in an attribute and in the flags enum. -/
def name : MultiOption → String
  | explicitFrom => "ExplicitFrom"
  | constructor => "Constructor"
  | deconstruct => "Deconstruct"

/-- The **bit** in the flags enum. -/
def bit : MultiOption → Nat
  | explicitFrom => 0x01
  | constructor => 0x02
  | deconstruct => 0x04

theorem mem_all (o : MultiOption) : o ∈ all := by
  cases o <;> decide

end MultiOption

/-- What is asked of several values, one flag for an option. -/
structure MultiOptions where
  explicitFrom : Bool := false
  constructor : Bool := false
  deconstruct : Bool := false
  deriving DecidableEq, Repr

namespace MultiOptions

/-- Nothing is asked for. -/
def none : MultiOptions := {}

/-- No flag is set. -/
def isEmpty (o : MultiOptions) : Bool :=
  o == none

/-- The flag of one option. -/
def has (o : MultiOptions) : MultiOption → Bool
  | .explicitFrom => o.explicitFrom
  | .constructor => o.constructor
  | .deconstruct => o.deconstruct

/-- The record with one more flag set. -/
def set (o : MultiOptions) : MultiOption → MultiOptions
  | .explicitFrom => { o with explicitFrom := true }
  | .constructor => { o with constructor := true }
  | .deconstruct => { o with deconstruct := true }

/-- The flags of a list, an empty list included. -/
def listed (options : List MultiOption) : MultiOptions :=
  options.foldl set none

/-- **The flags that a list asks for.** Nothing listed asks for the constructor. -/
def ofList (options : List MultiOption) : MultiOptions :=
  if (listed options).isEmpty then none.set .constructor else listed options

@[simp]
theorem has_none (x : MultiOption) : none.has x = false := by
  cases x <;> rfl

@[simp]
theorem has_set (o : MultiOptions) (x y : MultiOption) :
    (o.set x).has y = (o.has y || y == x) := by
  cases x <;> cases y <;> simp [set, has]

/-- Two records with the same flags are the same record. -/
theorem ext_has {a b : MultiOptions} (h : ∀ x, a.has x = b.has x) : a = b := by
  cases a
  cases b
  simp only [mk.injEq]
  exact ⟨h .explicitFrom, h .constructor, h .deconstruct⟩

theorem has_foldl_set (options : List MultiOption) (o : MultiOptions) (x : MultiOption) :
    (options.foldl set o).has x = (o.has x || options.contains x) := by
  induction options generalizing o with
  | nil => simp
  | cons y ys ih =>
    simp only [List.foldl_cons, ih, has_set, List.contains_cons, Bool.or_assoc]

/-- A flag is set when its option is listed. -/
@[simp]
theorem has_listed (options : List MultiOption) (x : MultiOption) :
    (listed options).has x = options.contains x := by
  simp [listed, has_foldl_set]

end MultiOptions

end ValueObject
