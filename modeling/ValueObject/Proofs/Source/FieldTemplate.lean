/-
# ValueObject.Proofs.Source.FieldTemplate -- where generated code lists the fields

Code for a type over several values lists the fields in many places, some inside a line and some as
lines of their own. Each place is a **section**: a row inside a line or a column of lines. A section
has one entry for a field, which looks at that field alone, and writes the entries of all fields in
their order.

A **template** is code with sections where the fields would be. It is made from an **outline**, which
is the type without its fields, so whatever a template holds besides its sections is the same for all
fields. Filling it with the fields gives the whole unit (`fillAll_unitTemplate`): the fields come into
the code through sections and in no other way. No section occurs twice, and which there are can be
read off the outline (`sectionsAll_unitTemplate`).
-/

import Mathlib.Tactic.Simps.Basic
import ValueObject.Source.MultiValue

namespace ValueObject.Source

open MultiValue (comparison)

/-! ## Sections -/

/-- A place inside a line where the fields are listed. The guards are the arguments of the
predicate. -/
inductive Row where
  | display
  | constructorParameters
  | constructorGuard
  | text
  | combinedHash
  | factoryParameters
  | factoryArguments
  | outParameters
  | tryParameters
  | tryGuard
  | tryArguments
  | comparisons
  deriving DecidableEq, Repr

/-- A place where the fields are listed in lines of their own. -/
inductive Column where
  | assignments
  | properties
  | accumulatedHash
  | handedOut
  deriving DecidableEq, Repr

/-- A place where the fields are listed. -/
inductive Section where
  | row (r : Row)
  | column (c : Column)
  deriving DecidableEq, Repr

/-- All sections, in the order in which they are written. -/
def Section.all : List Section :=
  [.row .display, .row .constructorParameters, .row .constructorGuard, .column .assignments,
    .column .properties] ++
  [.row .text, .row .combinedHash, .column .accumulatedHash] ++
  [.row .factoryParameters, .row .factoryArguments] ++
  [.row .outParameters, .column .handedOut] ++
  [.row .tryParameters, .row .tryGuard, .row .tryArguments] ++
  [.row .comparisons]

theorem Section.nodup_all : all.Nodup := by
  decide

theorem Section.mem_all (s : Section) : s ∈ all := by
  rcases s with r | c
  · cases r <;> decide
  · cases c <;> decide

/-- **A type over several values without its fields.** It knows of them whether they are too many to
be combined into a hash by one call, and which name they leave to the out parameter of `Try`. -/
structure Outline where
  name : String
  options : MultiOptions
  predicate : Option String
  factory : Option String
  isRecord : Bool
  isEquatable : Bool
  runtime : String
  isLarge : Bool
  out : String

namespace Row

/-- What a row has for one field. -/
def entry (f : Field) : Row → String
  | display | text => f.name ++ " = " ++ Code.braced f.name
  | constructorParameters | factoryParameters | tryParameters => f.typeName ++ " " ++ f.parameter
  | constructorGuard | factoryArguments | tryGuard | tryArguments => f.parameter
  | combinedHash => f.backing
  | outParameters => "out " ++ f.typeName ++ " " ++ f.parameter
  | comparisons =>
    if f.isValueType then f.name ++ ".Equals(other." ++ f.name ++ ")"
    else
      "System.Collections.Generic.EqualityComparer<" ++ f.typeName ++ ">.Default.Equals(" ++ f.name ++
        ", other." ++ f.name ++ ")"

/-- What stands between two entries. -/
def separator : Row → String
  | comparisons => " && "
  | _ => ", "

/-- **The row with its fields**: an entry for each, in their order. -/
def fill (fields : List Field) (r : Row) : String :=
  r.separator.intercalate (fields.map r.entry)

end Row

namespace Column

/-- The lines that a column has for one field. -/
def entry (o : Outline) (f : Field) : Column → List String
  | assignments => [f.backing ++ " = " ++ f.parameter ++ ";"]
  | properties =>
    ["private readonly " ++ TypeName.nullable f.typeName ++ " " ++ f.backing ++ ";",
      "public partial " ++ f.typeName ++ " " ++ f.name ++ " => " ++ f.backing ++ " ?? " ++
        throwing o.runtime
          ("\"ValueObject '" ++ o.name ++ "' was not initialized with a valid value for property '" ++
            f.name ++ "'.\"") ++ ";"]
  | accumulatedHash => ["hash.Add(" ++ f.backing ++ ");"]
  | handedOut => [f.parameter ++ " = " ++ f.name ++ ";"]

/-- **The column with its fields**: the lines for each, in their order. -/
def fill (o : Outline) (fields : List Field) (c : Column) : List Code :=
  fields.flatMap fun f => (c.entry o f).map .line

end Column

/-! ## Templates -/

/-- A piece of a line: text, or a row. -/
inductive Fragment where
  | text (s : String)
  | row (r : Row)

/-- **Code with sections where the fields would be.** Code that is the same for all fields is fixed. -/
inductive Template where
  | fixed (c : Code)
  | line (fragments : List Fragment)
  | column (c : Column)
  | block (header : List Fragment) (body : List Template)

/-- A line with its fields. -/
def fillText (fields : List Field) : List Fragment → String
  | [] => ""
  | .text s :: rest => s ++ fillText fields rest
  | .row r :: rest => r.fill fields ++ fillText fields rest

/-- The rows of a line. -/
def rows : List Fragment → List Section
  | [] => []
  | .text _ :: rest => rows rest
  | .row r :: rest => .row r :: rows rest

namespace Template

mutual

/-- The template with its fields. -/
def fill (o : Outline) (fields : List Field) : Template → List Code
  | fixed c => [c]
  | line fragments => [.line (fillText fields fragments)]
  | column c => c.fill o fields
  | block header body => [.block (fillText fields header) (fillAll o fields body)]

/-- The templates with their fields, one after the other. -/
def fillAll (o : Outline) (fields : List Field) : List Template → List Code
  | [] => []
  | t :: rest => t.fill o fields ++ fillAll o fields rest

end

mutual

/-- The sections of a template, in order. -/
def sections : Template → List Section
  | fixed _ => []
  | line fragments => rows fragments
  | column c => [.column c]
  | block header body => rows header ++ sectionsAll body

/-- The sections of templates, in order. -/
def sectionsAll : List Template → List Section
  | [] => []
  | t :: rest => t.sections ++ sectionsAll rest

end

theorem fillAll_append (o : Outline) (fields : List Field) (a b : List Template) :
    fillAll o fields (a ++ b) = fillAll o fields a ++ fillAll o fields b := by
  induction a with
  | nil => rfl
  | cons t rest ih => rw [List.cons_append, fillAll, fillAll, ih, List.append_assoc]

theorem sectionsAll_append (a b : List Template) :
    sectionsAll (a ++ b) = sectionsAll a ++ sectionsAll b := by
  induction a with
  | nil => rfl
  | cons t rest ih => rw [List.cons_append, sectionsAll, sectionsAll, ih, List.append_assoc]

end Template

/-! ## The template of an outline -/

namespace Outline

/-- The constructor assigns all fields, behind the predicate if there is one. -/
def constructorTemplate (o : Outline) : Template :=
  .block
    [.text (access o.options.constructor ++ " " ++ o.name ++ "("), .row .constructorParameters,
      .text ")"]
    (match o.predicate with
    | none => [.column .assignments]
    | some predicate =>
      [.block [.text ("if (" ++ o.name ++ "." ++ predicate ++ "("), .row .constructorGuard,
          .text "))"] [.column .assignments],
        .fixed (.line ("else " ++ throwing o.runtime
          ("\"Validation Failed. The specified values are not valid for Value Object '" ++ o.name ++
            "'.\"") ++ ";"))])

/-- The hash, by one call or one field after the other. -/
def hashTemplate (o : Outline) : Template :=
  if o.isLarge then
    .block [.text "public override int GetHashCode()"]
      [.fixed (.line "var hash = new System.HashCode();"), .column .accumulatedHash,
        .fixed (.line "return hash.ToHashCode();")]
  else
    .line [.text "public override int GetHashCode() => System.HashCode.Combine(",
      .row .combinedHash, .text ");"]

/-- Text, equality with any object, and hash. -/
def overridesTemplate (o : Outline) : List Template :=
  [.line [.text ("public override string ToString() => $\"" ++ o.name ++ " " ++ Code.lbrace ++
      Code.lbrace ++ " "), .row .text, .text (" " ++ Code.rbrace ++ Code.rbrace ++ "\";")],
    .fixed (.line ("public override bool Equals(object? obj) => obj is " ++ o.name ++
      " other && Equals(other);")),
    o.hashTemplate]

def factoryTemplate (o : Outline) : Template :=
  .line [.text ("public static " ++ partialWord o.factory.isSome ++ o.name ++ " From("),
    .row .factoryParameters, .text ") => new(", .row .factoryArguments, .text ");"]

def deconstructTemplate : Template :=
  .block [.text "public void Deconstruct(", .row .outParameters, .text ")"] [.column .handedOut]

def tryTemplate (o : Outline) (predicate : String) : Template :=
  .block [.text "public static bool Try(", .row .tryParameters,
      .text (", out " ++ o.name ++ " " ++ o.out ++ ")")]
    [.line [.text ("if (" ++ o.name ++ "." ++ predicate ++ "("), .row .tryGuard,
        .text (")) " ++ Code.lbrace ++ " " ++ o.out ++ " = new("), .row .tryArguments,
        .text ("); return true; " ++ Code.rbrace)],
      .fixed (.line (o.out ++ " = default;")),
      .fixed (.line "return false;")]

/-- Equality with the type itself, and the operators that ask it. -/
def equalityTemplate (o : Outline) : List Template :=
  .line [.text ("public bool Equals(" ++ o.name ++ " other) => "), .row .comparisons, .text ";"] ::
    (equalityOperators o.name o.name).map .fixed

/-- **The template of all members.** -/
def template (o : Outline) : List Template :=
  [.fixed (defaultConstructor o.name o.runtime), o.constructorTemplate, .column .properties] ++
  (if o.isRecord then [] else o.overridesTemplate) ++
  (if o.options.explicitFrom || o.factory.isSome then [o.factoryTemplate] else []) ++
  (if o.options.deconstruct then [deconstructTemplate] else []) ++
  o.predicate.toList.map o.tryTemplate ++
  (if o.isEquatable then o.equalityTemplate else [])

/-- **The template of the unit** around the members, in a namespace and with a header for the type. -/
def unitTemplate (o : Outline) (s : Settings) (namespaceName header : String) : List Template :=
  openingLines.map .fixed ++
  [.block [.text ("namespace " ++ namespaceName)]
    [.fixed (.line (generatedCode s)),
      .line [.text "[System.Diagnostics.DebuggerDisplay(\"", .row .display, .text "\")]"],
      .block [.text header] o.template]] ++
  closingLines.map .fixed

/-! ## The sections of an outline -/

/-- **The sections that an outline has.** -/
def has (o : Outline) : Section → Bool
  | .row .display | .row .constructorParameters | .column .assignments | .column .properties => true
  | .row .constructorGuard | .row .tryParameters | .row .tryGuard | .row .tryArguments =>
    o.predicate.isSome
  | .row .text => !o.isRecord
  | .row .combinedHash => !o.isRecord && !o.isLarge
  | .column .accumulatedHash => !o.isRecord && o.isLarge
  | .row .factoryParameters | .row .factoryArguments => o.options.explicitFrom || o.factory.isSome
  | .row .outParameters | .column .handedOut => o.options.deconstruct
  | .row .comparisons => o.isEquatable

open Template

section

attribute [local simp] Template.sections Template.sectionsAll rows has

variable (o : Outline)

theorem sections_constructor :
    .row .display :: (o.constructorTemplate.sections ++ [.column .properties]) =
      [.row .display, .row .constructorParameters, .row .constructorGuard, .column .assignments,
        .column .properties].filter o.has := by
  cases h : o.predicate <;> simp [constructorTemplate, List.filter_cons, h]

theorem sections_overrides :
    sectionsAll (if o.isRecord then [] else o.overridesTemplate) =
      [.row .text, .row .combinedHash, .column .accumulatedHash].filter o.has := by
  cases hrecord : o.isRecord <;> cases hlarge : o.isLarge <;>
    simp [overridesTemplate, hashTemplate, hrecord, hlarge]

theorem sections_factory :
    sectionsAll (if o.options.explicitFrom || o.factory.isSome then [o.factoryTemplate] else []) =
      [.row .factoryParameters, .row .factoryArguments].filter o.has := by
  cases h : o.options.explicitFrom || o.factory.isSome <;> simp [factoryTemplate, h]

theorem sections_deconstruct :
    sectionsAll (if o.options.deconstruct then [deconstructTemplate] else []) =
      [.row .outParameters, .column .handedOut].filter o.has := by
  cases h : o.options.deconstruct <;> simp [deconstructTemplate, h]

theorem sections_try :
    sectionsAll (o.predicate.toList.map o.tryTemplate) =
      [.row .tryParameters, .row .tryGuard, .row .tryArguments].filter o.has := by
  cases h : o.predicate <;> simp [tryTemplate, h]

theorem sections_equality :
    sectionsAll (if o.isEquatable then o.equalityTemplate else []) =
      [.row .comparisons].filter o.has := by
  cases h : o.isEquatable <;> simp [equalityTemplate, equalityOperators, h]

/-- **The sections of a unit** are those that its outline has, each once and in one order. -/
theorem sectionsAll_unitTemplate (s : Settings) (namespaceName header : String) :
    sectionsAll (o.unitTemplate s namespaceName header) = Section.all.filter o.has := by
  -- the frame lists the fields once, for the debugger, and that comes before all members
  have hframe : sectionsAll (o.unitTemplate s namespaceName header) =
      .row .display :: sectionsAll o.template := by
    simp [unitTemplate, openingLines, closingLines]
  have hmembers : .row .display :: sectionsAll o.template =
      .row .display :: (o.constructorTemplate.sections ++ [.column .properties]) ++
      sectionsAll (if o.isRecord then [] else o.overridesTemplate) ++
      sectionsAll (if o.options.explicitFrom || o.factory.isSome then [o.factoryTemplate] else []) ++
      sectionsAll (if o.options.deconstruct then [deconstructTemplate] else []) ++
      sectionsAll (o.predicate.toList.map o.tryTemplate) ++
      sectionsAll (if o.isEquatable then o.equalityTemplate else []) := by
    simp [template, sectionsAll_append]
  rw [hframe, hmembers, sections_constructor, sections_overrides, sections_factory,
    sections_deconstruct, sections_try, sections_equality]
  simp only [Section.all, List.filter_append]

end

end Outline

namespace MultiValue

open Template

/-- The type without its fields. -/
@[simps]
def outline (v : MultiValue) : Outline where
  name := v.name
  options := v.options
  predicate := v.predicate
  factory := v.factory
  isRecord := v.isRecord
  isEquatable := v.capabilities.contains .selfEquatable
  runtime := v.runtime
  isLarge := combineLimit < v.fields.length
  out := outParameter v.fields

attribute [local simp] Template.fill Template.fillAll fillText String.append_assoc

section

variable (v : MultiValue)

theorem fill_assignments : Column.assignments.fill v.outline v.fields = v.assignments := by
  simp [Column.fill, Column.entry, assignments, List.map_eq_flatMap]

theorem fill_constructor :
    v.outline.constructorTemplate.fill v.outline v.fields = v.code .constructor := by
  have hparameters : Row.constructorParameters.fill v.fields = v.parameters := rfl
  have harguments : Row.constructorGuard.fill v.fields = v.arguments := rfl
  rw [code, constructorCode, Outline.constructorTemplate, outline_predicate]
  cases v.predicate with
  | none => simp [fill_assignments, hparameters]
  | some predicate => simp [fill_assignments, hparameters, harguments]

theorem fill_hash : v.outline.hashTemplate.fill v.outline v.fields = [v.hashCode] := by
  have hcolumn : Column.accumulatedHash.fill v.outline v.fields =
      v.fields.map fun f => .line ("hash.Add(" ++ f.backing ++ ");") := by
    rw [List.map_eq_flatMap]
    rfl
  have hrow : Row.combinedHash.fill v.fields = commaList (v.fields.map Field.backing) := rfl
  rw [Outline.hashTemplate, hashCode, outline_isLarge]
  by_cases hsmall : v.fields.length ≤ combineLimit
  · have hlarge : ¬ combineLimit < v.fields.length := Nat.not_lt.mpr hsmall
    simp [hsmall, hlarge, hrow]
  · have hlarge : combineLimit < v.fields.length := Nat.not_le.mp hsmall
    simp [hsmall, hlarge, hcolumn]

theorem fill_overrides :
    fillAll v.outline v.fields v.outline.overridesTemplate = v.code .overrides := by
  have htext : Row.text.fill v.fields = v.display := rfl
  simp [code, overridesCode, Outline.overridesTemplate, fill_hash, htext, Code.braced]

theorem fill_factory :
    v.outline.factoryTemplate.fill v.outline v.fields = v.code .factory := by
  have hparameters : Row.factoryParameters.fill v.fields = v.parameters := rfl
  have harguments : Row.factoryArguments.fill v.fields = v.arguments := rfl
  simp [Outline.factoryTemplate, code, hparameters, harguments]

theorem fill_deconstruct :
    Outline.deconstructTemplate.fill v.outline v.fields = v.code .deconstruct := by
  have hcolumn : Column.handedOut.fill v.outline v.fields =
      v.fields.map fun f => .line (f.parameter ++ " = " ++ f.name ++ ";") := by
    rw [List.map_eq_flatMap]
    rfl
  have hrow : Row.outParameters.fill v.fields =
      commaList (v.fields.map fun f => "out " ++ f.typeName ++ " " ++ f.parameter) := rfl
  simp [Outline.deconstructTemplate, code, deconstructCode, hcolumn, hrow]

theorem fill_try :
    fillAll v.outline v.fields (v.outline.predicate.toList.map v.outline.tryTemplate) =
      v.code .tryCreate := by
  have hparameters : Row.tryParameters.fill v.fields = v.parameters := rfl
  have hguard : Row.tryGuard.fill v.fields = v.arguments := rfl
  have harguments : Row.tryArguments.fill v.fields = v.arguments := rfl
  rw [code, outline_predicate]
  cases v.predicate with
  | none => rfl
  | some predicate =>
    simp [Outline.tryTemplate, tryCode, Code.braced, hparameters, hguard, harguments]

theorem fill_equality :
    fillAll v.outline v.fields v.outline.equalityTemplate = v.code .equality := by
  have hrow : Row.comparisons.fill v.fields = " && ".intercalate (v.fields.map comparison) := rfl
  simp [Outline.equalityTemplate, code, equalityCode, equalityOperators, hrow]

/-- **The template with the fields gives the members.** -/
theorem fillAll_template : fillAll v.outline v.fields v.outline.template = v.members := by
  -- a part that may be missing is filled where it stands and is nothing where it is not
  have hif (b : Bool) (ts : List Template) :
      fillAll v.outline v.fields (if b then ts else []) =
        if b then fillAll v.outline v.fields ts else [] := by
    cases b <;> rfl
  have hifNot (b : Bool) (ts : List Template) :
      fillAll v.outline v.fields (if b then [] else ts) =
        if b then [] else fillAll v.outline v.fields ts := by
    cases b <;> rfl
  have htry : (if v.predicate.isSome then v.code .tryCreate else []) = v.code .tryCreate := by
    cases h : v.predicate <;> simp [code, h]
  have hproperties : Column.properties.fill v.outline v.fields =
      v.fields.flatMap fun f => v.code (.property f) := rfl
  rw [members, flatMap_parts, htry]
  simp only [Outline.template, fillAll_append, hif, hifNot, fill_overrides, fill_try, fill_equality]
  simp [fill_constructor, hproperties, fill_factory, fill_deconstruct, code]

/-- **The template of a unit with the fields gives the unit.** -/
theorem fillAll_unitTemplate (a : Accepted) (s : Settings) (datatype : String) :
    fillAll v.outline v.fields
        (v.outline.unitTemplate s a.namespaceName (typeHeader a datatype)) =
      unitOf a s datatype v.display v.members := by
  have hrow : Row.display.fill v.fields = v.display := rfl
  simp [Outline.unitTemplate, unitOf, openingLines, closingLines, fillAll_template, hrow]

end

end MultiValue

end ValueObject.Source
