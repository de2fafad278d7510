/-
# ValueObject.Field -- the fields of a value object over several values

Every public partial property becomes a **field**. Fields are kept in the order in which their
names first appear; a name that appears again replaces what was kept under it and stays where it
was.

A field can be at fault in three ways: it can be written to, it returns by reference, or an earlier
field already has its parameter name. The faults of all fields are listed field by field.
-/

import ValueObject.Declaration
import ValueObject.Identifier
import ValueObject.Text.Blank

namespace ValueObject

/-- A field of a value object over several values. -/
structure Field where
  name : String
  typeName : String
  isValueType : Bool
  readOnly : Bool
  returnsByRef : Bool
  location : Option Location
  deriving DecidableEq, Repr

namespace Field

/-- The parameter that carries the field. -/
def parameter (f : Field) : String :=
  Identifier.parameterName f.name

/-- The backing field that keeps it. -/
def backing (f : Field) : String :=
  Identifier.backingName f.name

/-- The field that a property becomes. It is read-only when it has no accessor but `get`. -/
def ofProperty (p : Property) : Field where
  name := p.name
  typeName := Text.trim p.typeName
  isValueType := p.isValueType
  readOnly := p.accessors.all (· == .get)
  returnsByRef := p.returnsByRef
  location := p.location

/-! ## Collecting fields -/

/-- The fields with `f` under its name: in place of the field that has the name, else at the end. -/
def put (f : Field) : List Field → List Field
  | [] => [f]
  | g :: rest => if g.name = f.name then f :: rest else g :: put f rest

/-- **The fields of a declaration**: its public partial properties, in the order in which their
names first appear. -/
def collect (d : Declaration) : List Field :=
  (d.properties.filter fun p => p.isPublic && p.isPartial).foldl
    (fun fields p => put (ofProperty p) fields) []

theorem names_put (f : Field) (fields : List Field) :
    (put f fields).map name =
      if f.name ∈ fields.map name then fields.map name else fields.map name ++ [f.name] := by
  induction fields with
  | nil => simp [put]
  | cons g rest ih =>
    by_cases h : g.name = f.name
    · simp [put, h]
    · simp only [put, h, if_false, List.map_cons, ih, List.mem_cons, Ne.symm h, false_or]
      split <;> simp

/-- Putting a field keeps the names distinct. -/
theorem nodup_names_put {f : Field} {fields : List Field} (h : (fields.map name).Nodup) :
    ((put f fields).map name).Nodup := by
  rw [names_put]
  split
  · exact h
  · next hf =>
    rw [List.nodup_append]
    refine ⟨h, by simp, ?_⟩
    intro a ha b hb
    simp only [List.mem_singleton] at hb
    subst hb
    exact fun hab => hf (hab ▸ ha)

/-! ## Faults of fields -/

/-- What can be wrong with a field. -/
inductive Fault where
  | notReadOnly
  | returnsByRef
  | parameterTaken
  deriving DecidableEq, Repr

/-- The faults of one field, when the parameter names `taken` belong to earlier fields. -/
def faults (taken : List String) (f : Field) : List Fault :=
  (if f.readOnly then [] else [.notReadOnly]) ++
  (if f.returnsByRef then [.returnsByRef] else []) ++
  (if taken.contains f.parameter then [.parameterTaken] else [])

/-- The faults of all fields that follow fields with the parameter names `taken`. -/
def violationsAfter (taken : List String) : List Field → List (Field × Fault)
  | [] => []
  | f :: rest => (f.faults taken).map (f, ·) ++ violationsAfter (f.parameter :: taken) rest

/-- **The faults of all fields**, each with the field that has it, in the order of the fields. -/
def violations (fields : List Field) : List (Field × Fault) :=
  violationsAfter [] fields

end Field

end ValueObject
