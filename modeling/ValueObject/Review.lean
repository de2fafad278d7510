/-
# ValueObject.Review -- which descriptors may be generated

A review accepts a descriptor or rejects it with diagnostics. It asks, in this order:

1. is there a namespace;
2. for a single value: is the datatype known, and is parsing asked only of a datatype that is not
   the type of texts;
3. for several values: is every field without fault, and is there a field at all.

The first question that fails ends the review with one diagnostic, except that all faults of all
fields are reported together. What is accepted carries the capabilities that generated code must
implement.
-/

import ValueObject.Descriptor
import ValueObject.Diagnostic

namespace ValueObject

/-! ## Resolving capabilities -/

/-- Why capabilities cannot be resolved. -/
inductive CapabilityConflict where
  | stringNotParsable
  deriving DecidableEq, Repr

/-- The options with those added that the marked interfaces imply: order with the type itself
implies `comparable`, and either kind of parsing implies `parsable`. -/
def ValueOptions.infer (o : ValueOptions) (declared : CapabilitySet) : ValueOptions :=
  { o with
    comparable := o.comparable || declared.contains .selfComparable
    parsable := o.parsable || declared.contains .parsable || declared.contains .spanParsable }

namespace CapabilitySet

/-- One capability of a single value is called for: by the options, by an interface that marks it,
or, for equality with the type itself, because a record would have it anyway and a plain struct
would not. -/
def calledFor (o : ValueOptions) (declared : CapabilitySet) (isRecord : Bool) : Capability → Bool
  | .selfEquatable => !isRecord
  | .valueEquatable => o.hasConversion || declared.contains .valueEquatable
  | .selfComparable => o.comparable || declared.contains .selfComparable
  | .valueComparable =>
    (o.comparable && o.hasConversion) || declared.contains .valueComparable
  | .parsable | .spanParsable =>
    o.parsable || declared.contains .parsable || declared.contains .spanParsable

/-- **The capabilities of a single value.** Text cannot be parsed into text. -/
def resolveSingle (o : ValueOptions) (declared : CapabilitySet) (datatype : String)
    (isRecord : Bool) : Except CapabilityConflict CapabilitySet :=
  if o.parsable && TypeName.isString datatype then .error .stringNotParsable
  else .ok (ofList (Capability.all.filter (calledFor o declared isRecord)))

/-- **The capabilities of several values**: equality with the type itself, for a plain struct. -/
def resolveMulti (isRecord : Bool) : CapabilitySet :=
  if isRecord then empty else single .selfEquatable

end CapabilitySet

/-! ## The review -/

/-- How far the review of a descriptor has come. -/
inductive ReviewState where
  | pending
  | accepted
  | rejected
  deriving DecidableEq, Repr

namespace ReviewState

/-- The name of the state. -/
def name : ReviewState → String
  | pending => "Pending"
  | accepted => "Accepted"
  | rejected => "Rejected"

/-- A review in the first state may come to the second. -/
def canBecome : ReviewState → ReviewState → Bool
  | pending, accepted | pending, rejected => true
  | _, _ => false

/-- The review is over. -/
def isTerminal : ReviewState → Bool
  | pending => false
  | accepted | rejected => true

/-- Code may be generated. -/
def canEmit : ReviewState → Bool
  | accepted => true
  | pending | rejected => false

end ReviewState

/-- What an accepted value object holds. The datatype is known, and the options of a single value
are those asked for and those inferred. -/
inductive Model where
  | single (datatype : String) (options : ValueOptions)
  | multi (fields : List Field) (options : MultiOptions)
  deriving DecidableEq, Repr

/-- A descriptor that code can be generated for. -/
structure Accepted where
  descriptor : Descriptor
  namespaceName : String
  model : Model
  capabilities : CapabilitySet
  deriving DecidableEq, Repr

/-- The capabilities that the declaration has not marked itself. -/
def Accepted.headerMarkers (a : Accepted) : CapabilitySet :=
  a.capabilities.difference a.descriptor.declared

/-- The outcome of a review. -/
inductive Review where
  | accepted (a : Accepted)
  | rejected (diagnostics : List Diagnostic)
  deriving DecidableEq, Repr

namespace Review

/-- The state that the outcome stands for. -/
def state : Review → ReviewState
  | accepted _ => .accepted
  | rejected _ => .rejected

/-- The diagnostics; none if the descriptor was accepted. -/
def diagnostics : Review → List Diagnostic
  | accepted _ => []
  | rejected ds => ds

/-- Rejects the descriptor as a whole. -/
def reject (d : Descriptor) (kind : DiagnosticKind) : Review :=
  .rejected [{ kind, subject := d.name, location := d.location }]

/-- The kind of diagnostic that reports a fault of a field. -/
def faultKind : Field.Fault → DiagnosticKind
  | .notReadOnly => .fieldNotReadOnly
  | .returnsByRef => .fieldReturnsByRef
  | .parameterTaken => .fieldNameCollision

/-- Reports a fault of a field: at the field's position, or else at the declaration's. -/
def reportFault (d : Descriptor) (v : Field × Field.Fault) : Diagnostic where
  kind := faultKind v.2
  subject := d.name
  field := some v.1.name
  location := v.1.location <|> d.location

/-- Reviews a single value inside a namespace. -/
def ofSingle (d : Descriptor) (namespaceName : String) (datatype : Option String)
    (options : ValueOptions) : Review :=
  match datatype with
  | none => reject d .unresolvableDatatype
  | some datatype =>
    let options := options.infer d.declared
    match CapabilitySet.resolveSingle options d.declared datatype d.isRecord with
    | .error .stringNotParsable => reject d .stringNotParsable
    | .ok capabilities =>
      .accepted
        { descriptor := d, namespaceName, model := .single datatype options, capabilities }

/-- Reviews several values inside a namespace. -/
def ofMulti (d : Descriptor) (namespaceName : String) (fields : List Field)
    (options : MultiOptions) : Review :=
  match (Field.violations fields).map (reportFault d) with
  | [] =>
    if fields.isEmpty then reject d .noFields
    else
      .accepted
        { descriptor := d, namespaceName, model := .multi fields options
          capabilities := .resolveMulti d.isRecord }
  | ds => .rejected ds

/-- **Reviews a descriptor.** -/
def ofDescriptor (d : Descriptor) : Review :=
  match Text.trimmed? d.namespaceName with
  | none => reject d .missingNamespace
  | some namespaceName =>
    match d.shape with
    | .single datatype options => ofSingle d namespaceName datatype options
    | .multi fields options => ofMulti d namespaceName fields options

end Review

end ValueObject
