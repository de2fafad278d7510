/-
# ValueObject.Generation -- from a declaration to its generated unit

A **generator** is settings that are known to be sound. It reads a declaration, reviews it and, if
the review accepts it, writes it. The outcome is a unit of code under a file name, or the
diagnostics of the review. Declarations do not see each other.
-/

import ValueObject.Source.MultiValue
import ValueObject.Source.SingleValue
import ValueObject.Source.Support

namespace ValueObject

open Source

/-- A file of generated code. -/
structure GeneratedUnit where
  hintName : String
  source : String
  deriving DecidableEq, Repr

/-- What became of a declaration. -/
inductive Outcome where
  | accepted (unit : GeneratedUnit)
  | rejected (diagnostics : List Diagnostic)
  deriving DecidableEq, Repr

namespace Outcome

/-- The declaration was accepted. -/
def isAccepted : Outcome → Bool
  | accepted _ => true
  | rejected _ => false

/-- The generated unit, if there is one. -/
def unit? : Outcome → Option GeneratedUnit
  | accepted u => some u
  | rejected _ => none

/-- The diagnostics; none if the declaration was accepted. -/
def diagnostics : Outcome → List Diagnostic
  | accepted _ => []
  | rejected ds => ds

end Outcome

/-! ## Writing an accepted value object -/

/-- The type over one value that an accepted descriptor stands for. -/
def Accepted.singleValue (a : Accepted) (s : Settings) (datatype : String)
    (options : ValueOptions) : SingleValue where
  name := a.descriptor.name
  datatype := datatype
  options := options
  predicate := a.descriptor.predicate
  factory := a.descriptor.factory
  capabilities := a.capabilities
  runtime := s.runtimeNamespace

/-- The type over several values that an accepted descriptor stands for. -/
def Accepted.multiValue (a : Accepted) (s : Settings) (fields : List Field)
    (options : MultiOptions) : MultiValue where
  name := a.descriptor.name
  fields := fields
  options := options
  predicate := a.descriptor.predicate
  factory := a.descriptor.factory
  isRecord := a.descriptor.isRecord
  capabilities := a.capabilities
  runtime := s.runtimeNamespace

/-- **The code of an accepted value object.** -/
def Accepted.code (a : Accepted) (s : Settings) : List Code :=
  match a.model with
  | .single datatype options =>
    unitOf a s datatype SingleValue.display (a.singleValue s datatype options).members
  | .multi fields options =>
    let v := a.multiValue s fields options
    unitOf a s "" v.display v.members

/-- The text of that code. -/
def Accepted.source (a : Accepted) (s : Settings) : String :=
  Code.unitText (a.code s)

/-! ## Generating -/

/-- Sound settings to generate with. -/
structure Generator where
  settings : Settings
  sound : settings.check = .ok ()

namespace Generator

/-- The generator with these settings, if they are sound. -/
def ofSettings (s : Settings) : Except SettingsError Generator :=
  match h : s.check with
  | .ok () => .ok { settings := s, sound := h }
  | .error e => .error e

@[simp]
theorem ofSettings_settings (g : Generator) : ofSettings g.settings = .ok g := by
  unfold ofSettings
  split
  · rfl
  · next e h => simp [g.sound] at h

theorem ofSettings_eq_error {s : Settings} {e : SettingsError} (h : s.check = .error e) :
    ofSettings s = .error e := by
  unfold ofSettings
  split
  · next hok => simp [h] at hok
  · next e' herror =>
    rw [h] at herror
    cases herror
    rfl

/-- **Generates one declaration.** -/
def generate (g : Generator) (d : Declaration) : Outcome :=
  let descriptor := Descriptor.ofDeclaration d
  match Review.ofDescriptor descriptor with
  | .accepted a => .accepted { hintName := descriptor.hintName, source := a.source g.settings }
  | .rejected ds => .rejected ds

/-- Generates declarations, each for itself. -/
def generateAll (g : Generator) (ds : List Declaration) : List Outcome :=
  ds.map g.generate

/-- The support unit. -/
def supportUnit (g : Generator) : GeneratedUnit where
  hintName := Support.hintName
  source := Code.unitText (Support.unit g.settings)

end Generator

end ValueObject
