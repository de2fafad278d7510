/-
# ValueObject.Settings -- settings of the generator

The **settings** name the namespace of the support types, the tool that generated code names as its
maker, and whether the support unit is wanted too. Settings are sound when each value can be
written into generated code: the namespace is a path of segments, the tool has a name, and neither
the name nor the version holds a quote.
-/

import ValueObject.Identifier
import ValueObject.Text.Blank

namespace ValueObject

/-- Settings of the generator. -/
structure Settings where
  runtimeNamespace : String := "ValueObjects"
  toolName : String := "valobj"
  toolVersion : String := "0.3.0"
  emitRuntime : Bool := false
  deriving DecidableEq, Repr

/-- Why settings are not sound. -/
inductive SettingsError where
  | invalidRuntimeNamespace (name : String)
  | emptyToolName
  | quoteInTool
  deriving DecidableEq, Repr

/-- The error in words. -/
def SettingsError.message : SettingsError → String
  | invalidRuntimeNamespace name => "invalid runtime namespace: '" ++ name ++ "'"
  | emptyToolName => "configuration error: tool_name must not be empty"
  | quoteInTool => "configuration error: tool_name and tool_version must not contain quotes"

namespace Settings

/-- **Checks the settings.** Of several faults the first is reported: the namespace, the missing
name, the quotes. -/
def check (s : Settings) : Except SettingsError Unit :=
  if !Identifier.isNamespacePath s.runtimeNamespace then
    .error (.invalidRuntimeNamespace s.runtimeNamespace)
  else if Text.isBlankText s.toolName then .error .emptyToolName
  else if s.toolName.toList.contains '"' || s.toolVersion.toList.contains '"' then
    .error .quoteInTool
  else .ok ()

/-- What a command line may say in place of the settings. -/
structure Overrides where
  runtimeNamespace : Option String := none
  emitRuntime : Bool := false
  deriving DecidableEq, Repr

/-- The settings with the overrides in force. A unit that is wanted stays wanted. -/
def override (s : Settings) (o : Overrides) : Settings :=
  { s with
    runtimeNamespace := o.runtimeNamespace.getD s.runtimeNamespace
    emitRuntime := s.emitRuntime || o.emitRuntime }

end Settings

end ValueObject
