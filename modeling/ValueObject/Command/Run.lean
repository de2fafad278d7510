/-
# ValueObject.Command.Run -- carrying out a command

A command reads and writes files through a **storage**: three operations in some monad. A disk is
such a storage, and so is the file system of the machine; what a command does is the same on both.

What a command says on either stream is part of its outcome. Two things that appear on the second
stream are left out, because a command does not word them: the lines of the log, and the cause that a
parser gives for a text that is no manifest. Of that failure only the format is kept
(`Failure.parseManifest`).

`check` and `generate` begin alike: read the manifest, put the overrides in force, check it, generate
everything, report what was rejected. Only then do they part, and only `generate` writes.
-/

import ValueObject.Command.Arguments
import ValueObject.Disk.Tree
import ValueObject.Generation
import ValueObject.Manifest
import ValueObject.Text.Quoted

namespace ValueObject

/-- Files and folders in reach of a command. -/
structure Storage (m : Type → Type) where
  read : String → m (Except DiskError String)
  makeFolders : String → m (Except DiskError Unit)
  write : String → String → m (Except DiskError Unit)

/-- **A disk as a storage.** -/
def Disk.storage : Storage (StateM Disk) where
  read path := fun d => (d.read path, d)
  makeFolders path := fun d => d.makeFolders path
  write path content := fun d => d.write path content

namespace Command

/-! ## Errors -/

/-- Why a command failed. -/
inductive Failure where
  | readManifest (path : String) (cause : DiskError)
  | parseManifest (format : ManifestFormat)
  | invalidManifest (cause : ManifestError)
  | settings (cause : SettingsError)
  | runtimeNamespace (cause : SettingsError)
  | makeFolder (path : String) (cause : DiskError)
  | write (path : String) (cause : DiskError)
  | rejected (count : Nat)
  deriving DecidableEq, Repr

/-- The failure in words, and then its cause, if it has one. -/
def Failure.messages : Failure → List String
  | readManifest path cause =>
    ["Failed to read manifest: " ++ Text.quoted path, cause.message]
  | parseManifest format => [format.failure]
  | invalidManifest cause => cause.messages
  | settings cause => [cause.message]
  | runtimeNamespace cause => ["Invalid runtime namespace", cause.message]
  | makeFolder path cause =>
    ["Failed to create output directory: " ++ Text.quoted path, cause.message]
  | write path cause => ["Failed to write " ++ Text.quoted path, cause.message]
  | rejected count => [toString count ++ " declaration(s) rejected"]

/-- A text with four spaces in front of each line. -/
def indented (s : String) : String :=
  "\n".intercalate ((Text.splitOn '\n' s.toList).map fun line => "    " ++ String.ofList line)

/-- What is printed about a failure. -/
def Failure.text (f : Failure) : String :=
  match f.messages with
  | [] => ""
  | [message] => "Error: " ++ message ++ "\n"
  | message :: causes =>
    "Error: " ++ message ++ "\n\nCaused by:\n" ++ "\n".intercalate (causes.map indented) ++ "\n"

/-! ## Outcomes -/

/-- What a command comes to: its exit code and what it prints. -/
structure Outcome where
  exit : Nat
  stdout : String
  stderr : String
  deriving DecidableEq, Repr

/-- The command succeeded. -/
def succeed (stdout : List String) (stderr : String) : Outcome where
  exit := 0
  stdout := String.join (stdout.map (· ++ "\n"))
  stderr := stderr

/-- The command failed. -/
def fail (stdout : List String) (stderr : String) (f : Failure) : Outcome where
  exit := 1
  stdout := String.join (stdout.map (· ++ "\n"))
  stderr := stderr ++ f.text

/-! ## Manifests -/

/-- The manifest that is read where none is named. -/
def defaultManifest : String := "valobj.toml"

/-- The format of a manifest, by its extension. -/
def formatOf (path : String) : ManifestFormat :=
  if Disk.Path.hasExtension "json" path then .json else .toml

/-- The manifest in a text that was read, with the overrides in force, if it is sound. -/
def manifestOf (path : String) (overrides : Settings.Overrides) :
    Except DiskError String → Except Failure Manifest
  | .error cause => .error (.readManifest path cause)
  | .ok text =>
    match Manifest.read? (formatOf path) text with
    | none => .error (.parseManifest (formatOf path))
    | some manifest =>
      let manifest := manifest.override overrides
      match manifest.check with
      | .error cause => .error (.invalidManifest cause)
      | .ok () => .ok manifest

/-- The diagnostics of all outcomes, a line each. -/
def report (outcomes : List ValueObject.Outcome) : String :=
  String.join ((outcomes.flatMap ValueObject.Outcome.diagnostics).map fun d => d.text ++ "\n")

/-- The number of rejected declarations. -/
def rejectedCount (outcomes : List ValueObject.Outcome) : Nat :=
  outcomes.countP (!·.isAccepted)

/-- The units to write: one for each accepted declaration, and the support unit if it is wanted. -/
def unitsOf (g : Generator) (outcomes : List ValueObject.Outcome) : List GeneratedUnit :=
  outcomes.filterMap ValueObject.Outcome.unit? ++
    (if g.settings.emitRuntime then [g.supportUnit] else [])

/-- The line that names a written file. -/
def generatedLine (path : String) : String :=
  "✓ Generated: " ++ path

/-! ## The commands -/

section

variable {m : Type → Type} [Monad m] (storage : Storage m)

/-- Writes units into a folder, up to the first that cannot be written; gives their paths. -/
def writeUnits (output : String) : List GeneratedUnit → m (Except Failure (List String))
  | [] => pure (.ok [])
  | u :: rest => do
    let path := Disk.Path.join output u.hintName
    match ← storage.write path u.source with
    | .error cause => pure (.error (.write path cause))
    | .ok () =>
      match ← writeUnits output rest with
      | .error f => pure (.error f)
      | .ok paths => pure (.ok (path :: paths))

/-- Makes a folder and writes units into it; gives their paths. -/
def writeInto (output : String) (units : List GeneratedUnit) :
    m (Except Failure (List String)) := do
  match ← storage.makeFolders output with
  | .error cause => pure (.error (.makeFolder output cause))
  | .ok () => writeUnits storage output units

/-- What generating a manifest into a folder comes to: the diagnostics that were printed, and then
the paths of the written units with the number of rejected declarations. -/
structure Delivery where
  report : String
  result : Except Failure (List String × Nat)

/-- **Generates a manifest into a folder**: writes the unit of every accepted declaration, whatever
becomes of the others. -/
def deliver (output : String) (manifest : Manifest) : m Delivery := do
  match Generator.ofSettings manifest.settings with
  | .error cause => pure { report := "", result := .error (.settings cause) }
  | .ok g =>
    let outcomes := g.generateAll manifest.declarations
    let written ← writeInto storage output (unitsOf g outcomes)
    pure
      { report := report outcomes
        result := written.map fun paths => (paths, rejectedCount outcomes) }

/-- **Checks a manifest**: says what is wrong with its declarations and writes nothing. -/
def runCheck (manifest : Option String) : m Outcome := do
  let path := manifest.getD defaultManifest
  let heading := "Checking manifest: " ++ path
  match manifestOf path {} (← storage.read path) with
  | .error f => pure (fail [heading] "" f)
  | .ok manifest =>
    match Generator.ofSettings manifest.settings with
    | .error cause => pure (fail [heading] "" (.settings cause))
    | .ok g =>
      let outcomes := g.generateAll manifest.declarations
      let rejected := rejectedCount outcomes
      let summary :=
        [heading, "✓ Declarations: " ++ toString manifest.declarations.length,
          "✓ Runtime namespace: " ++ g.settings.runtimeNamespace]
      if rejected = 0 then
        pure (succeed (summary ++ ["", "Manifest is valid!"]) (report outcomes))
      else pure (fail summary (report outcomes) (.rejected rejected))

/-- **Generates what a manifest declares**, with overrides in force. Rejected declarations make the
command fail once everything else is written. -/
def runGenerate (output : String) (manifest : Option String) (overrides : Settings.Overrides) :
    m Outcome := do
  let path := manifest.getD defaultManifest
  match manifestOf path overrides (← storage.read path) with
  | .error f => pure (fail [] "" f)
  | .ok manifest =>
    let heading := "Generating " ++ toString manifest.declarations.length ++
      " value object(s) from " ++ path
    let delivery ← deliver storage output manifest
    match delivery.result with
    | .error f => pure (fail [heading] delivery.report f)
    | .ok (paths, rejected) =>
      let said := heading :: paths.map generatedLine
      if rejected = 0 then pure (succeed said delivery.report)
      else pure (fail said delivery.report (.rejected rejected))

/-- **Writes the support unit** alone. -/
def runSupport (output : String) (runtimeNamespace : Option String) : m Outcome := do
  match Generator.ofSettings (Settings.override {} { runtimeNamespace }) with
  | .error cause => pure (fail [] "" (.runtimeNamespace cause))
  | .ok g =>
    match ← writeInto storage output [g.supportUnit] with
    | .error f => pure (fail [] "" f)
    | .ok paths => pure (succeed (paths.map generatedLine) "")

/-- Carries out a command. -/
def run : Command → m Outcome
  | .generate output manifest overrides => runGenerate storage output manifest overrides
  | .check manifest => runCheck storage manifest
  | .support output runtimeNamespace => runSupport storage output runtimeNamespace

/-- What `--version` prints. -/
def versionText : String := "valobj 0.3.0"

/-- What `--help` prints. -/
def helpText : List String := [
  "Value-object code generator for C#",
  "",
  "Usage: valobj [OPTIONS] <COMMAND>",
  "",
  "Commands:",
  "  generate  Generate value objects from a manifest",
  "  check     Validate a manifest and report diagnostics",
  "  runtime   Write the runtime support unit",
  "  help      Print this message or the help of the given subcommand(s)",
  "",
  "Options:",
  "  -v, --verbose...  Increase log detail (-v info, -vv debug, -vvv trace)",
  "  -q, --quiet       Only log errors",
  "  -h, --help        Print help",
  "  -V, --version     Print version"]

/-- **Carries out a command line.** One that makes no sense has exit code 2. -/
def runLine (arguments : List String) : m Outcome :=
  match parse arguments with
  | .error e => pure { exit := 2, stdout := "", stderr := "error: " ++ e.message ++ "\n" }
  | .ok .showVersion => pure (succeed [versionText] "")
  | .ok .showHelp => pure (succeed helpText "")
  | .ok (.run _ command) => run storage command

end

end Command

end ValueObject
