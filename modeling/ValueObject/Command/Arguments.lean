/-
# ValueObject.Command.Arguments -- reading a command line

A command line is a word for the command with options before and after it. Options have a long
name, most have a letter too. Letters can be joined behind one dash; the value of an option follows
as the next argument, directly behind the letter, or behind an equals sign. Names are never
shortened.

Options for how much is logged may stand on either side of the command; each side is read for
itself. On one side only `-v` may be repeated. An argument that looks like an option is never the
value of one.
-/

import ValueObject.Settings

namespace ValueObject

/-- What a command line asks for. -/
inductive Command where
  | generate (output : String) (manifest : Option String) (overrides : Settings.Overrides)
  | check (manifest : Option String)
  | support (output : String) (runtimeNamespace : Option String)
  deriving DecidableEq, Repr

namespace Command

/-- How much is logged. -/
structure Logging where
  verbose : Nat := 0
  quiet : Bool := false
  deriving DecidableEq, Repr

/-- The least severe level that is logged. -/
def Logging.directive (l : Logging) : String :=
  if l.quiet then "error"
  else match l.verbose with
    | 0 => "warn"
    | 1 => "info"
    | 2 => "debug"
    | _ => "trace"

/-- A command line that makes sense. -/
inductive Invocation where
  | run (logging : Logging) (command : Command)
  | showVersion
  | showHelp
  deriving DecidableEq, Repr

/-- Why a command line makes no sense. -/
inductive UsageError where
  | noCommand
  | unknownCommand (word : String)
  | unexpected (argument : String)
  | unknownOption (argument : String)
  | repeated (option : String)
  | missingValue (option : String)
  | needlessValue (option : String)
  | missingOption (option : String)
  deriving DecidableEq, Repr

/-- The error in words. -/
def UsageError.message : UsageError → String
  | noCommand => "a command is required"
  | unknownCommand word => "unrecognized command '" ++ word ++ "'"
  | unexpected argument => "unexpected argument '" ++ argument ++ "'"
  | unknownOption argument => "unknown option '" ++ argument ++ "'"
  | repeated option => "the option '--" ++ option ++ "' cannot be used multiple times"
  | missingValue option => "a value is required for '--" ++ option ++ "'"
  | needlessValue option => "the option '--" ++ option ++ "' takes no value"
  | missingOption option => "the option '--" ++ option ++ "' is required"

/-! ## Options -/

/-- An option. -/
inductive Opt where
  | verbose
  | quiet
  | help
  | version
  | output
  | manifest
  | runtimeNamespace
  | emitRuntime
  deriving DecidableEq, Repr

namespace Opt

/-- The long name. -/
def long : Opt → String
  | verbose => "verbose"
  | quiet => "quiet"
  | help => "help"
  | version => "version"
  | output => "output"
  | manifest => "manifest"
  | runtimeNamespace => "runtime-namespace"
  | emitRuntime => "emit-runtime"

/-- The letter, if the option has one. -/
def letter? : Opt → Option Char
  | verbose => some 'v'
  | quiet => some 'q'
  | help => some 'h'
  | version => some 'V'
  | output => some 'o'
  | manifest => some 'm'
  | runtimeNamespace | emitRuntime => none

/-- The option takes a value. -/
def takesValue : Opt → Bool
  | output | manifest | runtimeNamespace => true
  | verbose | quiet | help | version | emitRuntime => false

end Opt

/-- The options before the command. -/
def topOptions : List Opt := [.verbose, .quiet, .help, .version]

/-- The options after any command. -/
def sharedOptions : List Opt := [.verbose, .quiet, .help]

/-! ## One side of a command line -/

/-- The options given on one side of the command. -/
structure Given where
  verbose : Nat := 0
  flags : List Opt := []
  values : List (Opt × String) := []
  deriving DecidableEq, Repr

namespace Given

/-- The option was given as a flag. -/
def has (g : Given) (o : Opt) : Bool :=
  g.flags.contains o

/-- The value that was given to an option. -/
def value? (g : Given) (o : Opt) : Option String :=
  g.values.lookup o

/-- One more flag. -/
def addFlag (g : Given) (o : Opt) : Except UsageError Given :=
  if o = .verbose then .ok { g with verbose := g.verbose + 1 }
  else if g.has o then .error (.repeated o.long)
  else .ok { g with flags := o :: g.flags }

/-- One more option with its value. -/
def addValue (g : Given) (o : Opt) (value : String) : Except UsageError Given :=
  if (g.value? o).isSome then .error (.repeated o.long)
  else .ok { g with values := (o, value) :: g.values }

end Given

/-- What an argument turns out to be. -/
inductive Parsed where
  | given (g : Given)
  | awaiting (g : Given) (o : Opt)
  | stop (i : Invocation)

/-- A flag that ends the reading of the command line, with what it asks for. -/
def stops? : Opt → Option Invocation
  | .help => some .showHelp
  | .version => some .showVersion
  | _ => none

/-- Reads the letters of one argument, which stand behind one dash. -/
def readLetters (options : List Opt) (argument : String) (g : Given) :
    List Char → Except UsageError Parsed
  | [] => .ok (.given g)
  | c :: rest =>
    match options.find? (·.letter? == some c) with
    | none => .error (.unknownOption argument)
    | some o =>
      if o.takesValue then
        match rest with
        | [] => .ok (.awaiting g o)
        | '=' :: value => (g.addValue o (String.ofList value)).map .given
        | value => (g.addValue o (String.ofList value)).map .given
      else
        match stops? o with
        | some i => .ok (.stop i)
        | none =>
          match g.addFlag o with
          | .error e => .error e
          | .ok g => readLetters options argument g rest

/-- Reads a long name and its value, if one follows an equals sign. -/
def readLong (options : List Opt) (argument : String) (g : Given) (cs : List Char) :
    Except UsageError Parsed :=
  let name := String.ofList (cs.takeWhile (· != '='))
  match options.find? (·.long == name), cs.dropWhile (· != '=') with
  | none, _ => .error (.unknownOption argument)
  | some o, [] =>
    if o.takesValue then .ok (.awaiting g o)
    else match stops? o with
      | some i => .ok (.stop i)
      | none => (g.addFlag o).map .given
  | some o, _ :: value =>
    if o.takesValue then (g.addValue o (String.ofList value)).map .given
    else .error (.needlessValue o.long)

/-- The argument looks like an option: a dash with something behind it. -/
def looksLikeOption (argument : String) : Bool :=
  match argument.toList with
  | '-' :: _ :: _ => true
  | _ => false

/-- What one side of a command line comes to. -/
inductive Side where
  | ended (g : Given)
  | word (g : Given) (word : String) (rest : List String)
  | stop (i : Invocation)

/-- Reads one side of a command line, up to its end or to the first word. `awaiting` is an option
that still needs its value. -/
def readSide (options : List Opt) (g : Given) (awaiting : Option Opt) :
    List String → Except UsageError Side
  | [] =>
    match awaiting with
    | some o => .error (.missingValue o.long)
    | none => .ok (.ended g)
  | a :: rest =>
    match awaiting, looksLikeOption a with
    | some o, true => .error (.missingValue o.long)
    | some o, false =>
      match g.addValue o a with
      | .error e => .error e
      | .ok g => readSide options g none rest
    | none, false => .ok (.word g a rest)
    | none, true =>
      let parsed := match a.toList with
        | '-' :: '-' :: [] => none
        | '-' :: '-' :: cs => some (readLong options a g cs)
        | _ :: cs => some (readLetters options a g cs)
        | [] => none
      match parsed with
      | none =>
        match rest with
        | [] => .ok (.ended g)
        | b :: _ => .error (.unexpected b)
      | some (.error e) => .error e
      | some (.ok (.given g)) => readSide options g none rest
      | some (.ok (.awaiting g o)) => readSide options g (some o) rest
      | some (.ok (.stop i)) => .ok (.stop i)

/-! ## Whole command lines -/

/-- The options of a command, after its word. -/
def optionsOf? : String → Option (List Opt)
  | "generate" => some (sharedOptions ++ [.output, .manifest, .runtimeNamespace, .emitRuntime])
  | "check" => some (sharedOptions ++ [.manifest])
  | "runtime" => some (sharedOptions ++ [.output, .runtimeNamespace])
  | _ => none

/-- The command that a word and its options ask for. -/
def ofGiven (word : String) (g : Given) : Except UsageError Command :=
  match word with
  | "generate" =>
    match g.value? .output with
    | none => .error (.missingOption Opt.output.long)
    | some output =>
      .ok (.generate output (g.value? .manifest)
        { runtimeNamespace := g.value? .runtimeNamespace, emitRuntime := g.has .emitRuntime })
  | "check" => .ok (.check (g.value? .manifest))
  | "runtime" => .ok (.support ((g.value? .output).getD ".") (g.value? .runtimeNamespace))
  | _ => .error (.unknownCommand word)

/-- The logging that both sides of the command ask for together. -/
def loggingOf (before after : Given) : Logging where
  verbose := before.verbose + after.verbose
  quiet := before.has .quiet || after.has .quiet

/-- Help may be asked for about one command, and about nothing else. -/
def readHelp : List String → Except UsageError Invocation
  | [] => .ok .showHelp
  | word :: rest =>
    if (optionsOf? word).isSome || word == "help" then
      match rest with
      | [] => .ok .showHelp
      | other :: _ => .error (.unknownCommand other)
    else .error (.unknownCommand word)

/-- **Reads a command line.** -/
def parse (arguments : List String) : Except UsageError Invocation :=
  match readSide topOptions {} none arguments with
  | .error e => .error e
  | .ok (.stop i) => .ok i
  | .ok (.ended _) => .error .noCommand
  | .ok (.word before word rest) =>
    if word = "help" then readHelp rest
    else match optionsOf? word with
      | none => .error (.unknownCommand word)
      | some options =>
        match readSide options {} none rest with
        | .error e => .error e
        | .ok (.stop i) => .ok i
        | .ok (.word _ other _) => .error (.unexpected other)
        | .ok (.ended after) => (ofGiven word after).map (.run (loggingOf before after))

end Command

end ValueObject
