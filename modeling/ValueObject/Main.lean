/-
# ValueObject.Main -- the program

Carries out a command line on the files of the machine and prints what came of it. Everything that
is decided is decided in `ValueObject.Command`.
-/

import ValueObject.Command.Run

namespace ValueObject

/-- The cause of a failed operation on a file. -/
def DiskError.ofIO : IO.Error → DiskError
  | .noFileOrDirectory .. => .notFound
  | .alreadyExists .. => .alreadyExists
  | .inappropriateType _ 20 _ => .notFolder
  | .inappropriateType .. => .isFolder
  | e => .other (toString e)

/-- The result of an operation, or the cause of its failure. -/
def attempt {α : Type} (operation : IO α) : IO (Except DiskError α) := do
  match ← operation.toBaseIO with
  | .ok a => pure (.ok a)
  | .error e => pure (.error (.ofIO e))

/-- Reads a file as text. -/
def readText (path : String) : IO (Except DiskError String) := do
  match ← attempt (IO.FS.readBinFile path) with
  | .error e => pure (.error e)
  | .ok bytes =>
    match String.fromUTF8? bytes with
    | some text => pure (.ok text)
    | none => pure (.error (.other "stream did not contain valid UTF-8"))

/-- The files of the machine. -/
def machine : Storage IO where
  read := readText
  makeFolders path := if path.isEmpty then pure (.ok ()) else attempt (IO.FS.createDirAll path)
  write path content := attempt (IO.FS.writeFile path content)

end ValueObject

/-- The program. -/
def main (arguments : List String) : IO UInt32 := do
  let outcome ← ValueObject.Command.runLine ValueObject.machine arguments
  IO.print outcome.stdout
  IO.eprint outcome.stderr
  return UInt32.ofNat outcome.exit
