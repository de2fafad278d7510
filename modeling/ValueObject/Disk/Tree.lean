/-
# ValueObject.Disk.Tree -- a disk of folders and files

A **disk** is a tree of folders and files with one folder to work in. Paths are followed part by
part from the root or from that folder: a part must lie in a folder, `..` leads to the folder
around it, and the root lies around itself.

There are three operations: reading a file, making folders, and writing a file. Each fails with the
error that a POSIX file system gives. Whether an operation fails or not, it says what the disk is
afterwards.
-/

import ValueObject.Disk.Path

namespace ValueObject

/-- Why an operation on a disk failed. -/
inductive DiskError where
  | notFound
  | alreadyExists
  | notFolder
  | isFolder
  | nameTooLong
  | zeroByte
  | other (message : String)
  deriving DecidableEq, Repr

/-- The error in words. -/
def DiskError.message : DiskError → String
  | notFound => "No such file or directory (os error 2)"
  | alreadyExists => "File exists (os error 17)"
  | notFolder => "Not a directory (os error 20)"
  | isFolder => "Is a directory (os error 21)"
  | nameTooLong => "File name too long (os error 36)"
  | zeroByte => "file name contained an unexpected NUL byte"
  | other message => message

namespace Disk

/-- A file with its content, or a folder with its entries. -/
inductive Node where
  | file (content : String)
  | folder (entries : List (String × Node))

namespace Node

/-- What stands at a place below the node. -/
def at? : List String → Node → Option Node
  | [], n => some n
  | name :: rest, folder entries => (entries.lookup name).bind (at? rest)
  | _ :: _, file _ => none

/-- Entries with another node under a name. -/
def setEntry (name : String) (n : Node) : List (String × Node) → List (String × Node)
  | [] => [(name, n)]
  | (k, m) :: rest => if k = name then (k, n) :: rest else (k, m) :: setEntry name n rest

/-- The node with another one at a place below it. Folders on the way are made. -/
def put : Node → List String → Node → Node
  | _, [], n => n
  | folder entries, name :: rest, n =>
    folder (setEntry name (put ((entries.lookup name).getD (folder [])) rest n) entries)
  | file content, _ :: _, _ => file content

mutual

/-- Every file below a node, with the names on the way to it. -/
def files : Node → List (List String × String)
  | file content => [([], content)]
  | folder entries => filesOf entries

/-- Every file below some entries. -/
def filesOf : List (String × Node) → List (List String × String)
  | [] => []
  | (name, n) :: rest => (files n).map (fun f => (name :: f.1, f.2)) ++ filesOf rest

end

end Node

end Disk

/-- A tree of folders and files, and the folder to work in. -/
structure Disk where
  root : Disk.Node
  here : List String

namespace Disk

/-- A disk on which nothing stands but the folder to work in. -/
def blank (here : List String) : Disk where
  root := Node.put (.folder []) here (.folder [])
  here := here

/-! ## Following paths -/

/-- No name may have more bytes. -/
def nameLimit : Nat := 255

/-- No path may have more bytes. -/
def pathLimit : Nat := 4095

/-- Follows parts from a place; gives the place that they lead to. -/
def follow (root : Node) : List String → List String → Except DiskError (List String)
  | place, [] => .ok place
  | place, part :: rest =>
    match root.at? place with
    | some (.folder entries) =>
      if part = "." then follow root place rest
      else if part = ".." then follow root place.dropLast rest
      else if nameLimit < part.utf8ByteSize then .error .nameTooLong
      else if (entries.lookup part).isSome then follow root (place ++ [part]) rest
      else .error .notFound
    | some (.file _) => .error .notFolder
    | none => .error .notFound

/-- A path that can be followed at all: it is not empty, not too long, and has no zero byte. -/
def checkPath (path : String) : Except DiskError Unit :=
  if path.toList.any (·.toNat == 0) then .error .zeroByte
  else if path.isEmpty then .error .notFound
  else if pathLimit < path.utf8ByteSize then .error .nameTooLong
  else .ok ()

/-- The place at which a path starts. -/
def start (d : Disk) (path : String) : List String :=
  if Path.isAbsolute path then [] else d.here

/-- **The place that a path leads to**, if something stands there. -/
def resolve (d : Disk) (path : String) : Except DiskError (List String) := do
  checkPath path
  let place ← follow d.root (d.start path) (Path.parts path)
  match d.root.at? place with
  | some (.file _) => if Path.hasTrailingSlash path then .error .notFolder else .ok place
  | _ => .ok place

/-- A path leads to a folder. -/
def isFolder (d : Disk) (path : String) : Bool :=
  match d.resolve path with
  | .error _ => false
  | .ok place =>
    match d.root.at? place with
    | some (.folder _) => true
    | _ => false

/-- The folder in which the last part of a path lies, the last part, and the entries of that
folder. A path without parts is the root and has no last part. -/
def resolveLast (d : Disk) (path : String) :
    Except DiskError (List String × Option (String × List (String × Node))) := do
  checkPath path
  let parts := Path.parts path
  match parts.getLast? with
  | none => .ok ([], none)
  | some last =>
    let place ← follow d.root (d.start path) parts.dropLast
    match d.root.at? place with
    | some (.folder entries) => .ok (place, some (last, entries))
    | some (.file _) => .error .notFolder
    | none => .error .notFound

/-! ## Reading -/

/-- **Reads a file.** -/
def read (d : Disk) (path : String) : Except DiskError String := do
  let place ← d.resolve path
  match d.root.at? place with
  | some (.file content) => .ok content
  | some (.folder _) => .error .isFolder
  | none => .error .notFound

/-! ## Making folders -/

/-- Makes one folder, in a folder that is there. -/
def makeFolder (d : Disk) (path : String) : Except DiskError Disk := do
  match ← d.resolveLast path with
  | (_, none) => .error .alreadyExists
  | (place, some (last, entries)) =>
    if last = "." ∨ last = ".." then .error .alreadyExists
    else if nameLimit < last.utf8ByteSize then .error .nameTooLong
    else if (entries.lookup last).isSome then .error .alreadyExists
    else .ok { d with root := d.root.put (place ++ [last]) (.folder []) }

/-- A path from its parts. -/
def pathOf (absolute : Bool) (parts : List String) : String :=
  (if absolute then "/" else "") ++ "/".intercalate parts

/-- Makes the folder at a path, or finds it there. -/
def ensureFolder (d : Disk) (path : String) : Except DiskError Unit × Disk :=
  match d.makeFolder path with
  | .ok d => (.ok (), d)
  | .error e => if d.isFolder path then (.ok (), d) else (.error e, d)

/-- Makes the folder at a path after those around it, which `back` lists from the inside. The
folders around it are made only if the folder cannot be made without them. -/
def ensureFolders (d : Disk) (absolute : Bool) (path : String) :
    List String → Except DiskError Unit × Disk
  | [] => if absolute then d.ensureFolder path else (.ok (), d)
  | _ :: back =>
    match d.ensureFolder path with
    | (.error .notFound, d) =>
      match ensureFolders d absolute (pathOf absolute back.reverse) back with
      | (.ok (), d) => d.ensureFolder path
      | failed => failed
    | done => done

/-- **Makes the folder at a path** and every folder missing on the way. The empty path is the
folder to work in, which is there. -/
def makeFolders (d : Disk) (path : String) : Except DiskError Unit × Disk :=
  if path.isEmpty then (.ok (), d)
  else ensureFolders d (Path.isAbsolute path) path (Path.steps path).reverse

/-! ## Writing -/

/-- **Writes a file**, in place of what it held if it is there. The folder around it must be
there. -/
def write (d : Disk) (path content : String) : Except DiskError Unit × Disk :=
  match d.resolveLast path with
  | .error e => (.error e, d)
  | .ok (_, none) => (.error .isFolder, d)
  | .ok (place, some (last, entries)) =>
    if last = "." ∨ last = ".." ∨ Path.hasTrailingSlash path then (.error .isFolder, d)
    else if nameLimit < last.utf8ByteSize then (.error .nameTooLong, d)
    else match entries.lookup last with
      | some (.folder _) => (.error .isFolder, d)
      | _ => (.ok (), { d with root := d.root.put (place ++ [last]) (.file content) })

/-! ## Files in the folder to work in -/

/-- The files below the folder to work in, by their paths from there. -/
def files (d : Disk) : List (String × String) :=
  match d.root.at? d.here with
  | some n => n.files.map fun f => ("/".intercalate f.1, f.2)
  | none => []

/-- The disk with one more file below the folder to work in, and the folders on the way to it. -/
def withFile (d : Disk) (path content : String) : Disk :=
  { d with root := d.root.put (d.here ++ Path.parts path) (.file content) }

/-- The files that are not on an earlier disk, or are not the same there. -/
def changedFiles (before after : Disk) : List (String × String) :=
  after.files.filter fun f => before.files.lookup f.1 != some f.2

end Disk

end ValueObject
