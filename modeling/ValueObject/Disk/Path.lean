/-
# ValueObject.Disk.Path -- paths as they are written

A path is a text. Slashes cut it into **parts**; empty parts count for nothing. The parts `.` and
`..` stand for the folder itself and the folder around it, but only a disk can follow them: this
module looks at the text alone.
-/

import ValueObject.Text.Affix

namespace ValueObject.Disk.Path

open Text

/-- The path starts at the root. -/
def isAbsolute (path : String) : Bool :=
  path.toList.head? == some '/'

/-- The path ends with a slash, so it must be a folder. -/
def hasTrailingSlash (path : String) : Bool :=
  path.toList.getLast? == some '/'

/-- The parts between slashes, without empty ones. -/
def parts (path : String) : List String :=
  ((splitOn '/' path.toList).filter (!·.isEmpty)).map String.ofList

/-- The parts without `.`, except in front of a relative path. -/
def steps (path : String) : List String :=
  match parts path with
  | "." :: rest =>
    (if isAbsolute path then [] else ["."]) ++ rest.filter (· != ".")
  | ps => ps.filter (· != ".")

/-- **The path of a name inside a folder.** An absolute name stands by itself. -/
def join (folder name : String) : String :=
  if isAbsolute name || folder.isEmpty then name
  else if hasTrailingSlash folder then folder ++ name
  else folder ++ "/" ++ name

/-- The name of the file that the path leads to, unless it ends in `.` or `..` alone. -/
def fileName? (path : String) : Option String :=
  (steps path).getLast?.filter fun name => name != "." && name != ".."

/-- The extension of a file name: what follows its last dot, unless that dot comes first. -/
def extension? (path : String) : Option String :=
  (fileName? path).bind fun name =>
    let back := name.toList.reverse
    match back.dropWhile (· != '.') with
    | [] | [_] => none
    | _ => some (String.ofList (back.takeWhile (· != '.')).reverse)

/-- The path has the extension `lower`, in letters of either case. -/
def hasExtension (lower : String) (path : String) : Bool :=
  (extension? path).any fun e => e.toList.map Char.toLower == lower.toList

end ValueObject.Disk.Path
