import RoutingData.Text.Pieces

/-!
# Paths

A path is a text of parts between slashes. Empty parts mean nothing; a dot stands for the directory
itself and two dots for the one above it.
-/

namespace RoutingData.Path

/-- The parts of a path. -/
def parts (path : String) : List String := (Text.splitAt '/' path).filter (· ≠ "")

/-- Whether a path starts at the root. -/
def isAbsolute (path : String) : Bool := path.toList.head? = some '/'

/-- Whether a path ends with a slash, so that it can only mean a directory. -/
def endsWithSlash (path : String) : Bool := path.toList.getLast? = some '/'

/-- The path of something seen from a directory. -/
def join (directory path : String) : String :=
  if isAbsolute path then path
  else if directory = "" ∨ endsWithSlash directory then directory ++ path
  else directory ++ "/" ++ path

/-- The last part that is not a dot; nothing if that is two dots. -/
def fileName (path : String) : String :=
  match ((parts path).filter (· ≠ ".")).getLast? with
  | none | some ".." => ""
  | some name => name

/-- The file name without its last dot and what follows it. A dot at the start does not count. -/
def stem (path : String) : String :=
  let name := fileName path
  match name.toList.reverse.dropWhile (· != '.') with
  | [] | [_] => name
  | _ :: before => .ofList before.reverse

/-- The parts of a path without the dots after the first part. -/
def components (path : String) : List String :=
  match parts path with
  | [] => []
  | first :: rest =>
    let rest := rest.filter (· ≠ ".")
    if first = "." ∧ isAbsolute path then rest else first :: rest

/-- The path and the directories on the way to it, the nearest first. The root and the current
directory are left out. -/
def ancestors (path : String) : List String :=
  let cs := components path
  let root := if isAbsolute path then "/" else ""
  let shorter := ((List.range cs.length).reverse.filter (· ≠ 0)).map fun n =>
    root ++ String.intercalate "/" (cs.take n)
  if cs.isEmpty then [] else path :: shorter

end RoutingData.Path
