import RoutingData.BuildError
import RoutingData.Bytes
import RoutingData.FileTree.Path
import RoutingData.Table

/-!
# File trees

Directories and files, addressed by their names from the root, and a current directory that relative
paths start from. Reading an operation's path goes part by part, as far as the tree has directories;
`FileFault` tells what was in the way. Every name is a text, and there are no links, devices or
permissions: a node is a directory, or a file that anyone may read and write.
-/

namespace RoutingData

/-- What a tree holds at an address. -/
inductive Node where
  /-- A directory. -/
  | directory
  /-- A file with its contents. -/
  | file (contents : Bytes)
  deriving DecidableEq, Repr

/-- An address: the names on the way from the root. -/
abbrev Address := List String

/-- Directories and files. -/
structure FileTree where
  /-- What there is, the root apart. -/
  nodes : Table Address Node := ∅
  /-- Where relative paths start. -/
  current : Address := []

namespace FileTree

/-- What there is at an address. -/
def node? (t : FileTree) (address : Address) : Option Node :=
  if address = [] then some .directory else t.nodes.get? address

/-- The tree with a node at an address. -/
def setNode (t : FileTree) (address : Address) (node : Node) : FileTree :=
  { t with nodes := t.nodes.insert address node }

/-- The tree without the node at an address. -/
def eraseNode (t : FileTree) (address : Address) : FileTree :=
  { t with nodes := t.nodes.erase address }

/-- A node that was set is there. -/
@[simp]
theorem node?_setNode_self (t : FileTree) {address : Address} (node : Node) (h : address ≠ []) :
    (t.setNode address node).node? address = some node := by
  simp [node?, setNode, h]

/-- Setting a node leaves every other address alone. -/
theorem node?_setNode_of_ne (t : FileTree) {address other : Address} (node : Node)
    (h : other ≠ address) : (t.setNode address node).node? other = t.node? other := by
  simp [node?, setNode, Table.get?_insert_of_ne _ _ h]

/-! ### Finding things -/

/-- One part of a path, seen from an address, which has to be a directory. -/
def step (t : FileTree) (address : Address) (part : String) : Except FileFault Address :=
  match t.node? address with
  | none => .error .notFound
  | some (.file _) => .error .notDirectory
  | some .directory =>
    if part = "." then .ok address
    else if part = ".." then .ok address.dropLast
    else if (t.node? (address ++ [part])).isSome then .ok (address ++ [part])
    else .error .notFound

/-- Several parts of a path, from where the path starts. -/
def walk (t : FileTree) (path : String) (parts : List String) : Except FileFault Address :=
  parts.foldlM t.step (if Path.isAbsolute path then [] else t.current)

/-- The address that a path means. A slash at the end asks for a directory. -/
def locate (t : FileTree) (path : String) : Except FileFault Address :=
  if path = "" then .error .notFound
  else t.walk path (Path.parts path ++ if Path.endsWithSlash path then ["."] else [])

/-- Whether a path means something. -/
def exists? (t : FileTree) (path : String) : Bool := (t.locate path).isOk

/-- Whether a path means a directory. -/
def isDirectory (t : FileTree) (path : String) : Bool :=
  match t.locate path with
  | .ok address => t.node? address == some .directory
  | .error _ => false

/-- The address for something new: the last part of the path, in the directory that the other parts
lead to. There is none if the last part is no name. -/
def place (t : FileTree) (path : String) : Except FileFault (Option Address) := do
  if path = "" then throw .notFound
  let parts := Path.parts path
  let directory ← t.walk path (parts.dropLast ++ ["."])
  match parts.getLast? with
  | none | some "." | some ".." => return none
  | some name => return some (directory ++ [name])

/-! ### Reading and writing -/

/-- The contents of a file. -/
def read (t : FileTree) (path : String) : Except FileFault Bytes := do
  match t.node? (← t.locate path) with
  | some (.file contents) => return contents
  | some .directory => throw .isDirectory
  | none => throw .notFound

/-- The contents of a file as a text. -/
def readText (t : FileTree) (path : String) : Except FileFault String := do
  match (← t.read path).text? with
  | some text => return text
  | none => throw .notText

/-- The tree after contents are written to a file, which need not be there yet. -/
def write (t : FileTree) (path : String) (contents : Bytes) : Except FileFault FileTree := do
  let some address ← t.place path | throw .isDirectory
  if Path.endsWithSlash path ∨ t.node? address = some .directory then throw .isDirectory
  return t.setNode address (.file contents)

/-- The tree with a new directory. -/
def makeDirectory (t : FileTree) (path : String) : Except FileFault FileTree := do
  let some address ← t.place path | throw .alreadyExists
  if (t.node? address).isSome then throw .alreadyExists
  return t.setNode address .directory

/-- The files below an address, with their addresses, in the order of these. -/
def filesFrom (t : FileTree) (address : Address) : List (Address × Bytes) :=
  t.nodes.entries.filterMap fun (a, node) =>
    match node with
    | .file contents => if address.isPrefixOf a then some (a, contents) else none
    | .directory => none

/-- The paths of all files below a directory, in the order of their parts. -/
def filesBelow (t : FileTree) (directory : String) : Except FileFault (List String) := do
  let address ← t.locate directory
  if t.node? address ≠ some .directory then throw .notDirectory
  return (t.filesFrom address).map fun (a, _) => (a.drop address.length).foldl Path.join directory

/-- What is at other addresses in a second tree, or is something else there: its node, if it has
one. -/
def differences (old new : FileTree) : List (Address × Option Node) :=
  let gone := old.nodes.keys.filter fun a => !new.nodes.contains a
  let other := new.nodes.entries.filter fun e => old.nodes.get? e.1 != some e.2
  gone.map (·, none) ++ other.map fun e => (e.1, some e.2)

end FileTree

end RoutingData
