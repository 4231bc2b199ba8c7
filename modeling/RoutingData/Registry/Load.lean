import RoutingData.FileTree.Action
import RoutingData.Registry

/-!
# Loading lists from files

A list file is named like its list. A directory of list files makes a registry; of files with the
same name, in whatever directories below it, the last one counts.
-/

namespace RoutingData

/-- The name of the list in a file. -/
def DomainList.nameOfFile (path : String) : String := Text.upper (Path.fileName path)

/-- The list in a file. -/
def DomainList.load (t : FileTree) (path : String) : Except BuildError DomainList := do
  parseFrom path (nameOfFile path) (← t.textOf path)

/-- The lists in the files below a directory. -/
def Registry.load (t : FileTree) (directory : String) : Except BuildError Registry := do
  let lists ← (← t.filesUnder directory).mapM (DomainList.load t)
  return lists.foldl .add ∅

end RoutingData
