import RoutingData.FileTree.Action
import RoutingData.Net.Merge
import RoutingData.Net.Parser
import RoutingData.Net.Reserved
import RoutingData.Text.Case
import RoutingData.Text.Comment

/-!
# Address lists

Lists of networks by name. A list file holds one network a line; lines that are no networks are
skipped, and the others are merged. How they are merged is a parameter with a default, since a list
file means the same for every function that gives the fewest networks. The list of reserved networks
is built in, and a file cannot replace it.
-/

namespace RoutingData

/-- Lists of networks under their names. -/
abbrev AddressLists := Table String (List Net)

namespace AddressLists

/-- The networks of a list file, merged. -/
def readNets (text : String) (merging : List Net → List Net := Net.merge) : List Net :=
  merging ((Text.meaningfulLines text).filterMap fun (_, line) =>
    (Net.parse (.ofList line)).toOption)

/-- The networks in a list file. -/
def loadNets (t : FileTree) (path : String) (merging : List Net → List Net := Net.merge) :
    Except BuildError (List Net) :=
  (t.textOf path).map fun text => readNets text merging

/-- The name of the list in a file. -/
def nameOfFile (path : String) : String := Text.upper (Path.stem path)

/-- The lists in the files below a directory, and the reserved networks. Of files for the same list
the last one counts; files for the reserved networks are not read. -/
def load (t : FileTree) (directory : String) : Except BuildError AddressLists := do
  let named := (← t.filesUnder directory).map fun path => (nameOfFile path, path)
  let lists ← (named.filter (·.1 ≠ Net.reservedName)).mapM fun (name, path) =>
    return (name, ← loadNets t path)
  return (Table.ofList lists).insert Net.reservedName Net.reserved

end AddressLists

end RoutingData
