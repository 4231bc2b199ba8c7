import RoutingData.CommandLine

/-!
# The program

Takes a picture of the files that a call may use, runs the call on it and makes the changes to the
files themselves.
-/

namespace RoutingData

namespace FileTree

/-- The path of an address. -/
def pathOf (address : Address) : String := "/" ++ String.intercalate "/" address

/-- The addresses on the way to a path, with its own, outermost first. -/
def route (t : FileTree) (path : String) : List Address :=
  let step (address : Address) (part : String) : Address :=
    if part = "." then address else if part = ".." then address.dropLast else address ++ [part]
  let start := if Path.isAbsolute path then [] else t.current
  let visited := (Path.parts path).foldl
    (fun (seen, address) part => (step address part :: seen, step address part)) ([start], start)
  visited.1.reverse

/-- Adds what there is at an address, and in directories what is below it down to some depth. -/
def picture : Nat → FileTree → Address → IO FileTree
  | depth, t, address => do
    let path := (← IO.currentDir) / pathOf address
    if ← path.isDir then
      let t := if address = [] then t else t.setNode address .directory
      match depth with
      | 0 => return t
      | depth + 1 =>
        (← path.readDir).foldlM (fun t entry => picture depth t (address ++ [entry.fileName])) t
    else if ← path.pathExists then
      return t.setNode address (.file (← IO.FS.readBinFile path).toList)
    else return t

/-- How deep directories can nest, at most: no system takes longer paths. -/
def maxDepth : Nat := 4096

/-- The files and directories that settings mention, and everything in the data directory. -/
def pictureFor (s : Settings) : IO FileTree := do
  let here := Path.parts (← IO.currentDir).toString
  let start : FileTree := { current := here }
  let addresses := start.route (pathOf here) ++ s.mentionedPaths.flatMap start.route
  let t ← addresses.foldlM (picture 0) start
  match (start.route s.dataDirectory).getLast? with
  | some address => picture maxDepth t address
  | none => return t

/-- Makes what is at an address the node of a tree. -/
def makeReal (change : Address × Option Node) : IO Unit :=
  let path := pathOf change.1
  match change.2 with
  | some .directory => IO.FS.createDir path
  | some (.file contents) => IO.FS.writeBinFile path ⟨contents.toArray⟩
  | none => IO.FS.removeFile path

end FileTree

end RoutingData

/-- Runs a call of the program. -/
def main (arguments : List String) : IO UInt32 := do
  let before ← match RoutingData.CommandLine.requestedSettings? arguments with
    | some s => RoutingData.FileTree.pictureFor s
    | none => pure {}
  let (answer, after) := RoutingData.CommandLine.run arguments before
  (before.differences after).forM RoutingData.FileTree.makeReal
  (← IO.getStdout).putStr answer.output
  (← IO.getStderr).putStr answer.remark
  return answer.code.toUInt32
