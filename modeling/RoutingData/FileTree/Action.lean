import RoutingData.FileTree.Basic

/-!
# Actions on a file tree

An action looks at a file tree and may change it. When an action fails, what it changed before stays
changed, and the failure names the path as it was given.
-/

namespace RoutingData

namespace FileTree

/-- The contents of a file, or a failure with its path. -/
def contentsOf (t : FileTree) (path : String) : Except BuildError Bytes :=
  (t.read path).mapError (.io path)

/-- The text of a file, or a failure with its path. -/
def textOf (t : FileTree) (path : String) : Except BuildError String :=
  (t.readText path).mapError (.io path)

/-- The paths of all files below a directory, or a failure with the directory. -/
def filesUnder (t : FileTree) (directory : String) : Except BuildError (List String) :=
  (t.filesBelow directory).mapError (.io directory)

/-- Makes the first of some directories, each of which lies in the next one; those that are missing
are made first. -/
def makeNested : List String → FileTree → Except FileFault Unit × FileTree
  | [], t => (.ok (), t)
  | path :: outer, t =>
    let make (t : FileTree) : Except FileFault Unit × FileTree :=
      match t.makeDirectory path with
      | .ok t => (.ok (), t)
      | .error e => (if e = .alreadyExists ∧ t.isDirectory path then .ok () else .error e, t)
    match make t with
    | (.error .notFound, t) =>
      match makeNested outer t with
      | (.ok (), t) => make t
      | failed => failed
    | done => done

end FileTree

/-- Something done with a file tree that has a result or a failure. -/
abbrev FileAction (α : Type) := ExceptT BuildError (StateM FileTree) α

namespace FileAction

/-- Looks at the tree. -/
def look {α : Type} (f : FileTree → Except BuildError α) : FileAction α := fun t => (f t, t)

/-- Writes a file. -/
def write (path : String) (contents : Bytes) : FileAction Unit := fun t =>
  match t.write path contents with
  | .ok t => (.ok (), t)
  | .error e => (.error (.io path e), t)

/-- Makes a directory and those on the way to it, as far as they are missing. -/
def makeDirectories (path : String) : FileAction Unit := fun t =>
  let (result, t) := FileTree.makeNested (Path.ancestors path) t
  (result.mapError (.io path), t)

end FileAction

end RoutingData
