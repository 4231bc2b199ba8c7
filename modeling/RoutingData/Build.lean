import RoutingData.AddressLists
import RoutingData.Dataset
import RoutingData.Overrides.Apply
import RoutingData.Registry.Load
import RoutingData.Sha256

/-!
# Building datasets

Compiling makes a dataset from the lists in a directory without changing any file. Building also
writes the dataset and, beside it, a file with its checksum.
-/

namespace RoutingData

/-- The dataset of the lists of a registry. -/
def Registry.toEntries (r : Registry) (excluded : Exclusions) : List SiteEntry :=
  (r.exportedRules excluded).map fun (code, rules) => .ofRules code rules

/-- The dataset of address lists. -/
def AddressLists.toEntries (lists : AddressLists) : List AddressEntry :=
  lists.entries.map fun (code, nets) => .ofNets code nets

namespace Settings

/-! ### Compiling -/

/-- The dataset of the domain lists in the data directory. -/
def compileSites (s : Settings) (t : FileTree) : Except BuildError (List SiteEntry) := do
  let (result, registry) := (← Registry.load t s.dataDirectory).resolve
  result
  return registry.toEntries s.exclusions

/-- The dataset of the address lists in the data directory. -/
def compileAddresses (s : Settings) (t : FileTree) : Except BuildError (List AddressEntry) :=
  (AddressLists.load t s.dataDirectory).map (·.toEntries)

end Settings

namespace Dataset

/-- The rules in a dataset file. -/
def loadSitesFile (t : FileTree) (path : String) :
    Except BuildError (Table String (List Rule)) := do
  loadSites (← t.contentsOf path)

/-- The networks in a dataset file. -/
def loadAddressesFile (t : FileTree) (path : String) : Except BuildError AddressLists := do
  loadAddresses (← t.contentsOf path)

end Dataset

/-! ### Building -/

/-- The text of a checksum file: the checksum and the name of the file that it is for. -/
def checksumText (contents : Bytes) (path : String) : String :=
  Sha256.hexDigest contents ++ "  " ++ Path.fileName path

/-- The path of the checksum file beside a file. -/
def checksumPath (path : String) : String := path ++ ".sha256sum"

/-- Writes the checksum file beside a file and returns its path. -/
def FileAction.writeChecksum (path : String) : FileAction String := do
  let contents ← FileAction.look (·.contentsOf path)
  FileAction.write (checksumPath path) (.ofText (checksumText contents path))
  return checksumPath path

namespace Settings

/-- Writes a dataset and its checksum, and returns the path of the dataset. -/
def writeDataset (s : Settings) (dataset : Bytes) : FileAction String := do
  FileAction.makeDirectories s.outputDirectory
  FileAction.write s.outputPath dataset
  let _ ← FileAction.writeChecksum s.outputPath
  return s.outputPath

/-- Builds the dataset of domain lists and checks that it can be loaded. -/
def buildSites (s : Settings) : FileAction String := do
  let entries ← FileAction.look s.compileSites
  let path ← s.writeDataset (Dataset.encodeSites entries)
  let _ ← FileAction.look (Dataset.loadSitesFile · path)
  return path

/-- Builds the dataset of address lists and checks that it can be loaded. -/
def buildAddresses (s : Settings) : FileAction String := do
  let entries ← FileAction.look s.compileAddresses
  let path ← s.writeDataset (Dataset.encodeAddresses entries)
  let _ ← FileAction.look (Dataset.loadAddressesFile · path)
  return path

/-- The files and directories that a build may use, the lists in the data directory apart. -/
def mentionedPaths (s : Settings) : List String :=
  [s.dataDirectory, s.outputDirectory, s.outputPath, checksumPath s.outputPath, s.directPath,
    s.proxyPath, s.overridesPath]

/-- Applies the overrides and builds the dataset. -/
def run (s : Settings) : FileAction String := do
  s.applyOverrides
  match s.kind with
  | .addresses => s.buildAddresses
  | .sites => s.buildSites

end Settings

end RoutingData
