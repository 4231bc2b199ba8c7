import RoutingData.DatasetKind
import RoutingData.Exclusions
import RoutingData.FileTree.Path

/-!
# Settings

What a build needs to know.
-/

namespace RoutingData

/-- The settings of a build. -/
structure Settings where
  /-- The dataset to build. -/
  kind : DatasetKind
  /-- The directory of the lists, one a file. -/
  dataDirectory : String := "./data"
  /-- The directory for the dataset. -/
  outputDirectory : String := "./publish"
  /-- The name of the dataset's file, if it is not the usual one. -/
  customName : Option String := none
  /-- The file of direct rules, which overrides change. -/
  directPath : String := "./domain_data/cn"
  /-- The file of proxy rules, which overrides change. -/
  proxyPath : String := "./domain_data/gfw"
  /-- The override file, which need not be there. -/
  overridesPath : String := "./custom.toml"
  /-- Attributes left out of the export of lists. -/
  exclusions : Exclusions := ∅

namespace Settings

/-- The name of the dataset's file. -/
def datasetName (s : Settings) : String := s.customName.getD s.kind.fileName

/-- The path of the dataset's file. -/
def outputPath (s : Settings) : String := Path.join s.outputDirectory s.datasetName

end Settings

end RoutingData
