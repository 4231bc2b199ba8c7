import RoutingData.DatasetKind
import RoutingData.Rule

/-!
# Failures

Everything that can stop a build, by cause. The wording of each cause is in `message`. A regular
expression, an override file or a dataset that cannot be read is a cause of its own; what exactly is
wrong inside it is not recorded, and the wording ends before it.
-/

namespace RoutingData

/-- Why a line of a list file is refused. -/
inductive LineFault where
  /-- The line holds no word. -/
  | emptyRule
  /-- The word before the first colon names no kind of rule. -/
  | unknownKind (word : String)
  /-- The value is missing. -/
  | emptyValue (kind : RuleKind)
  /-- The value is no regular expression. -/
  | invalidPattern (value : String)
  /-- A word after the value does not start with an at sign. -/
  | invalidAttribute (word : String)
  /-- A word after the value is an at sign alone. -/
  | emptyAttribute (word : String)
  /-- An inclusion names no list. -/
  | emptyTarget
  deriving DecidableEq, Repr

/-- The wording of a fault. -/
def LineFault.message : LineFault → String
  | emptyRule => "Empty rule"
  | unknownKind word => s!"Unknown domain type: {word}"
  | emptyValue kind => "Empty value for " ++ kind.word ++ " rule"
  | invalidPattern value => s!"Invalid regexp {value}"
  | invalidAttribute word => s!"Invalid attribute: {word}"
  | emptyAttribute word => s!"Empty attribute: {word}"
  | emptyTarget => "Empty include target"

/-- Why an operation on a file fails. -/
inductive FileFault where
  /-- There is no such file or directory. -/
  | notFound
  /-- A file was wanted and a directory found. -/
  | isDirectory
  /-- A directory was wanted and a file found. -/
  | notDirectory
  /-- The name is taken. -/
  | alreadyExists
  /-- The file is not UTF-8 text. -/
  | notText
  deriving DecidableEq, Repr

/-- The wording of a file fault. -/
def FileFault.message : FileFault → String
  | notFound => "No such file or directory (os error 2)"
  | isDirectory => "Is a directory (os error 21)"
  | notDirectory => "Not a directory (os error 20)"
  | alreadyExists => "File exists (os error 17)"
  | notText => "stream did not contain valid UTF-8"

/-- Why a network is refused. -/
inductive NetFault where
  /-- The address cannot be read. -/
  | address (text : String)
  /-- The mask length cannot be read or is too long for the address. -/
  | mask (text : String)
  deriving DecidableEq, Repr

/-- The wording of a network fault. -/
def NetFault.message : NetFault → String
  | address text => s!"Invalid address: {text}"
  | mask text => s!"Invalid network mask: {text}"

/-- Why settings are refused. -/
inductive SettingsFault where
  /-- An exclusion names no list. -/
  | missingListName (item : String)
  /-- An exclusion names no attribute. -/
  | noAttributes (item : String)
  /-- The override file cannot be read as what it should be. -/
  | malformedOverrides
  deriving DecidableEq, Repr

/-- The wording of a settings fault. -/
def SettingsFault.message : SettingsFault → String
  | missingListName item => s!"Missing list name in exclude-attrs entry: {item}"
  | noAttributes item => s!"No attributes in exclude-attrs entry: {item}"
  | malformedOverrides => "TOML parse error"

/-- A failure, by cause. -/
inductive BuildError where
  /-- A line of a list file is refused; lines count from one. -/
  | line (file : String) (number : Nat) (fault : LineFault)
  /-- A domain rule of the named list has no value. -/
  | emptyDomain (list : String)
  /-- A list includes one that does not exist. -/
  | unknownInclude (list target : String)
  /-- Lists include each other, or lists of this kind. -/
  | inclusionCycle (lists : List String)
  /-- An operation on a file failed; the path is as displayed. -/
  | io (path : String) (fault : FileFault)
  /-- A network is refused. -/
  | net (fault : NetFault)
  /-- Settings are refused. -/
  | settings (fault : SettingsFault)
  /-- A dataset cannot be decoded. -/
  | dataset (kind : DatasetKind)
  deriving DecidableEq, Repr

/-- The wording of a failure. -/
def BuildError.message : BuildError → String
  | line file number fault => s!"Parse error in {file} at line {number}: " ++ fault.message
  | emptyDomain list => s!"Empty domain in list {list}"
  | unknownInclude list target => s!"List {list} includes unknown list {target}"
  | inclusionCycle lists => "Include cycle between lists: " ++ String.intercalate ", " lists
  | io path fault => s!"IO error on '{path}': " ++ fault.message
  | net fault => "Invalid CIDR: " ++ fault.message
  | settings fault => "Config error: " ++ fault.message
  | dataset kind => "Encoding error: Failed to decode " ++ kind.title ++ " DAT"

end RoutingData
