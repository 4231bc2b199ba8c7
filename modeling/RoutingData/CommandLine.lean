import RoutingData.Build

/-!
# Command line

The options of the program, and what a call of it does and answers. Every option is given at most
once, as `--name value` or as `--name=value`; a value of its own word does not start with a hyphen,
unless it is one. Nothing but options is accepted.
-/

namespace RoutingData.CommandLine

/-- The name and version of the program. -/
def versionLine : String := "geodat-builder 0.1.0\n"

/-- What the arguments ask for. -/
inductive Request where
  /-- A build with options, each with its value. -/
  | build (options : List (String × String))
  /-- The version. -/
  | version
  /-- An account of the options. -/
  | help
  deriving DecidableEq, Repr

/-- Whether a value can be given to an option. -/
def accepts (option value : String) : Bool :=
  match option with
  | "mode" => (DatasetKind.ofWord? value).isSome
  | "datname" | "exclude-attrs" => true
  | "datapath" | "outputpath" | "direct" | "proxy" | "custom" => value ≠ ""
  | _ => false

/-- Adds an option, unless it was given before or has a value that it cannot have. -/
def addOption (options : List (String × String)) (option value : String) :
    Option (List (String × String)) :=
  if accepts option value ∧ (options.lookup option).isNone then some ((option, value) :: options)
  else none

/-- Whether an argument starts like an option. -/
def isHyphenated (argument : String) : Bool :=
  match argument.toList with
  | '-' :: _ :: _ => true
  | _ => false

/-- The request for a word after two hyphens that takes no value. -/
def longRequest? : String → Option Request
  | "version" => some .version
  | "help" => some .help
  | _ => none

/-- The request for letters after one hyphen; the first letter decides. -/
def shortRequest? : List Char → Option Request
  | 'V' :: _ => some .version
  | 'h' :: _ => some .help
  | _ => none

/-- Reads arguments after some options; `none` if they are refused. -/
def readFrom (options : List (String × String)) : List String → Option Request
  | [] => some (.build options)
  | argument :: rest =>
    match argument.toList with
    | '-' :: '-' :: [] => if rest = [] then some (.build options) else none
    | '-' :: '-' :: body =>
      match Text.cut? '=' body with
      | some (option, value) => do
        readFrom (← addOption options (.ofList option) (.ofList value)) rest
      | none =>
        match longRequest? (.ofList body), rest with
        | some request, _ => some request
        | none, [] => none
        | none, value :: rest =>
          if isHyphenated value then none
          else do readFrom (← addOption options (.ofList body) value) rest
    | '-' :: letters => shortRequest? letters
    | _ => none

/-- Reads the arguments. -/
def read (arguments : List String) : Option Request := readFrom [] arguments

/-- The settings for a kind of dataset and further options. -/
def settingsFor (kind : DatasetKind) (options : List (String × String)) :
    Except BuildError Settings := do
  let exclusions ← Exclusions.parse ((options.lookup "exclude-attrs").getD "")
  let usual : Settings := { kind, exclusions }
  return { usual with
    dataDirectory := (options.lookup "datapath").getD usual.dataDirectory
    outputDirectory := (options.lookup "outputpath").getD usual.outputDirectory
    customName := options.lookup "datname"
    directPath := (options.lookup "direct").getD usual.directPath
    proxyPath := (options.lookup "proxy").getD usual.proxyPath
    overridesPath := (options.lookup "custom").getD usual.overridesPath }

/-- The settings that options make; `none` if they do not say what to build. -/
def settings? (options : List (String × String)) : Option (Except BuildError Settings) := do
  let kind ← DatasetKind.ofWord? (← options.lookup "mode")
  return settingsFor kind options

/-- The account of the options. -/
def usage : String :=
  "Options: --mode geoip|geosite, --datapath DIR, --datname NAME, --outputpath DIR, " ++
    "--direct FILE, --proxy FILE, --custom FILE, --exclude-attrs LIST@ATTR,..., --version, --help\n"

/-- What a call of the program ends with. -/
structure Answer where
  /-- The exit code: 0 for success, 1 for a failure, 2 for arguments that are refused. -/
  code : UInt8
  /-- The text on standard output. -/
  output : String := ""
  /-- The text on standard error. -/
  remark : String := ""
  deriving DecidableEq, Repr

/-- The answer to a build. -/
def Answer.ofResult : Except BuildError String → Answer
  | .ok path => { code := 0, output := path ++ "\n" }
  | .error e => { code := 1, remark := "Failed: " ++ e.message ++ "\n" }

/-- The answer when the arguments are refused. -/
def Answer.refusal : Answer := { code := 2, remark := usage }

/-- Does what a request asks for. -/
def answer (request : Request) (t : FileTree) : Answer × FileTree :=
  match request with
  | .version => ({ code := 0, output := versionLine }, t)
  | .help => ({ code := 0, remark := usage }, t)
  | .build options =>
    match settings? options with
    | none => (.refusal, t)
    | some (.error e) => (.ofResult (.error e), t)
    | some (.ok s) =>
      let (result, t) := s.run.run t
      (.ofResult result, t)

/-- Runs the program. -/
def run (arguments : List String) (t : FileTree) : Answer × FileTree :=
  match read arguments with
  | none => (.refusal, t)
  | some request => answer request t

/-- The settings of the build that arguments ask for, if they ask for one that can be started. -/
def requestedSettings? (arguments : List String) : Option Settings :=
  match read arguments with
  | some (.build options) => (settings? options).bind Except.toOption
  | _ => none

end RoutingData.CommandLine
