import RoutingData.BuildError
import RoutingData.Pattern

/-!
# Lines of list files

A line of a list file, without its comment, is an inclusion of another list or a rule.
-/

namespace RoutingData

/-- What a line of a list file says. -/
inductive ListLine where
  /-- Rules of another list belong to this one too. -/
  | inclusion (target : String) (filters : List Filter)
  /-- A rule of the list. -/
  | rule (r : Rule)
  deriving DecidableEq, Repr

namespace ListLine

/-- The word that starts an inclusion. -/
def inclusionWord : String := "include:"

/-- Reads what follows the word of an inclusion: the target, then attributes, each after an at sign.
Without attributes every rule is asked for. -/
def parseInclusion (cs : List Char) : Except LineFault ListLine :=
  let (first, more) := Text.pieces (· == '@') cs
  let target := Text.upperChars (Text.trimChars first)
  if target.isEmpty then .error .emptyTarget
  else
    let keys := (more.map fun p => Text.lowerChars (Text.trimChars p)).filter (!·.isEmpty)
    let filters := keys.map fun k => Filter.attribute (.ofList k)
    .ok (.inclusion (.ofList target) (if filters.isEmpty then [.all] else filters))

/-- Reads the first word of a rule: a kind and a value with a colon between, or the value of a
domain rule alone. -/
def parseHead (head : List Char) : Except LineFault (RuleKind × String) :=
  match Text.cut? ':' head with
  | none => .ok (.domain, .ofList head)
  | some (word, value) =>
    match RuleKind.ofWord? (Text.trim (.ofList word)) with
    | none => .error (.unknownKind (.ofList word))
    | some kind => .ok (kind, Text.trim (.ofList value))

/-- Checks the value of a rule. An empty keyword is let through, since it is never exported. -/
def checkValue (kind : RuleKind) (value : String) : Except LineFault Unit :=
  if value.isEmpty && kind != .keyword then .error (.emptyValue kind)
  else if kind = .regex && !Pattern.isValid value then .error (.invalidPattern value)
  else .ok ()

/-- Reads a word after the value, which is an attribute after an at sign. -/
def parseAttribute (word : List Char) : Except LineFault String :=
  match word with
  | ['@'] => .error (.emptyAttribute (.ofList word))
  | '@' :: key => .ok (.ofList key)
  | _ => .error (.invalidAttribute (.ofList word))

/-- Reads a rule: its first word, and attributes after it. -/
def parseRule (cs : List Char) : Except LineFault ListLine :=
  match Text.words cs with
  | [] => .error .emptyRule
  | head :: rest => do
    let (kind, value) ← parseHead head
    checkValue kind value
    let keys ← rest.mapM parseAttribute
    return .rule ((Rule.plain kind value).withAttributes keys)

/-- Reads a line that has no comment and is not blank. -/
def parse (line : List Char) : Except LineFault ListLine :=
  match Text.stripHead? inclusionWord.toList line with
  | some rest => parseInclusion rest
  | none => parseRule line

/-- Reads a line of a file; the number of the line is for the failure. -/
def parseAt (file : String) (number : Nat) (line : List Char) : Except BuildError ListLine :=
  (parse line).mapError (.line file number)

end ListLine

end RoutingData
