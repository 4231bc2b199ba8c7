import RoutingData.Text.Pieces

/-!
# Lines of a rule file

A rule file is a text of lines. Editing one keeps its trimmed lines that are not blank, each with a
line feed after it.
-/

namespace RoutingData.RuleText

/-- The trimmed lines of a text that are not blank. -/
def readLines (text : String) : List String :=
  (((Text.lines text).map Text.trimChars).filter (!·.isEmpty)).map .ofList

/-- The text with a line feed after each line. -/
def ofLines (lines : List String) : String := String.join (lines.map fun line => line.push '\n')

/-- The text with lines added at its end. -/
def addLines (lines : List String) (text : String) : String := ofLines (readLines text ++ lines)

/-- The text without the lines that equal one of some lines. -/
def removeLines (lines : List String) (text : String) : String :=
  ofLines ((readLines text).filter fun line => !lines.contains line)

end RoutingData.RuleText
