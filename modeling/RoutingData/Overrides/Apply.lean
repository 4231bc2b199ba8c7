import RoutingData.FileTree.Action
import RoutingData.Overrides
import RoutingData.RuleText
import RoutingData.Settings

/-!
# Applying overrides

Overrides change the two rule files in place. A rule file that is edited at all is written anew,
with its trimmed lines only.
-/

namespace RoutingData

/-- Changes the text of a file. -/
def FileAction.edit (path : String) (change : String → String) : FileAction Unit := do
  let text ← FileAction.look (·.textOf path)
  FileAction.write path (.ofText (change text))

/-- Adds lines to a rule file. -/
def FileAction.addLines (path : String) (lines : List String) : FileAction Unit :=
  FileAction.edit path (RuleText.addLines lines)

/-- Removes lines from a rule file. -/
def FileAction.removeLines (path : String) (lines : List String) : FileAction Unit :=
  FileAction.edit path (RuleText.removeLines lines)

/-- Applies edits to a rule file: first what is added, then what is removed. -/
def LineEdits.apply (edits : LineEdits) (path : String) : FileAction Unit := do
  FileAction.addLines path edits.add
  FileAction.removeLines path edits.remove

namespace Overrides

/-- Applies overrides to the file of direct rules, then to that of proxy rules. -/
def apply (o : Overrides) (directPath proxyPath : String) : FileAction Unit := do
  o.direct.apply directPath
  o.proxy.apply proxyPath

/-- The overrides in a file, if there is such a file. -/
def load? (t : FileTree) (path : String) : Except BuildError (Option Overrides) := do
  if t.exists? path then return some (← parse (← t.textOf path)) else return none

end Overrides

/-- Applies the overrides that the settings name, if there are any. -/
def Settings.applyOverrides (s : Settings) : FileAction Unit := do
  match ← FileAction.look (Overrides.load? · s.overridesPath) with
  | some o => o.apply s.directPath s.proxyPath
  | none => return

end RoutingData
