import RoutingData.BuildError
import RoutingData.Toml.Document

/-!
# Overrides

Changes that a user wants made to two rule files before a build, and how an override file describes
them:

    [direct]
    add = ["domain:example.cn"]
    remove = ["cn.example.com"]

    [proxy]
    add = ["full:example.org"]

Everything may be left out, and keys that mean nothing here are passed over.
-/

namespace RoutingData

/-- Lines to add to a rule file and lines to remove from it afterwards. -/
structure LineEdits where
  /-- The lines to add. -/
  add : List String := []
  /-- The lines to remove. -/
  remove : List String := []
  deriving DecidableEq, Repr

/-- The edits of the two rule files. -/
structure Overrides where
  /-- The edits of the file of direct rules. -/
  direct : LineEdits := {}
  /-- The edits of the file of proxy rules. -/
  proxy : LineEdits := {}
  deriving DecidableEq, Repr

namespace LineEdits

/-- The lines that a value lists; none if there is no value. -/
def linesOf? : Option Toml.Item → Option (List String)
  | none => some []
  | some (.array items) => items.mapM fun
    | .text s => some s
    | _ => none
  | some _ => none

/-- The edits that a value describes: a table with the keys `add` and `remove`, or a sequence with
the two in this order. A date has neither. -/
def ofItem? : Option Toml.Item → Option LineEdits
  | none | some .moment => some {}
  | some (.table _ entries) => do
    let add ← linesOf? (entries.lookup "add")
    let remove ← linesOf? (entries.lookup "remove")
    return { add, remove }
  | some (.array items) => do
    let add ← linesOf? items[0]?
    let remove ← linesOf? items[1]?
    return { add, remove }
  | some _ => none

end LineEdits

namespace Overrides

/-- The overrides that a document describes. -/
def ofEntries? (entries : Toml.Entries) : Option Overrides := do
  let direct ← LineEdits.ofItem? (entries.lookup "direct")
  let proxy ← LineEdits.ofItem? (entries.lookup "proxy")
  return { direct, proxy }

/-- Reads an override file. -/
def parse (text : String) : Except BuildError Overrides :=
  match (Toml.parse? text).bind ofEntries? with
  | some overrides => .ok overrides
  | none => .error (.settings .malformedOverrides)

end Overrides

end RoutingData
