import RoutingData.Registry

/-!
# Exclusions

Which attributes are left out of the export of which list, as a text such as `cn@ads,gfw@cn@ads`:
items between commas, each a list and its attributes with an at sign before each attribute. Blanks
around the parts, empty items and empty attributes mean nothing.
-/

namespace RoutingData.Exclusions

/-- Reads an item: the list, in upper case, and its attributes, in lower case. -/
def parseItem (item : String) : Except BuildError (String × List String) :=
  let (first, more) := Text.pieces (· == '@') item.toList
  let list := Text.upperChars (Text.trimChars first)
  let attributes := (more.map fun p => Text.lowerChars (Text.trimChars p)).filter (!·.isEmpty)
  if list.isEmpty then .error (.settings (.missingListName item))
  else if attributes.isEmpty then .error (.settings (.noAttributes item))
  else .ok (.ofList list, attributes.map .ofList)

/-- The exclusions with attributes added for a list. -/
def extend (e : Exclusions) (item : String × List String) : Exclusions :=
  e.upsert item.1 fun old => item.2.foldl (fun set a => set.insert a ()) (old.getD ∅)

/-- Reads exclusions. The first item that cannot be read is the failure. -/
def parse (text : String) : Except BuildError Exclusions := do
  let items := ((Text.splitAt ',' text).map Text.trim).filter (· ≠ "")
  return (← items.mapM parseItem).foldl extend ∅

end RoutingData.Exclusions
