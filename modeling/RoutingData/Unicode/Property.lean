import RoutingData.Unicode.Age
import RoutingData.Unicode.BinaryProperty
import RoutingData.Unicode.Category
import RoutingData.Unicode.Script
import RoutingData.Unicode.ScriptExtensions
import RoutingData.Unicode.Segmentation

/-!
# Properties by name

Finds the code points that a property query names. A query is a bare name (a binary property, a
general category or a script, in this order) or a property with one of its values.
-/

namespace RoutingData.Unicode

/-- The union of named sets. -/
def unionOf (sets : List NamedSet) : CodeSet :=
  .ofRanges (sets.flatMap fun s => s.codes.ranges)

/-- The general category, or group of categories, with the given loose name. -/
def findCategory? (loose : List Char) : Option CodeSet :=
  if loose = "any".toList then some .full
  else if loose = "ascii".toList then some (.interval 0 0x7F)
  else if loose = "assigned".toList then
    (findNamed? categories "cn".toList).map fun s => s.codes.complement
  else
    match findNamed? categories loose with
    | some s => some s.codes
    | none =>
      (categoryGroups.find? fun g => isNamed g.names loose).map fun g =>
        unionOf (categories.filter fun s => s.names.head?.any g.members.contains)

/-- The script with the given loose name. -/
def findScript? (loose : List Char) : Option CodeSet :=
  (findNamed? scripts loose).map NamedSet.codes

/-- The extended set of the script with the given loose name. -/
def findScriptExtensions? (loose : List Char) : Option CodeSet := do
  let script ← findNamed? scripts loose
  let same (s : NamedSet) : Bool := s.names.head? == script.names.head?
  match scriptReplacements.find? same with
  | some s => return s.codes
  | none => return unionOf (script :: (scriptAdditions.filter same))

/-- The code points assigned in the version with the given loose name or before it. -/
def findAge? (loose : List Char) : Option CodeSet :=
  let earlier := ages.takeWhile fun s => !isNamed s.names loose
  (findNamed? ages loose).map fun s => unionOf (earlier ++ [s])

/-- The code points that a bare name stands for. Three abbreviations are both a category and a
property without a set of its own; the category is meant. -/
def findByName? (name : List Char) : Option CodeSet :=
  let loose := looseName (.ofList name)
  match findNamed? binaryProperties loose with
  | some s => some s.codes
  | none => (findCategory? loose).or (findScript? loose)

/-- The code points for which a property has a value. -/
def findByValue? (property value : List Char) : Option CodeSet :=
  let loose := looseName (.ofList property)
  let value := looseName (.ofList value)
  if isNamed ["gc", "General_Category"] loose then findCategory? value
  else if isNamed ["sc", "Script"] loose then findScript? value
  else if isNamed ["scx", "Script_Extensions"] loose then findScriptExtensions? value
  else if isNamed ["age"] loose then findAge? value
  else if isNamed ["GCB", "Grapheme_Cluster_Break"] loose then
    (findNamed? graphemeBreaks value).map NamedSet.codes
  else if isNamed ["WB", "Word_Break"] loose then
    (findNamed? wordBreaks value).map NamedSet.codes
  else if isNamed ["SB", "Sentence_Break"] loose then
    (findNamed? sentenceBreaks value).map NamedSet.codes
  else none

/-- The binary property with the given long name, the empty set when there is none. -/
def binaryProperty (name : String) : CodeSet :=
  ((binaryProperties.find? fun s => s.names.head? == some name).map NamedSet.codes).getD .empty

/-- The general category with the given short name, the empty set when there is none. -/
def category (name : String) : CodeSet :=
  ((categories.find? fun s => s.names.head? == some name).map NamedSet.codes).getD .empty

/-- Letters and other characters that count as letters. -/
def alphabetic : CodeSet := binaryProperty "Alphabetic"

/-- Characters of the three number categories. -/
def numeric : CodeSet := ((category "Nd").union (category "Nl")).union (category "No")

end RoutingData.Unicode
