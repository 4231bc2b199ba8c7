import RoutingData.Text.CaseTable
import RoutingData.Unicode.Property

/-!
# Letter case

Full case mapping of texts. Every character is mapped by itself, with one exception: a capital sigma
becomes a final sigma at the end of a word.
-/

namespace RoutingData.Text

/-- The image of a code point under the first run that contains it, or under the expansions. -/
def mapCase (runs : List CaseRun) (expansions : List (Nat × List Nat)) (c : Nat) : List Nat :=
  match runs.findSome? (·.image? c) with
  | some d => [d]
  | none => (expansions.lookup c).getD [c]

/-- The lower-case form of a character standing alone. -/
def lowerChar (c : Char) : List Char :=
  if c.toNat < 0x80 then [c.toLower] else (mapCase lowerRuns lowerExpansions c.toNat).map Char.ofNat

/-- The upper-case form of a character. -/
def upperChar (c : Char) : List Char :=
  if c.toNat < 0x80 then [c.toUpper] else (mapCase upperRuns upperExpansions c.toNat).map Char.ofNat

/-- Characters that have letter case. -/
def casedCodes : Unicode.CodeSet := Unicode.binaryProperty "Cased"

/-- Characters that are skipped when the context of a letter is looked at. -/
def caseIgnorableCodes : Unicode.CodeSet := Unicode.binaryProperty "Case_Ignorable"

/-- Whether the first character that is not skipped has letter case. -/
def startsCased (cs : List Char) : Bool :=
  match cs.dropWhile fun c => caseIgnorableCodes.contains c.toNat with
  | [] => false
  | c :: _ => casedCodes.contains c.toNat

/-- The capital sigma. -/
def capitalSigma : Char := 'Σ'

/-- The lower-case form of a capital sigma: final when a letter comes before it, given backwards,
and none after it. -/
def lowerSigma (before after : List Char) : Char :=
  if startsCased before && !startsCased after then 'ς' else 'σ'

/-- The lower-case form of a text, given the characters before it, backwards. -/
def lowerFrom (before : List Char) : List Char → List Char
  | [] => []
  | c :: cs =>
    (if c = capitalSigma then [lowerSigma before cs] else lowerChar c) ++ lowerFrom (c :: before) cs

/-- The lower-case form of a text. -/
def lowerChars (cs : List Char) : List Char := lowerFrom [] cs

/-- The lower-case form of a text. -/
def lower (s : String) : String := .ofList (lowerChars s.toList)

/-- The upper-case form of a text. -/
def upperChars (cs : List Char) : List Char := cs.flatMap upperChar

/-- The upper-case form of a text. -/
def upper (s : String) : String := .ofList (upperChars s.toList)

end RoutingData.Text
