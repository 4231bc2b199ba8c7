import RoutingData.Text.Blank

/-!
# Pieces of a text

Splitting at separators. A text with `n` separators has `n + 1` pieces, so there is always a first
one, and `pieces` returns it apart from the others. Lines and words are pieces under further rules.
-/

namespace RoutingData.Text

/-- The piece before the first separator, and the pieces after it. -/
def pieces (isSeparator : Char → Bool) (cs : List Char) : List Char × List (List Char) :=
  cs.foldr
    (fun c p => if isSeparator c then ([], p.1 :: p.2) else (c :: p.1, p.2))
    ([], [])

/-- All pieces between separators, in order. -/
def allPieces (isSeparator : Char → Bool) (cs : List Char) : List (List Char) :=
  (pieces isSeparator cs).1 :: (pieces isSeparator cs).2

/-- The pieces of a text between occurrences of one character. -/
def splitAt (separator : Char) (s : String) : List String :=
  (allPieces (· == separator) s.toList).map .ofList

/-- The text before the first occurrence of a character and the text after it. -/
def cut? (separator : Char) (cs : List Char) : Option (List Char × List Char) :=
  match cs.dropWhile (· != separator) with
  | [] => none
  | _ :: rest => some (cs.takeWhile (· != separator), rest)

/-- The words of a text, which blanks separate. -/
def words (cs : List Char) : List (List Char) :=
  (allPieces isBlank cs).filter (!·.isEmpty)

/-- The text without a given head, if it starts with it. -/
def stripHead? (head : List Char) (cs : List Char) : Option (List Char) :=
  if head.isPrefixOf cs then some (cs.drop head.length) else none

/-- The text without one carriage return at its end. -/
def dropReturn (cs : List Char) : List Char :=
  match cs.reverse with
  | '\r' :: rest => rest.reverse
  | _ => cs

/-- The lines of a text. A line ends at a line feed, and one carriage return before it belongs to
the ending; text after the last line feed is a line of its own. -/
def lines (s : String) : List (List Char) :=
  let ps := allPieces (· == '\n') s.toList
  ps.dropLast.map dropReturn ++ (ps.getLast?.filter (!·.isEmpty)).toList

end RoutingData.Text
