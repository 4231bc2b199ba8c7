import RoutingData.Text.Pieces

/-!
# Comments

A number sign starts a comment, which lasts to the end of the line.
-/

namespace RoutingData.Text

/-- A line without its comment and the blanks around the rest. -/
def stripComment (line : List Char) : List Char :=
  trimChars (line.takeWhile (· != '#'))

/-- The lines that hold more than blanks and a comment, without these, each with its number in the
text; the first line has number one. -/
def meaningfulLines (text : String) : List (Nat × List Char) :=
  (((lines text).map stripComment).zipIdx 1).filterMap fun (line, number) =>
    if line.isEmpty then none else some (number, line)

end RoutingData.Text
