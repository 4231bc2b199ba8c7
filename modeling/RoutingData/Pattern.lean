import RoutingData.Pattern.Footprint
import RoutingData.Pattern.Parser

/-!
# Regular expressions

Whether a text is a regular expression that can be used: its notation is well formed and not nested
too deep, every property in it exists, it matches text only, and its automata are not too large.
-/

namespace RoutingData.Pattern

/-- How deep the notation may be nested. -/
def maxDepth : Nat := 250

/-- Whether a text is a usable regular expression. -/
def isValid (text : String) : Bool :=
  match Tree.parse? text.toList with
  | none => false
  | some tree =>
    tree.depth ≤ maxDepth &&
      match tree.elaborate {} with
      | none => false
      | some (e, _) => e.isSmall

end RoutingData.Pattern
