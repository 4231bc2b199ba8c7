import RoutingData.Text.Digit
import RoutingData.Text.Pieces

/-!
# Sets of code points

A set of code points is a list of closed ranges. `CodeSet.ofRanges` sorts the ranges and joins those
that overlap or touch, so a set built by the operations of this module has one form: ascending
ranges with a gap between any two.
-/

namespace RoutingData.Unicode

/-- A set of code points, given by closed ranges. -/
structure CodeSet where
  /-- Closed ranges, first code point and last. -/
  ranges : List (Nat × Nat)
  deriving DecidableEq, Inhabited

/-- The largest code point. -/
def maxCode : Nat := 0x10FFFF

namespace CodeSet

/-- The set without members. -/
def empty : CodeSet := ⟨[]⟩

/-- Every code point. -/
def full : CodeSet := ⟨[(0, maxCode)]⟩

/-- Joins a range to ranges that start no earlier; what it overlaps or touches is absorbed. -/
def joinRange (r : Nat × Nat) : List (Nat × Nat) → List (Nat × Nat)
  | [] => [r]
  | s :: rest => if s.1 ≤ r.2 + 1 then joinRange (r.1, max r.2 s.2) rest else r :: s :: rest

/-- The set of the members of some ranges. -/
def ofRanges (ranges : List (Nat × Nat)) : CodeSet :=
  ⟨(ranges.mergeSort fun a b => a.1 ≤ b.1).foldr joinRange []⟩

/-- The set with one member. -/
def singleton (c : Nat) : CodeSet := ⟨[(c, c)]⟩

/-- The set of the code points from `first` to `last`. -/
def interval (first last : Nat) : CodeSet := ⟨[(first, last)]⟩

/-- Whether `c` is a member. -/
def contains (s : CodeSet) (c : Nat) : Bool := s.ranges.any fun r => r.1 ≤ c && c ≤ r.2

/-- The members of either set. -/
def union (s t : CodeSet) : CodeSet := ofRanges (s.ranges ++ t.ranges)

/-- The gaps from `first` on between ascending ranges. -/
def gapsFrom (first : Nat) : List (Nat × Nat) → List (Nat × Nat)
  | [] => if first ≤ maxCode then [(first, maxCode)] else []
  | r :: rest =>
    if first < r.1 then (first, r.1 - 1) :: gapsFrom (r.2 + 1) rest else gapsFrom (r.2 + 1) rest

/-- The code points that are not members. -/
def complement (s : CodeSet) : CodeSet := ⟨gapsFrom 0 (ofRanges s.ranges).ranges⟩

/-- The members of both sets. -/
def inter (s t : CodeSet) : CodeSet := (s.complement.union t.complement).complement

/-- The members of the first set that are not in the second. -/
def sdiff (s t : CodeSet) : CodeSet := s.inter t.complement

/-- The members of exactly one of the sets. -/
def symmDiff (s t : CodeSet) : CodeSet := (s.sdiff t).union (t.sdiff s)

/-- Whether every member is below 128. -/
def isAscii (s : CodeSet) : Bool := s.ranges.all fun r => r.2 < 0x80

/-- Reads a range written in hexadecimal, `41-5A` or `AA`. -/
def readRange (word : List Char) : Nat × Nat :=
  match Text.cut? '-' word with
  | some (first, last) => (Text.number 16 first, Text.number 16 last)
  | none => (Text.number 16 word, Text.number 16 word)

/-- The set written as ascending hexadecimal ranges with blanks between them. -/
def ofHex (text : String) : CodeSet := ⟨(Text.words text.toList).map readRange⟩

end CodeSet

end RoutingData.Unicode
