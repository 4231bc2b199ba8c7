import RoutingData.Text.CaseTable
import RoutingData.Unicode.CodeSet

/-!
# Case folding of sets

Adds to a set of code points everything that differs from a member by letter case alone.
-/

namespace RoutingData.Unicode

/-- The run that leads back. -/
def inverseRun (r : Text.CaseRun) : Text.CaseRun :=
  ⟨r.target, r.target + (r.last - r.first), r.stride, r.first⟩

/-- What a run makes of the members of a range. -/
def imageRange (run : Text.CaseRun) (r : Nat × Nat) : List (Nat × Nat) :=
  let lo := max run.first r.1
  let hi := min run.last r.2
  if hi < lo then []
  else if run.stride = 1 then [(run.target + (lo - run.first), run.target + (hi - run.first))]
  else
    (List.range (hi - lo + 1)).filterMap fun i =>
      (run.image? (lo + i)).map fun d => (d, d)

/-- The dotless i, whose capital is that of another letter. -/
def dotlessI : Nat := 0x131

/-- The runs that relate the letter cases, in both directions. -/
def caseRelations : List Text.CaseRun :=
  let runs := (Text.lowerRuns ++ Text.upperRuns).filter (·.first != dotlessI)
  runs ++ runs.map inverseRun

/-- A set with the direct relatives of its members. -/
def addRelatives (s : CodeSet) : CodeSet :=
  .ofRanges (s.ranges ++ s.ranges.flatMap fun r => caseRelations.flatMap (imageRange · r))

/-- A set closed under differences of letter case; no two relatives are more than three steps
apart. -/
def CodeSet.foldCase (s : CodeSet) : CodeSet := addRelatives (addRelatives (addRelatives s))

end RoutingData.Unicode
