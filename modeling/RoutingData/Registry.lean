import RoutingData.DomainList

/-!
# Registries of lists

All domain lists of a build, by name. `levels` puts every list after the lists it includes, and
`resolve` flattens the lists in that order.
-/

namespace RoutingData

/-- Lists under their names. -/
abbrev Registry := Table String DomainList

/-- Which attributes are left out of the export of each list. -/
abbrev Exclusions := Table String AttributeSet

namespace Registry

/-- Adds a list, in place of one with the same name. -/
def add (r : Registry) (l : DomainList) : Registry := r.insert l.name l

/-! ### Levels -/

/-- A list that has no level yet. -/
structure Pending where
  /-- The name of the list. -/
  name : String
  /-- The lists that it includes. -/
  targets : List String
  /-- How many of the targets have no level yet. -/
  missing : Nat
  deriving DecidableEq, Repr

/-- The list once the lists of a level are placed. -/
def Pending.afterLevel (p : Pending) (level : List String) : Pending :=
  { p with missing := p.missing - (p.targets.filter level.contains).length }

/-- The lists whose targets all have a level. -/
def ready (ps : List Pending) : List String := (ps.filter (·.missing == 0)).map (·.name)

/-- The other lists, once those that are ready are placed. -/
def waiting (ps : List Pending) : List Pending :=
  (ps.filter (·.missing != 0)).map (·.afterLevel (ready ps))

/-- While a list is ready, fewer lists wait. -/
theorem length_waiting_lt {ps : List Pending} (h : ready ps ≠ []) :
    (waiting ps).length < ps.length := by
  have hex : ∃ p ∈ ps, p.missing = 0 := by
    apply Classical.byContradiction
    intro hno
    apply h
    simp only [ready, List.map_eq_nil_iff, List.filter_eq_nil_iff, beq_iff_eq]
    exact fun p hp hm => hno ⟨p, hp, hm⟩
  obtain ⟨p, hp, hm⟩ := hex
  simp only [waiting, List.length_map]
  exact List.length_filter_lt_length_iff_exists.2 ⟨p, hp, by simp [hm]⟩

/-- Places lists level by level until none is ready; returns the levels and the lists left over. -/
def place (ps : List Pending) : List (List String) × List Pending :=
  if _h : ready ps = [] then ([], ps)
  else
    let r := place (waiting ps)
    (ready ps :: r.1, r.2)
termination_by ps.length
decreasing_by exact length_waiting_lt _h

/-- The first list, by name, that includes an unknown one, with the first such target. -/
def unknownTarget? (r : Registry) : Option (String × String) :=
  r.values.findSome? fun l => (l.targets.find? (!r.contains ·)).map (l.name, ·)

/-- The lists level by level, each list one level after the last of those it includes. -/
def levels (r : Registry) : Except BuildError (List (List String)) :=
  match r.unknownTarget? with
  | some (list, target) => .error (.unknownInclude list target)
  | none =>
    let (levels, stuck) := place (r.values.map fun l => ⟨l.name, l.targets, l.targets.length⟩)
    if stuck.isEmpty then .ok levels else .error (.inclusionCycle (stuck.map (·.name)))

/-! ### Resolution -/

/-- Flattens one list against the others and finds its covering domain rules. What the failed steps
changed stays changed. -/
def resolveList (r : Registry) (name : String) : Except BuildError Unit × Registry :=
  match r.get? name with
  | none => (.ok (), r)
  | some l =>
    let others := r.erase name
    match l.flatten others.get? with
    | (.error e, l) => (.error e, others.insert name l)
    | (.ok (), l) =>
      let (result, l) := l.dedupDomains
      (result, others.insert name l)

/-- Resolves lists one after the other, up to the first failure. -/
def resolveEach : List String → Registry → Except BuildError Unit × Registry
  | [], r => (.ok (), r)
  | name :: rest, r =>
    match r.resolveList name with
    | (.error e, r) => (.error e, r)
    | (.ok (), r) => resolveEach rest r

/-- Resolves every list, level by level. -/
def resolve (r : Registry) : Except BuildError Unit × Registry :=
  match r.levels with
  | .error e => (.error e, r)
  | .ok levels => resolveEach levels.flatten r

/-- The rules to export for each list, by name. -/
def exportedRules (r : Registry) (excluded : Exclusions) : List (String × List Rule) :=
  r.values.map fun l => (l.name, l.toRules ((excluded.get? l.name).getD ∅))

end Registry

end RoutingData
