import RoutingData.CoverSet
import RoutingData.ListLine
import RoutingData.Table
import RoutingData.Text.Comment

/-!
# Domain lists

A named list of rules, kept in one sequence for each kind of rule without attributes and one
sequence for the rules with attributes, which are also grouped by their attributes. A list remembers
which other lists it includes; `flatten` adds the rules of those lists, and `dedupDomains` then
finds the domain rules that cover all others.
-/

namespace RoutingData

/-- A named list of rules. -/
structure DomainList where
  /-- The name, in upper case. -/
  name : String
  /-- Whether an inclusion was ever added. -/
  hasInclusion : Bool := false
  /-- For each included list, which of its rules are asked for. -/
  inclusions : Table String (List Filter) := ∅
  /-- Rules without attributes that match whole hosts. -/
  full : List Rule := []
  /-- Rules without attributes that match parts of hosts. -/
  keyword : List Rule := []
  /-- Rules without attributes that are regular expressions. -/
  regex : List Rule := []
  /-- Rules without attributes that match domains. -/
  domain : List Rule := []
  /-- The domain rules that cover all of `domain`. -/
  uniqueDomain : List Rule := []
  /-- All rules with attributes. -/
  attributeRules : List Rule := []
  /-- The rules with attributes, grouped by their attributes in order. -/
  attributeGroups : Table String (List Rule) := ∅
  deriving DecidableEq

/-- A set of attributes. -/
abbrev AttributeSet := Table String Unit

namespace DomainList

/-- The list without rules; its name is folded to upper case. -/
def named (name : String) : DomainList := { name := Text.upper name }

/-- Adds filters that are not there yet. -/
def addFilters (old new : List Filter) : List Filter :=
  new.foldl (fun fs f => if fs.contains f then fs else fs ++ [f]) old

/-- Records an inclusion. Filters for one target accumulate. -/
def addInclusion (l : DomainList) (target : String) (filters : List Filter) : DomainList :=
  { l with
    hasInclusion := true
    inclusions := l.inclusions.upsert (Text.upper target) fun old =>
      addFilters (old.getD []) filters }

/-- Adds rules to the group under a key. -/
def extendGroup (groups : Table String (List Rule)) (key : String) (rules : List Rule) :
    Table String (List Rule) :=
  groups.upsert key fun old => old.getD [] ++ rules

/-- Adds a rule after those of its kind, or, if it has attributes, after the other rules that do. -/
def addRule (l : DomainList) (r : Rule) : DomainList :=
  if r.hasAttributes then
    { l with
      attributeRules := l.attributeRules ++ [r]
      attributeGroups := extendGroup l.attributeGroups r.groupKey [r] }
  else
    match r.kind with
    | .full => { l with full := l.full ++ [r] }
    | .domain => { l with domain := l.domain ++ [r] }
    | .keyword => { l with keyword := l.keyword ++ [r] }
    | .regex => { l with regex := l.regex ++ [r] }

/-- The names of the included lists, ascending. -/
def targets (l : DomainList) : List String := l.inclusions.keys

/-! ### Reading -/

/-- Adds what a line states. -/
def addLine (l : DomainList) : ListLine → DomainList
  | .inclusion target filters => l.addInclusion target filters
  | .rule r => l.addRule r

/-- Reads a list line by line. The first line that is refused decides the failure, which names
`file`. -/
def parseFrom (file name text : String) : Except BuildError DomainList :=
  (Text.meaningfulLines text).foldlM
    (fun l (number, line) => return l.addLine (← ListLine.parseAt file number line)) (named name)

/-- Reads a list that is named like the file. -/
def parse (name text : String) : Except BuildError DomainList := parseFrom name name text

/-! ### Inclusion -/

/-- Adds every rule of an included list. -/
def mergeAll (l included : DomainList) : DomainList :=
  { l with
    full := l.full ++ included.full
    keyword := l.keyword ++ included.keyword
    regex := l.regex ++ included.regex
    domain := l.domain ++ included.domain
    attributeRules := l.attributeRules ++ included.attributeRules
    attributeGroups := included.attributeGroups.entries.foldl (fun g e => extendGroup g e.1 e.2)
      l.attributeGroups }

/-- The attributes in a group key. -/
def keyAttributes (key : String) : List String :=
  (Text.splitAt '@' key).filter (!·.isEmpty)

/-- Adds the groups of an included list that have one of the wanted attributes. -/
def mergeAttributes (l included : DomainList) (wanted : List String) : DomainList :=
  let selected := included.attributeGroups.entries.filter fun e =>
    (keyAttributes e.1).any wanted.contains
  { l with
    attributeRules := l.attributeRules ++ selected.flatMap (·.2)
    attributeGroups := selected.foldl (fun g e => extendGroup g e.1 e.2) l.attributeGroups }

/-- The attributes that filters ask for. -/
def wantedAttributes (filters : List Filter) : List String :=
  filters.filterMap fun
    | .attribute key => some key
    | .all => none

/-- Adds the rules of an included list that filters ask for. -/
def merge (l included : DomainList) (filters : List Filter) : DomainList :=
  if filters.contains .all then l.mergeAll included
  else l.mergeAttributes included (wantedAttributes filters)

/-- Adds the rules of included lists one after the other, up to the first that is unknown. -/
def mergeEach (lookup : String → Option DomainList) :
    List (String × List Filter) → DomainList → Except BuildError Unit × DomainList
  | [], l => (.ok (), l)
  | (target, filters) :: rest, l =>
    match lookup target with
    | none => (.error (.unknownInclude l.name target), l)
    | some included => mergeEach lookup rest (l.merge included filters)

/-- Adds the rules that the inclusions ask for. When an included list is unknown, the rules of those
before it stay added and the inclusions are gone. -/
def flatten (lookup : String → Option DomainList) (l : DomainList) :
    Except BuildError Unit × DomainList :=
  match mergeEach lookup l.inclusions.entries { l with inclusions := ∅ } with
  | (.ok (), merged) => (.ok (), { merged with inclusions := l.inclusions })
  | (.error e, merged) => (.error e, merged)

/-! ### Covering rules -/

/-- Keeps a rule unless an earlier one covers it; fails when it has no value. The rules kept so far
stand last one first. -/
def keepCovering? (state : CoverSet × List Rule) (r : Rule) : Option (CoverSet × List Rule) :=
  (state.1.insertDomain? r.value).map fun
    | (true, covered) => (covered, r :: state.2)
    | (false, covered) => (covered, state.2)

/-- The rules that no earlier one covers, or `none` when one has no value. -/
def coveringRules? (rules : List Rule) : Option (List Rule) :=
  (rules.foldlM keepCovering? (∅, [])).map (·.2.reverse)

/-- The rules with the most general domains first; equally general ones keep their order. -/
def sortByGenerality (rules : List Rule) : List Rule :=
  rules.mergeSort fun a b => a.labelCount ≤ b.labelCount

/-- Sorts the domain rules by generality and finds those that cover all. -/
def dedupDomains (l : DomainList) : Except BuildError Unit × DomainList :=
  let sorted := { l with domain := sortByGenerality l.domain }
  match coveringRules? sorted.domain with
  | none => (.error (.emptyDomain l.name), sorted)
  | some unique => (.ok (), { sorted with uniqueDomain := unique })

/-! ### Export -/

/-- The rules to export: whole hosts, covering domains, regular expressions, keywords that are not
blank, and the rules with attributes none of which is excluded. -/
def toRules (l : DomainList) (excluded : AttributeSet) : List Rule :=
  l.full ++ l.uniqueDomain ++ l.regex ++ l.keyword.filter (fun r => !Text.isBlankText r.value) ++
    l.attributeRules.filter fun r => !r.attributes.any excluded.contains

end DomainList

end RoutingData
