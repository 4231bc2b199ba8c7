import RoutingData.Proofs.Bytes
import RoutingData.Proofs.Inclusion.Levels

/-!
# Why a registry has no levels

A registry without levels includes a list that does not exist, or has a cycle. The failure names
the first list with an unknown target and its first unknown target, by name
(`unknownTarget?_eq_some_iff`). Otherwise it names the lists that are left over when no list is
ready, and these are the lists from which following inclusions can lead to a cycle
(`Placement.mem_stuck_iff`): a list that is left over includes another one that is, and a list that
reaches a cycle never has all its inclusions placed.
-/

namespace RoutingData.Registry

open Relation

variable {r : Registry} {placed stuck : List String} {a b : String} {k : ℕ}
  {outcome : List (List String) × List Pending}

/-! ### Unknown lists -/

/-- In an ascending list a search finds the least member with the property. -/
theorem isLeast_of_find? {xs : List String} {p : String → Bool} (hxs : xs.Pairwise (· < ·))
    (h : xs.find? p = some a) : IsLeast {x | x ∈ xs ∧ p x = true} a := by
  obtain ⟨hp, before, after, rfl, hbefore⟩ := List.find?_eq_some_iff_append.1 h
  refine ⟨⟨by simp, hp⟩, fun x hx => ?_⟩
  obtain ⟨-, hafter, -⟩ := List.pairwise_append.1 hxs
  rcases List.mem_append.1 hx.1 with hmem | hmem
  · have hnot := hbefore x hmem
    rw [hx.2] at hnot
    cases hnot
  · rcases List.mem_cons.1 hmem with rfl | hmem
    · exact le_refl _
    · exact le_of_lt ((List.pairwise_cons.1 hafter).1 x hmem)

/-- The first unknown target of a list is its least. -/
theorem isLeast_of_find?_targets {l : DomainList} (hl : r.get? a = some l)
    (h : l.targets.find? (!r.contains ·) = some b) :
    IsLeast {b | r.Includes a b ∧ b ∉ r.keys} b := by
  have htargets : l.targets.Pairwise (· < ·) :=
    l.inclusions.keys_ascending.imp compareOfLessAndEq_eq_lt.1
  have hset : {b | r.Includes a b ∧ b ∉ r.keys} =
      {b | b ∈ l.targets ∧ (!r.contains b) = true} := by
    ext b
    rw [Set.mem_ofPred_eq, Set.mem_ofPred_eq, includes_iff_mem_targets hl, Table.mem_keys_iff,
      ← Table.contains_iff, Bool.not_eq_true', Bool.not_eq_true]
  rw [hset]
  exact isLeast_of_find? htargets h

/-- The unknown target that is found is the least of the least list that has one. -/
theorem isLeast_of_unknownTarget? (hr : r.Keyed) (h : r.unknownTarget? = some (a, b)) :
    IsLeast {a | ∃ b, r.Includes a b ∧ b ∉ r.keys} a ∧
      IsLeast {b | r.Includes a b ∧ b ∉ r.keys} b := by
  obtain ⟨before, l, after, hvalues, hfind, hbefore⟩ := List.findSome?_eq_some_iff.1 h
  obtain ⟨target, htarget, heq⟩ := Option.map_eq_some_iff.1 hfind
  cases heq
  have hmem : l ∈ r.values := by simp [hvalues]
  have hleast := isLeast_of_find?_targets (hr.get?_name hmem) htarget
  refine ⟨⟨⟨_, hleast.1⟩, ?_⟩, hleast⟩
  rintro c ⟨d, hcd, hd⟩
  obtain ⟨m, hm, hdm⟩ := hcd
  have hname := hr c m hm
  have hnames : r.values.Pairwise fun l m => l.name < m.name := by
    rw [← List.pairwise_map, hr.map_name_values]
    exact r.keys_pairwise_lt
  have hm' : m ∈ before ++ l :: after := hvalues ▸ Table.mem_values_iff.2 ⟨c, hm⟩
  rcases List.mem_append.1 hm' with hfront | hback
  · -- the lists before it have no unknown target
    have hnone := hbefore m hfront
    rw [Option.map_eq_none_iff, List.find?_eq_none] at hnone
    rw [Table.mem_keys_iff, ← Table.contains_iff] at hd
    exact absurd (by simpa using hd) (hnone d hdm)
  · rw [← hname]
    rcases List.mem_cons.1 hback with rfl | hback
    · exact le_refl _
    · rw [hvalues] at hnames
      obtain ⟨-, hrest, -⟩ := List.pairwise_append.1 hnames
      exact le_of_lt ((List.pairwise_cons.1 hrest).1 m hback)

/-- The unknown target that is found, exactly. -/
theorem unknownTarget?_eq_some_iff (hr : r.Keyed) :
    r.unknownTarget? = some (a, b) ↔
      IsLeast {a | ∃ b, r.Includes a b ∧ b ∉ r.keys} a ∧
        IsLeast {b | r.Includes a b ∧ b ∉ r.keys} b := by
  constructor
  · exact isLeast_of_unknownTarget? hr
  · rintro ⟨ha, hb⟩
    have hsome : r.unknownTarget? ≠ none := by
      rw [Ne, unknownTarget?_eq_none_iff]
      exact fun hc => hb.1.2 (hc a b hb.1.1)
    obtain ⟨⟨a', b'⟩, hfound⟩ := Option.ne_none_iff_exists'.1 hsome
    obtain ⟨ha', hb'⟩ := isLeast_of_unknownTarget? hr hfound
    obtain rfl := ha'.unique ha
    rw [hfound, hb'.unique hb]

/-- There are no levels because of an unknown list exactly when one is found. -/
theorem levels_eq_unknownInclude_iff :
    r.levels = .error (.unknownInclude a b) ↔ r.unknownTarget? = some (a, b) := by
  rw [levels]
  cases hfound : r.unknownTarget? with
  | some p =>
    obtain ⟨list, target⟩ := p
    simp
  | none =>
    dsimp only
    split
    · simp
    · simp

/-! ### Cycles -/

/-- The lists that are left over are those from which a cycle can be reached. -/
theorem Placement.mem_stuck_iff (h : r.Placement k placed outcome) (hr : r.Keyed)
    (hc : r.Complete) : a ∈ outcome.2.map (·.name) ↔ r.ReachesCycle a := by
  have hnames : a ∈ outcome.2.map (·.name) ↔
      a ∈ r.keys ∧ a ∉ placed ++ outcome.1.flatten := by
    rw [h.stuck_eq, pendingAfter, List.map_map, ← hr.map_name_values]
    simp only [List.mem_map, List.mem_filter, Bool.not_eq_true', List.contains_eq_mem,
      decide_eq_false_iff_not, Function.comp_apply]
    constructor
    · rintro ⟨l, ⟨hl, hplaced⟩, rfl⟩
      exact ⟨⟨l, hl, rfl⟩, hplaced⟩
    · rintro ⟨⟨l, hl, rfl⟩, hplaced⟩
      exact ⟨l, ⟨hl, hplaced⟩, rfl⟩
  rw [hnames]
  constructor
  · rintro ⟨ha, hplaced⟩
    exact not_not.1 fun hnot => hplaced ((h.mem_placed_iff hr hc ha).2 hnot)
  · intro hcycle
    have ha : a ∈ r.keys := hcycle.mem_keys
    exact ⟨ha, fun hplaced => (h.mem_placed_iff hr hc ha).1 hplaced hcycle⟩

/-- The lists that are left over stand in the order of their names. -/
theorem Placement.stuck_pairwise (h : r.Placement k placed outcome) (hr : r.Keyed) :
    (outcome.2.map (·.name)).Pairwise (· < ·) := by
  have hnames := r.keys_pairwise_lt
  rw [← hr.map_name_values] at hnames
  rw [h.stuck_eq, pendingAfter, List.map_map]
  exact hnames.sublist (List.filter_sublist.map _)

/-- A complete registry without levels names the lists from which a cycle can be reached. -/
theorem levels_eq_inclusionCycle_iff (hr : r.Keyed) :
    r.levels = .error (.inclusionCycle stuck) ↔
      r.Complete ∧ ¬ r.Acyclic ∧ stuck.Pairwise (· < ·) ∧ ∀ a, a ∈ stuck ↔ r.ReachesCycle a := by
  by_cases hc : r.Complete
  · have h := placement_all hr hc
    have hstuck := h.stuck_eq_nil_iff_acyclic hr hc
    rw [← List.isEmpty_iff] at hstuck
    rw [levels_eq_place hc]
    split
    next hempty => simp [hstuck.1 hempty]
    next hne =>
      have hcycle : ¬ r.Acyclic := mt hstuck.2 hne
      simp only [Except.error.injEq, BuildError.inclusionCycle.injEq, hc, hcycle, true_and,
        not_false_eq_true]
      constructor
      · rintro rfl
        exact ⟨h.stuck_pairwise hr, fun a => h.mem_stuck_iff hr hc⟩
      · -- an ascending list is determined by its members
        rintro ⟨hascending, hmem⟩
        refine (h.stuck_pairwise hr).eq_of_mem_iff hascending fun a => ?_
        rw [hmem, h.mem_stuck_iff hr hc]
  · obtain ⟨p, hp⟩ := Option.ne_none_iff_exists'.1 (mt unknownTarget?_eq_none_iff.1 hc)
    rw [levels, hp]
    simp [hc]

/-! ### The main statement -/

/-- A registry with an unknown target, whether it has cycles or not, fails with the least list that
has one and the least unknown target of that list. A registry without unknown targets that has a
cycle fails with exactly the lists from which a cycle can be reached, ascending. Names are ordered
by their bytes. -/
theorem failures_diagnosed (hr : r.Keyed) :
    (∀ list target, r.levels = .error (.unknownInclude list target) ↔
      IsLeast {a | ∃ b, r.Includes a b ∧ b ∉ r.keys} list ∧
        IsLeast {b | r.Includes list b ∧ b ∉ r.keys} target) ∧
    (¬ r.Complete → ∃ list target, r.levels = .error (.unknownInclude list target)) ∧
    (∀ stuck, r.levels = .error (.inclusionCycle stuck) ↔
      r.Complete ∧ ¬ r.Acyclic ∧ stuck.Pairwise (· < ·) ∧ ∀ a, a ∈ stuck ↔ r.ReachesCycle a) ∧
    (r.Complete → ¬ r.Acyclic → ∃ stuck, r.levels = .error (.inclusionCycle stuck)) ∧
    ∀ a b : String, a < b ↔ Bytes.ofText a < Bytes.ofText b := by
  refine ⟨fun list target => ?_, fun hc => ?_, fun stuck => levels_eq_inclusionCycle_iff hr,
    fun hc hcycle => ?_, fun _ _ => Bytes.ofText_lt_ofText_iff.symm⟩
  · rw [levels_eq_unknownInclude_iff, unknownTarget?_eq_some_iff hr]
  · obtain ⟨⟨list, target⟩, hfound⟩ :=
      Option.ne_none_iff_exists'.1 (mt unknownTarget?_eq_none_iff.1 hc)
    exact ⟨list, target, levels_eq_unknownInclude_iff.2 hfound⟩
  · have h := placement_all hr hc
    exact ⟨_, (levels_eq_inclusionCycle_iff hr).2
      ⟨hc, hcycle, h.stuck_pairwise hr, fun a => h.mem_stuck_iff hr hc⟩⟩

/-- Two lists that include each other, one that includes one of them, and two others. -/
def knot : Registry :=
  (((((∅ : Registry).add { name := "A", inclusions := .ofList [("B", [.all])] }).add
    { name := "B", inclusions := .ofList [("A", [.attribute "ads"]), ("D", [.all])] }).add
    { name := "C", inclusions := .ofList [("A", [.all])] }).add
    { name := "D" }).add
    { name := "E", inclusions := .ofList [("D", [.all])] }

/-- The knot with two more lists, each with unknown targets. -/
def looseKnot : Registry :=
  (knot.add
    { name := "CC", inclusions := .ofList [("D", [.all]), ("Y", [.all]), ("X", [.all])] }).add
    { name := "F", inclusions := .ofList [("F", [.all]), ("W", [.all])] }

/-- The list that only leads to the cycle is named, too; an unknown list comes before all cycles. -/
theorem failures_diagnosed_knot :
    (knot.Keyed ∧ knot.levels = .error (.inclusionCycle ["A", "B", "C"]) ∧ knot.Complete ∧
      ¬ knot.Acyclic ∧ ∀ a, a ∈ ["A", "B", "C"] ↔ knot.ReachesCycle a) ∧
    looseKnot.Keyed ∧ ¬ looseKnot.Complete ∧
      looseKnot.levels = .error (.unknownInclude "CC" "X") ∧
      IsLeast {a | ∃ b, looseKnot.Includes a b ∧ b ∉ looseKnot.keys} "CC" ∧
      IsLeast {b | looseKnot.Includes "CC" b ∧ b ∉ looseKnot.keys} "X" := by
  have hkeyed : knot.Keyed := ((((keyed_empty.add _).add _).add _).add _).add _
  have hcycle : knot.levels = .error (.inclusionCycle ["A", "B", "C"]) := by decide +kernel
  obtain ⟨hc, hcyclic, -, hmem⟩ := ((failures_diagnosed hkeyed).2.2.1 _).1 hcycle
  have hkeyed' : looseKnot.Keyed := (hkeyed.add _).add _
  have hunknown : looseKnot.levels = .error (.unknownInclude "CC" "X") := by decide +kernel
  obtain ⟨hlist, htarget⟩ := ((failures_diagnosed hkeyed').1 _ _).1 hunknown
  have hnot : ¬ looseKnot.Complete := fun hc => htarget.1.2 (hc _ _ htarget.1.1)
  exact ⟨⟨hkeyed, hcycle, hc, hcyclic, hmem⟩, hkeyed', hnot, hunknown, hlist, htarget⟩

end RoutingData.Registry
