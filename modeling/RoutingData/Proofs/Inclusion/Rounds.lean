import RoutingData.Proofs.Inclusion.Graph

/-!
# Rounds of placing lists

`place` takes away, round by round, the lists whose inclusions all have a level. The lists that wait
after some rounds are determined by the names placed so far: they are the others, and each counter
is the number of inclusions that are not placed (`pendingAfter`, `waiting_pendingAfter`). So the one
invariant of the rounds is about names: after `k` rounds the placed lists are those from which every
chain of inclusions has fewer than `k` inclusions (`PlacedBelow`). One round keeps it
(`PlacedBelow.round`), and the lists of that round are those whose longest chain has exactly `k`
inclusions (`PlacedBelow.mem_ready_iff`). `placement_place` carries it through a whole run.
-/

namespace RoutingData.Registry

open Relation

variable {r : Registry} {placed : List String} {a b : String} {k : ℕ}

/-! ### What is known without a run -/

/-- In a registry under its own names, a list is found under its name. -/
theorem Keyed.get?_name (hr : r.Keyed) {l : DomainList} (hl : l ∈ r.values) :
    r.get? l.name = some l := by
  obtain ⟨b, hb⟩ := Table.mem_values_iff.1 hl
  rw [hr b l hb]
  exact hb

/-- In a registry under its own names, lists picked out in order are named by their keys. -/
theorem Keyed.map_name_filter (hr : r.Keyed) (p : DomainList → Bool) :
    (r.values.filter p).map (·.name) = (r.entries.filter fun e => p e.2).map (·.1) := by
  rw [Table.values, List.filter_map, List.map_map]
  refine List.map_congr_left fun e he => ?_
  exact hr e.1 e.2 (Table.mem_entries_iff.1 (List.mem_of_mem_filter he))

/-- In a registry under its own names, the lists are named by the keys, in order. -/
theorem Keyed.map_name_values (hr : r.Keyed) : r.values.map (·.name) = r.keys := by
  simpa [Table.keys] using hr.map_name_filter fun _ => true

/-- Names ascend. -/
theorem keys_pairwise_lt (r : Registry) : r.keys.Pairwise (· < ·) :=
  r.keys_ascending.imp compareOfLessAndEq_eq_lt.1

/-- No unknown target is found exactly when every included list exists. -/
theorem unknownTarget?_eq_none_iff : r.unknownTarget? = none ↔ r.Complete := by
  rw [unknownTarget?, List.findSome?_eq_none_iff]
  constructor
  · rintro h a b ⟨l, hl, hb⟩
    have hnone := h l (Table.mem_values_iff.2 ⟨a, hl⟩)
    rw [Option.map_eq_none_iff, List.find?_eq_none] at hnone
    rw [Table.mem_keys_iff, ← Table.contains_iff]
    simpa using hnone b hb
  · intro hc l hl
    obtain ⟨a, ha⟩ := Table.mem_values_iff.1 hl
    rw [Option.map_eq_none_iff, List.find?_eq_none]
    intro b hb
    have hkey := hc a b ⟨l, ha, hb⟩
    rw [Table.mem_keys_iff, ← Table.contains_iff] at hkey
    simp [hkey]

/-! ### The lists that wait -/

/-- The counter of a list: how many of its inclusions are not placed. -/
def missingOf (placed : List String) (l : DomainList) : ℕ :=
  (l.targets.filter fun t => !placed.contains t).length

/-- The lists that wait when some are placed. -/
def pendingAfter (r : Registry) (placed : List String) : List Pending :=
  (r.values.filter fun l => !placed.contains l.name).map fun l =>
    ⟨l.name, l.targets, missingOf placed l⟩

/-- The lists that wait at the start, each for all of its inclusions. -/
def pendingAtStart (r : Registry) : List Pending :=
  r.values.map fun l => ⟨l.name, l.targets, l.targets.length⟩

/-- At the start no list is placed. -/
theorem pendingAfter_nil (r : Registry) : r.pendingAfter [] = r.pendingAtStart := by
  simp [pendingAfter, pendingAtStart, missingOf]

/-- The counter of a list is zero when all its inclusions are placed. -/
theorem missingOf_eq_zero_iff {l : DomainList} :
    missingOf placed l = 0 ↔ ∀ b ∈ l.targets, b ∈ placed := by
  simp [missingOf, List.filter_eq_nil_iff]

/-- A level takes from a counter the inclusions that it places. -/
theorem missingOf_append {level : List String} (hnew : ∀ t ∈ level, t ∉ placed) (l : DomainList) :
    missingOf placed l =
      (l.targets.filter level.contains).length + missingOf (placed ++ level) l := by
  unfold missingOf
  induction l.targets with
  | nil => rfl
  | cons t ts ih =>
    by_cases hp : t ∈ placed
    · have hl : t ∉ level := fun hl => hnew t hl hp
      simpa [hp, hl] using ih
    · by_cases hl : t ∈ level
      · simp [hp, hl] at ih ⊢
        omega
      · simp [hp, hl] at ih ⊢
        omega

/-- The lists that are ready, as lists of the registry. -/
theorem ready_pendingAfter (r : Registry) (placed : List String) :
    ready (r.pendingAfter placed) =
      ((r.values.filter fun l => !placed.contains l.name).filter
        fun l => missingOf placed l == 0).map (·.name) := by
  rw [ready, pendingAfter, List.filter_map, List.map_map]
  rfl

/-- A list is ready when it is not placed and all its inclusions are. -/
theorem mem_ready_pendingAfter_iff (hr : r.Keyed) :
    a ∈ ready (r.pendingAfter placed) ↔
      a ∈ r.keys ∧ a ∉ placed ∧ ∀ b, r.Includes a b → b ∈ placed := by
  rw [ready_pendingAfter, List.mem_map]
  simp only [List.mem_filter, beq_iff_eq, missingOf_eq_zero_iff, Bool.not_eq_true',
    List.contains_eq_mem, decide_eq_false_iff_not]
  constructor
  · rintro ⟨l, ⟨⟨hl, hplaced⟩, htargets⟩, rfl⟩
    have hget := hr.get?_name hl
    refine ⟨Table.mem_keys_iff.2 ⟨l, hget⟩, hplaced, fun b hb => ?_⟩
    exact htargets b ((includes_iff_mem_targets hget).1 hb)
  · rintro ⟨hkey, hplaced, htargets⟩
    obtain ⟨l, hl⟩ := Table.mem_keys_iff.1 hkey
    have hname := hr a l hl
    refine ⟨l, ⟨⟨Table.mem_values_iff.2 ⟨a, hl⟩, by rwa [hname]⟩, fun b hb => ?_⟩, hname⟩
    exact htargets b ((includes_iff_mem_targets hl).2 hb)

/-- What is ready is not placed. -/
theorem not_mem_placed_of_mem_ready (h : a ∈ ready (r.pendingAfter placed)) : a ∉ placed := by
  rw [ready_pendingAfter, List.mem_map] at h
  obtain ⟨l, hl, rfl⟩ := h
  simpa using (List.mem_filter.1 (List.mem_filter.1 hl).1).2

/-- A round places the lists that are ready: the others wait with their counters brought down. -/
theorem waiting_pendingAfter (hr : r.Keyed) (placed : List String) :
    waiting (r.pendingAfter placed) =
      r.pendingAfter (placed ++ ready (r.pendingAfter placed)) := by
  have hnew : ∀ t ∈ ready (r.pendingAfter placed), t ∉ placed :=
    fun _ => not_mem_placed_of_mem_ready
  generalize hlevel : ready (r.pendingAfter placed) = level at hnew ⊢
  have hmem : ∀ l ∈ r.values, l.name ∈ level ↔ l.name ∉ placed ∧ missingOf placed l = 0 := by
    intro l hl
    have hget := hr.get?_name hl
    rw [← hlevel, mem_ready_pendingAfter_iff hr, missingOf_eq_zero_iff]
    simp only [includes_iff_mem_targets hget]
    exact and_iff_right (Table.mem_keys_iff.2 ⟨l, hget⟩)
  rw [waiting, hlevel]
  simp only [pendingAfter, List.filter_map, List.filter_filter, List.map_map]
  -- a list stays when it was not placed before and is not ready now
  have hfilter : (r.values.filter fun l =>
      (((·.missing != 0) ∘ fun l : DomainList =>
        (⟨l.name, l.targets, missingOf placed l⟩ : Pending)) l) && !placed.contains l.name) =
      r.values.filter fun l => !(placed ++ level).contains l.name := by
    refine List.filter_congr fun l hl => Bool.eq_iff_iff.2 ?_
    simp only [Function.comp_apply, Bool.and_eq_true, bne_iff_ne, Bool.not_eq_true',
      List.contains_eq_mem, decide_eq_false_iff_not, List.mem_append, hmem l hl]
    tauto
  rw [hfilter]
  refine List.map_congr_left fun l _ => ?_
  simp [Pending.afterLevel, missingOf_append hnew l]

/-- Levels ascend by name. -/
theorem ready_pendingAfter_ascending (hr : r.Keyed) (placed : List String) :
    (ready (r.pendingAfter placed)).Pairwise (· < ·) := by
  have hnames := r.keys_pairwise_lt
  rw [← hr.map_name_values] at hnames
  rw [ready_pendingAfter, List.filter_filter]
  exact hnames.sublist (List.filter_sublist.map _)

/-! ### Rounds -/

/-- The placed lists are those from which every chain has fewer than `k` inclusions. -/
def PlacedBelow (r : Registry) (k : ℕ) (placed : List String) : Prop :=
  ∀ a, a ∈ placed ↔ a ∈ r.keys ∧ r.Shallow k a

/-- Before the first round no list is placed. -/
theorem placedBelow_nil (r : Registry) : r.PlacedBelow 0 [] := fun a => by
  simp [r.not_shallow_zero a]

/-- What a placed list includes is placed. -/
theorem PlacedBelow.closed (h : r.PlacedBelow k placed) (hc : r.Complete) (ha : a ∈ placed)
    (hab : r.Includes a b) : b ∈ placed := by
  have hshallow : r.Shallow (k + 1) a := ((h a).1 ha).2.mono (Nat.le_succ k)
  exact (h b).2 ⟨hc a b hab, shallow_succ_iff.1 hshallow b hab⟩

/-- The lists of round `k` are those whose longest chain has `k` inclusions. -/
theorem PlacedBelow.mem_ready_iff (h : r.PlacedBelow k placed) (hr : r.Keyed) (hc : r.Complete) :
    a ∈ ready (r.pendingAfter placed) ↔ a ∈ r.keys ∧ IsGreatest (r.chainLengths a) k := by
  rw [mem_ready_pendingAfter_iff hr, isGreatest_chainLengths_iff, shallow_succ_iff]
  have hbelow : (∀ b, r.Includes a b → b ∈ placed) ↔ ∀ b, r.Includes a b → r.Shallow k b :=
    forall₂_congr fun b hab => by simp [h b, hc a b hab]
  rw [hbelow, h a]
  tauto

/-- A round places the lists of the next depth. -/
theorem PlacedBelow.round (h : r.PlacedBelow k placed) (hr : r.Keyed) (hc : r.Complete) :
    r.PlacedBelow (k + 1) (placed ++ ready (r.pendingAfter placed)) := by
  intro a
  rw [List.mem_append, h.mem_ready_iff hr hc, isGreatest_chainLengths_iff, h a]
  have hmono : r.Shallow k a → r.Shallow (k + 1) a := fun hk => hk.mono (Nat.le_succ k)
  tauto

/-- The outcome of placing lists that wait after `k` rounds. -/
structure Placement (r : Registry) (k : ℕ) (placed : List String)
    (outcome : List (List String) × List Pending) : Prop where
  /-- The levels hold the lists of the depths from `k` on. -/
  mem_level_iff : ∀ (i : ℕ) (h : i < outcome.1.length) (a : String),
    a ∈ outcome.1[i] ↔ a ∈ r.keys ∧ IsGreatest (r.chainLengths a) (k + i)
  /-- Levels are not empty and ascend by name. -/
  level_ascending : ∀ level ∈ outcome.1, level ≠ [] ∧ level.Pairwise (· < ·)
  /-- All lists above the last level are placed. -/
  placedBelow : r.PlacedBelow (k + outcome.1.length) (placed ++ outcome.1.flatten)
  /-- The lists left over are the others. -/
  stuck_eq : outcome.2 = r.pendingAfter (placed ++ outcome.1.flatten)
  /-- None of the lists left over is ready. -/
  ready_stuck : ready outcome.2 = []

/-- Placing lists round by round puts them at their depths. -/
theorem placement_place (hr : r.Keyed) (hc : r.Complete) (ps : List Pending) :
    ∀ {k placed}, ps = r.pendingAfter placed → r.PlacedBelow k placed →
      r.Placement k placed (place ps) := by
  induction ps using place.induct with
  | case1 ps hready =>
    rintro k placed rfl hplaced
    rw [place, dif_pos hready]
    exact ⟨by simp, by simp, by simpa using hplaced, by simp, hready⟩
  | case2 ps hready ih =>
    rintro k placed rfl hplaced
    have hrest := ih (waiting_pendingAfter hr placed) (hplaced.round hr hc)
    rw [place, dif_neg hready]
    -- the first level is this round, and the others are one level lower in the rest of the run
    refine ⟨?_, ?_, ?_, ?_, hrest.ready_stuck⟩
    · rintro (_ | i) hi a
      · exact hplaced.mem_ready_iff hr hc
      · have := hrest.mem_level_iff i (Nat.lt_of_succ_lt_succ hi) a
        rwa [Nat.add_right_comm, Nat.add_assoc] at this
    · rintro level (_ | ⟨_, hlevel⟩)
      · exact ⟨hready, ready_pendingAfter_ascending hr placed⟩
      · exact hrest.level_ascending level hlevel
    · have := hrest.placedBelow
      rwa [List.append_assoc, Nat.add_right_comm, Nat.add_assoc] at this
    · have := hrest.stuck_eq
      rwa [List.append_assoc] at this

/-- A list is placed once all that it includes is placed. -/
theorem Placement.mem_placed {outcome : List (List String) × List Pending}
    (h : r.Placement k placed outcome) (hr : r.Keyed) (ha : a ∈ r.keys)
    (hall : ∀ b, r.Includes a b → b ∈ placed ++ outcome.1.flatten) :
    a ∈ placed ++ outcome.1.flatten := by
  by_contra hnot
  have hready : a ∈ ready outcome.2 := by
    rw [h.stuck_eq, mem_ready_pendingAfter_iff hr]
    exact ⟨ha, hnot, hall⟩
  rw [h.ready_stuck] at hready
  cases hready

/-- Nothing is left over exactly when every list is placed. -/
theorem Placement.stuck_eq_nil_iff {outcome : List (List String) × List Pending}
    (h : r.Placement k placed outcome) (hr : r.Keyed) :
    outcome.2 = [] ↔ ∀ a ∈ r.keys, a ∈ placed ++ outcome.1.flatten := by
  rw [h.stuck_eq, pendingAfter, List.map_eq_nil_iff, List.filter_eq_nil_iff,
    ← hr.map_name_values]
  simp [-List.mem_append]

/-- The lists that are placed are those from which no cycle can be reached. -/
theorem Placement.mem_placed_iff {outcome : List (List String) × List Pending}
    (h : r.Placement k placed outcome) (hr : r.Keyed) (hc : r.Complete) (ha : a ∈ r.keys) :
    a ∈ placed ++ outcome.1.flatten ↔ ¬ r.ReachesCycle a := by
  constructor
  · exact fun hplaced => ((h.placedBelow a).1 hplaced).2.not_reachesCycle
  · -- a list that is left over would include another one that is, and so on without end
    intro hnot
    induction acc_of_not_reachesCycle hnot with
    | intro a _ ih =>
      refine h.mem_placed hr ha fun b hab => ih b hab (hc a b hab) fun hcycle => ?_
      exact hnot (hcycle.of_includes hab)

/-- Nothing is left over exactly when the inclusions are acyclic. -/
theorem Placement.stuck_eq_nil_iff_acyclic {outcome : List (List String) × List Pending}
    (h : r.Placement k placed outcome) (hr : r.Keyed) (hc : r.Complete) :
    outcome.2 = [] ↔ r.Acyclic := by
  rw [h.stuck_eq_nil_iff hr]
  constructor
  · intro hall a hcycle
    obtain ⟨b, hab, -⟩ := TransGen.head'_iff.1 hcycle
    exact (h.mem_placed_iff hr hc hab.mem_keys).1 (hall a hab.mem_keys) ⟨a, .refl, hcycle⟩
  · intro hacyclic a ha
    exact (h.mem_placed_iff hr hc ha).2 fun ⟨b, _, hcycle⟩ => hacyclic b hcycle

/-- The outcome of placing all lists of a registry. -/
theorem placement_all (hr : r.Keyed) (hc : r.Complete) :
    r.Placement 0 [] (place (r.pendingAfter [])) :=
  placement_place hr hc _ rfl r.placedBelow_nil

end RoutingData.Registry
