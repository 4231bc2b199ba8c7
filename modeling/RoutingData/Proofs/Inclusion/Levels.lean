import RoutingData.Proofs.Inclusion.Countdown

/-!
# Levels are depths

The main statement on levels, `levels_eq_depths`. A registry has levels exactly when every included
list exists and no list includes itself through others; then every list stands at the level that is
the length of its longest chain of inclusions. Whatever the registry, no counter is brought below
zero and the rounds come to an end, and counting down one inclusion at a time gives the same answer.
-/

namespace RoutingData.Registry

variable {r : Registry} {placed : List String} {a b : String} {k : ℕ}
  {outcome : List (List String) × List Pending}

/-- The list named `a` stands at level `k`, the first level being level zero. -/
def AtLevel (ls : List (List String)) (k : ℕ) (a : String) : Prop :=
  ∃ level, ls[k]? = some level ∧ a ∈ level

/-! ### What a placement says about names -/

/-- A level determines the lists at it, so no list is at two levels. -/
theorem Placement.nodup_flatten (h : r.Placement k placed outcome) : outcome.1.flatten.Nodup := by
  refine List.nodup_flatten.2 ⟨fun level hlevel => ?_, ?_⟩
  · exact (h.level_ascending level hlevel).2.imp ne_of_lt
  · -- a name at two levels would have two depths
    refine List.pairwise_iff_getElem.2 fun i j hi hj hij a hai haj => ?_
    have hsame := ((h.mem_level_iff i hi a).1 hai).2.unique ((h.mem_level_iff j hj a).1 haj).2
    omega

/-- In a run from the start that leaves nothing over, levels are depths. -/
theorem Placement.atLevel_iff (h : r.Placement 0 [] outcome) (hr : r.Keyed)
    (hstuck : outcome.2 = []) :
    AtLevel outcome.1 k a ↔ a ∈ r.keys ∧ IsGreatest (r.chainLengths a) k := by
  constructor
  · rintro ⟨level, hlevel, ha⟩
    obtain ⟨hk, rfl⟩ := List.getElem?_eq_some_iff.1 hlevel
    simpa using (h.mem_level_iff k hk a).1 ha
  · rintro ⟨hkey, hdepth⟩
    have hplaced := (h.stuck_eq_nil_iff hr).1 hstuck a hkey
    have hk : k < outcome.1.length := by
      simpa using ((h.placedBelow a).1 hplaced).2 k hdepth.1
    refine ⟨_, List.getElem?_eq_getElem hk, (h.mem_level_iff k hk a).2 ⟨hkey, ?_⟩⟩
    simpa using hdepth

/-- A list that is left over has something missing, and one that is placed has nothing missing. -/
theorem Placement.missingOf_pos_iff (h : r.Placement k placed outcome) (hr : r.Keyed)
    (hc : r.Complete) {l : DomainList} (hl : l ∈ r.values) :
    0 < missingOf (placed ++ outcome.1.flatten) l ↔
      l.name ∉ placed ++ outcome.1.flatten := by
  have hget := hr.get?_name hl
  rw [Nat.pos_iff_ne_zero, not_iff_not, missingOf_eq_zero_iff]
  simp only [← includes_iff_mem_targets hget]
  constructor
  · exact h.mem_placed hr (Table.mem_keys_iff.2 ⟨l, hget⟩)
  · exact fun hplaced b hab => h.placedBelow.closed hc hplaced hab

/-- In a run from the start, fewer names than lists are placed exactly when lists are left over. -/
theorem Placement.length_flatten_lt_iff (h : r.Placement 0 [] outcome) (hr : r.Keyed) :
    outcome.1.flatten.length < r.size ↔ outcome.2 ≠ [] := by
  have hsize : r.size = r.keys.length := by simp [Table.size, Table.keys]
  have hsub : outcome.1.flatten ⊆ r.keys := fun a ha => ((h.placedBelow a).1 (by simpa using ha)).1
  rw [hsize, Ne, h.stuck_eq_nil_iff hr, List.nil_append]
  constructor
  · intro hlt hall
    exact absurd (r.keys_nodup.subperm hall).length_le (Nat.not_le.2 hlt)
  · -- as many names as there are lists, none repeated, are the names of all lists
    intro hnot
    refine Nat.lt_of_not_le fun hle => hnot fun a ha => ?_
    exact ((h.nodup_flatten.subperm hsub).perm_of_length_le hle).mem_iff.2 ha

/-- The lists left over are those whose counters stand above zero. -/
theorem Placement.map_name_stuck (h : r.Placement k placed outcome) (hr : r.Keyed)
    (hc : r.Complete) :
    outcome.2.map (·.name) =
      ((r.map (missingOf (placed ++ outcome.1.flatten))).entries.filter (0 < ·.2)).map (·.1) := by
  have hfilter : (r.values.filter fun l => !(placed ++ outcome.1.flatten).contains l.name) =
      r.values.filter fun l => 0 < missingOf (placed ++ outcome.1.flatten) l := by
    refine List.filter_congr fun l hl => Bool.eq_iff_iff.2 ?_
    simpa [-List.mem_append] using (h.missingOf_pos_iff hr hc hl).symm
  calc outcome.2.map (·.name)
      = (r.values.filter fun l => !(placed ++ outcome.1.flatten).contains l.name).map (·.name) := by
        rw [h.stuck_eq, pendingAfter, List.map_map]
        rfl
    _ = (r.entries.filter fun e => 0 < missingOf (placed ++ outcome.1.flatten) e.2).map (·.1) := by
        rw [hfilter, hr.map_name_filter]
    _ = _ := by
        rw [Table.map, List.filter_map, List.map_map]
        rfl

/-! ### What the levels are -/

/-- The levels of a complete registry, by the rounds of placing its lists. -/
theorem levels_eq_place (hc : r.Complete) :
    r.levels = if (place (r.pendingAfter [])).2.isEmpty then .ok (place (r.pendingAfter [])).1
      else .error (.inclusionCycle ((place (r.pendingAfter [])).2.map (·.name))) := by
  rw [levels, unknownTarget?_eq_none_iff.2 hc, pendingAfter_nil, pendingAtStart]

/-- A registry has levels when every included list exists and no list includes itself. -/
theorem levels_eq_ok_iff (hr : r.Keyed) {ls : List (List String)} :
    r.levels = .ok ls ↔ r.Complete ∧ r.Acyclic ∧ ls = (place (r.pendingAfter [])).1 := by
  by_cases hc : r.Complete
  · rw [levels_eq_place hc, ← (placement_all hr hc).stuck_eq_nil_iff_acyclic hr hc]
    cases (place (r.pendingAfter [])).2 with
    | nil => simp [hc, eq_comm]
    | cons => simp
  · obtain ⟨p, hp⟩ := Option.ne_none_iff_exists'.1 (mt unknownTarget?_eq_none_iff.1 hc)
    rw [levels, hp]
    simp [hc]

/-- Counting down one inclusion at a time gives the levels of a complete registry, or the lists
that have none. -/
theorem countdown_levels (hr : r.Keyed) (hc : r.Complete) :
    ∃ ls final, r.Countdown r.startCounters (exhausted r.startCounters) ls final ∧
      r.levels = r.countdownAnswer ls final := by
  have h := placement_all hr hc
  refine ⟨(place (r.pendingAfter [])).1,
    r.map (missingOf ([] ++ (place (r.pendingAfter [])).1.flatten)), ?_, ?_⟩
  · rw [exhausted_startCounters hr, startCounters_eq]
    exact countdown_place hr hc _ rfl r.placedBelow_nil
  · rw [countdownAnswer, ← h.map_name_stuck hr hc, levels_eq_place hc]
    simp only [h.length_flatten_lt_iff hr]
    cases (place (r.pendingAfter [])).2 <;> simp

/-! ### Every round -/

/-- After any number of rounds the lists that wait are determined by the names placed. -/
theorem iterate_waiting (hr : r.Keyed) (n : ℕ) :
    ∃ placed, waiting^[n] (r.pendingAfter []) = r.pendingAfter placed := by
  induction n with
  | zero => exact ⟨[], rfl⟩
  | succ n ih =>
    obtain ⟨placed, hplaced⟩ := ih
    refine ⟨placed ++ ready (r.pendingAfter placed), ?_⟩
    rw [Function.iterate_succ_apply', hplaced, waiting_pendingAfter hr placed]

/-- A round takes from no counter more than it holds. -/
theorem le_missing_of_mem_pendingAfter {p : Pending} (hp : p ∈ r.pendingAfter placed) :
    (p.targets.filter (ready (r.pendingAfter placed)).contains).length ≤ p.missing := by
  obtain ⟨l, -, rfl⟩ := List.mem_map.1 hp
  rw [missingOf_append (fun _ => not_mem_placed_of_mem_ready) l]
  exact Nat.le_add_right _ _

/-- Rounds come to an end. -/
theorem exists_ready_iterate_eq_nil (ps : List Pending) : ∃ n, ready (waiting^[n] ps) = [] := by
  induction ps using place.induct with
  | case1 ps hready => exact ⟨0, hready⟩
  | case2 ps _ ih =>
    obtain ⟨n, hn⟩ := ih
    exact ⟨n + 1, hn⟩

/-! ### The main statement -/

/-- A registry has levels exactly when every included list exists and no list includes itself. Then
every list has one level, the length of its longest chain of inclusions, which is above those of the
lists that it includes; levels are not empty and ascend by name. Counting down one inclusion at a
time ends with the same answer, no counter ever being taken below zero, and so do the rounds. -/
theorem levels_eq_depths (hr : r.Keyed) :
    ((∃ ls, r.levels = .ok ls) ↔ r.Complete ∧ r.Acyclic) ∧
    (∀ ls, r.levels = .ok ls →
      ls.flatten.Perm r.keys ∧
      (∀ k a, AtLevel ls k a ↔ a ∈ r.keys ∧ IsGreatest (r.chainLengths a) k) ∧
      (∀ a b i j, r.Includes a b → AtLevel ls i a → AtLevel ls j b → j < i) ∧
      ∀ level ∈ ls, level ≠ [] ∧ level.Pairwise (· < ·)) ∧
    (r.Complete → ∃ ls final,
      r.Countdown r.startCounters (exhausted r.startCounters) ls final ∧
      r.levels = r.countdownAnswer ls final) ∧
    (∀ n, ∀ p ∈ waiting^[n] r.pendingAtStart,
      (p.targets.filter (ready (waiting^[n] r.pendingAtStart)).contains).length ≤ p.missing) ∧
    ∃ n, ready (waiting^[n] r.pendingAtStart) = [] := by
  refine ⟨?_, ?_, countdown_levels hr, ?_, exists_ready_iterate_eq_nil _⟩
  · simp only [levels_eq_ok_iff hr]
    exact ⟨fun ⟨_, hc, ha, _⟩ => ⟨hc, ha⟩, fun ⟨hc, ha⟩ => ⟨_, hc, ha, rfl⟩⟩
  · intro ls hls
    obtain ⟨hc, hacyclic, rfl⟩ := (levels_eq_ok_iff hr).1 hls
    have h := placement_all hr hc
    have hstuck := (h.stuck_eq_nil_iff_acyclic hr hc).2 hacyclic
    refine ⟨?_, fun k a => h.atLevel_iff hr hstuck, fun a b i j hab ha hb => ?_,
      h.level_ascending⟩
    · refine (List.perm_ext_iff_of_nodup h.nodup_flatten r.keys_nodup).2 fun a => ⟨?_, ?_⟩
      · exact fun ha => ((h.placedBelow a).1 (by simpa using ha)).1
      · exact fun ha => by simpa using (h.stuck_eq_nil_iff hr).1 hstuck a ha
    · have hj := ((h.atLevel_iff hr hstuck).1 hb).2.1
      exact ((h.atLevel_iff hr hstuck).1 ha).2.2 (succ_mem_chainLengths.2 ⟨b, hab, hj⟩)
  · intro n p hp
    obtain ⟨placed, hplaced⟩ := iterate_waiting hr n
    rw [pendingAfter_nil] at hplaced
    rw [hplaced] at hp ⊢
    exact le_missing_of_mem_pendingAfter hp

/-- Three lists, the last of which includes both others. -/
def ladder : Registry :=
  (((∅ : Registry).add { name := "A" }).add
    { name := "B", inclusions := .ofList [("A", [.all])] }).add
    { name := "C", inclusions := .ofList [("A", [.all]), ("B", [.attribute "ads"])] }

/-- The longest chain from the last list passes through the second. -/
theorem levels_eq_depths_ladder :
    ladder.Keyed ∧ ladder.levels = .ok [["A"], ["B"], ["C"]] ∧
      IsGreatest (ladder.chainLengths "C") 2 := by
  have hkeyed : ladder.Keyed := ((keyed_empty.add _).add _).add _
  have hlevels : ladder.levels = .ok [["A"], ["B"], ["C"]] := by decide +kernel
  refine ⟨hkeyed, hlevels, ?_⟩
  have hdepth := ((levels_eq_depths hkeyed).2.1 _ hlevels).2.1 2 "C"
  exact (hdepth.1 ⟨["C"], rfl, List.mem_singleton.2 rfl⟩).2

end RoutingData.Registry
