import Mathlib.Data.String.Basic
import RoutingData.Proofs.Inclusion.Rounds

/-!
# Counting down inclusions

Levels can also be found one inclusion at a time: every list has a counter of inclusions without a
level, and each list of the frontier takes one from the counter of every list that includes it. The
lists whose counters reach zero are the next frontier. `countDown?` has no outcome when a counter
stands at zero already, so a `Countdown` that ends shows that this never happens.

The counters are `missingOf` at every moment. One round of counting down is therefore one round of
placing lists (`countRound?_eq`), and the countdown of a complete registry ends with the levels that
`place` finds (`countdown_place`).
-/

namespace RoutingData.Registry

variable {r : Registry} {placed : List String} {a b : String} {k : ℕ}

/-- For each list, how many of its inclusions have no level yet. -/
abbrev Counters := Table String ℕ

/-- The lists that include the one named `b`, by name. -/
def dependents (r : Registry) (b : String) : List String :=
  (r.values.filter fun l => l.targets.contains b).map (·.name)

/-- Takes one from the counter of a list. When nothing is left, the list joins the next frontier.
There is no outcome when nothing was left before. -/
def countDown? (state : Counters × List String) (a : String) : Option (Counters × List String) :=
  match state.1.get? a with
  | none => some state
  | some 0 => none
  | some (n + 1) => some (state.1.insert a n, if n = 0 then state.2 ++ [a] else state.2)

/-- Each list of the frontier counts down the lists that include it. -/
def countRound? (r : Registry) (counters : Counters) (frontier : List String) :
    Option (Counters × List String) :=
  ((frontier.flatMap r.dependents).foldlM countDown? (counters, [])).map fun state =>
    (state.1, state.2.mergeSort)

/-- A countdown that ends, from counters and a frontier to the levels found and the last counters.
-/
inductive Countdown (r : Registry) :
    Counters → List String → List (List String) → Counters → Prop
  | done {counters : Counters} : Countdown r counters [] [] counters
  | round {counters counters' final : Counters} {frontier next : List String}
      {levels : List (List String)} :
      frontier ≠ [] → r.countRound? counters frontier = some (counters', next) →
        Countdown r counters' next levels final →
        Countdown r counters frontier (frontier :: levels) final

/-- The counters before any list has a level. -/
def startCounters (r : Registry) : Counters := r.map fun l => l.targets.length

/-- The lists whose counters stand at zero. -/
def exhausted (counters : Counters) : List String :=
  (counters.entries.filter (·.2 == 0)).map (·.1)

/-- The answer read off the end of a countdown: the levels, or the lists whose counters stand above
zero when not every list has a level. -/
def countdownAnswer (r : Registry) (levels : List (List String)) (final : Counters) :
    Except BuildError (List (List String)) :=
  if levels.flatten.length < r.size then
    .error (.inclusionCycle ((final.entries.filter (0 < ·.2)).map (·.1)))
  else .ok levels

/-! ### One round -/

/-- Counting down a list with something left. -/
theorem countDown?_eq {counters : Counters} {next : List String} {n : ℕ}
    (h : counters.get? a = some (n + 1)) :
    countDown? (counters, next) a =
      some (counters.insert a n, if n = 0 then next ++ [a] else next) := by
  simp only [countDown?, h]

/-- Counting down lists, none of them more often than its counter allows: every counter goes down
by the number of times its list is counted, and the lists that are counted until nothing is left
join the frontier. -/
theorem foldlM_countDown? (events : List String) :
    ∀ (counters : Counters) (next : List String),
      (∀ a ∈ events, ∃ n, counters.get? a = some n ∧ events.count a ≤ n) →
      ∃ counters' next', events.foldlM countDown? (counters, next) = some (counters', next') ∧
        (∀ a, counters'.get? a = (counters.get? a).map (· - events.count a)) ∧
        ∀ a, next'.count a = next.count a +
          if 0 < events.count a ∧ counters.get? a = some (events.count a) then 1 else 0 := by
  induction events with
  | nil => exact fun _ _ _ => ⟨_, _, rfl, by simp, by simp⟩
  | cons b events ih =>
    intro counters next hcount
    obtain ⟨n, hn, hle⟩ := hcount b List.mem_cons_self
    rw [List.count_cons_self] at hle
    -- the counter of the first list allows for it, and afterwards for the rest of its occurrences
    obtain ⟨m, rfl⟩ : ∃ m, n = m + 1 := ⟨n - 1, by omega⟩
    have hcounters : ∀ a ∈ events, ∃ n, (counters.insert b m).get? a = some n ∧
        events.count a ≤ n := by
      intro a ha
      rw [Table.get?_insert]
      split
      next h => exact ⟨m, rfl, by rw [h]; omega⟩
      next h =>
        obtain ⟨n, hn, hle⟩ := hcount a (List.mem_cons_of_mem b ha)
        rw [List.count_cons_of_ne (Ne.symm h)] at hle
        exact ⟨n, hn, hle⟩
    obtain ⟨counters', next', hfold, hget, hnext⟩ :=
      ih (counters.insert b m) (if m = 0 then next ++ [b] else next) hcounters
    refine ⟨counters', next', ?_, fun a => ?_, fun a => ?_⟩
    · rw [List.foldlM_cons, countDown?_eq hn]
      exact hfold
    · rw [hget a, Table.get?_insert]
      by_cases h : a = b
      · subst h
        simp [hn]
      · simp [h, Ne.symm h]
    · rw [hnext a, Table.get?_insert]
      by_cases h : a = b
      · subst h
        simp only [if_true, hn, List.count_cons_self, Option.some.injEq, Nat.add_right_cancel_iff]
        split_ifs <;> simp <;> omega
      · have hb : ¬ b = a := Ne.symm h
        simp only [h, if_false, List.count_cons_of_ne hb]
        split_ifs <;> simp [hb]

/-- The dependents of a list are those that include it. -/
theorem mem_dependents_iff (hr : r.Keyed) : a ∈ r.dependents b ↔ r.Includes a b := by
  simp only [dependents, List.mem_map, List.mem_filter, List.contains_iff_mem]
  constructor
  · rintro ⟨l, ⟨hl, hb⟩, rfl⟩
    exact ⟨l, hr.get?_name hl, hb⟩
  · rintro ⟨l, hl, hb⟩
    exact ⟨l, ⟨Table.mem_values_iff.2 ⟨a, hl⟩, hb⟩, hr a l hl⟩

/-- No list depends twice on another. -/
theorem dependents_nodup (hr : r.Keyed) (b : String) : (r.dependents b).Nodup := by
  have hkeys := r.keys_nodup
  rw [← hr.map_name_values] at hkeys
  exact hkeys.sublist (List.filter_sublist.map _)

/-- A round counts a list once for each of its inclusions in the frontier. -/
theorem count_flatMap_dependents (hr : r.Keyed) {level : List String} (hlevel : level.Nodup)
    {l : DomainList} (hl : r.get? a = some l) :
    (level.flatMap r.dependents).count a = (l.targets.filter level.contains).length := by
  have hcount : ∀ b, (r.dependents b).count a = if l.targets.contains b then 1 else 0 := by
    intro b
    rw [(dependents_nodup hr b).count]
    simp only [mem_dependents_iff hr, includes_iff_mem_targets hl, List.contains_iff_mem]
  have hsum : (level.flatMap r.dependents).count a =
      (level.filter l.targets.contains).length := by
    clear hlevel
    induction level with
    | nil => rfl
    | cons b level ih =>
      rw [List.flatMap_cons, List.count_append, ih, hcount, List.filter_cons]
      split <;> simp [Nat.add_comm]
  -- the level and the targets have no repetitions, so what they share can be counted in either
  have hperm : (level.filter l.targets.contains).Perm (l.targets.filter level.contains) := by
    refine (List.perm_ext_iff_of_nodup (hlevel.filter _)
      (l.inclusions.keys_nodup.filter _)).2 fun b => ?_
    simp only [List.mem_filter, List.contains_iff_mem]
    exact and_comm
  rw [hsum, hperm.length_eq]

/-- The lists of the next round include a list of this round, and nothing that has no level by
then. -/
theorem mem_ready_next_iff (hr : r.Keyed) (hc : r.Complete) (hplaced : r.PlacedBelow k placed) :
    a ∈ ready (r.pendingAfter (placed ++ ready (r.pendingAfter placed))) ↔
      (∃ b ∈ ready (r.pendingAfter placed), r.Includes a b) ∧
        ∀ b, r.Includes a b → b ∈ placed ++ ready (r.pendingAfter placed) := by
  have hready : ∀ a, a ∈ ready (r.pendingAfter placed) ↔
      a ∈ r.keys ∧ a ∉ placed ∧ ∀ b, r.Includes a b → b ∈ placed :=
    fun _ => mem_ready_pendingAfter_iff hr
  rw [mem_ready_pendingAfter_iff hr, List.mem_append]
  constructor
  · rintro ⟨hkey, hnot, hall⟩
    refine ⟨?_, hall⟩
    by_contra hnone
    refine hnot (.inr ((hready a).2 ⟨hkey, fun ha => hnot (.inl ha), fun b hab => ?_⟩))
    exact (List.mem_append.1 (hall b hab)).resolve_right fun hb => hnone ⟨b, hb, hab⟩
  · rintro ⟨⟨b, hb, hab⟩, hall⟩
    have hnew : b ∉ placed := not_mem_placed_of_mem_ready hb
    refine ⟨hab.mem_keys, ?_, hall⟩
    rintro (ha | ha)
    · exact hnew (hplaced.closed hc ha hab)
    · exact hnew (((hready a).1 ha).2.2 b hab)

/-- Sorting names without repetition gives the one ascending list of them. -/
theorem mergeSort_eq_of_mem_iff {xs ys : List String} (hxs : xs.Nodup) (hys : ys.Pairwise (· < ·))
    (h : ∀ a, a ∈ xs ↔ a ∈ ys) : xs.mergeSort = ys := by
  have hperm : xs.mergeSort.Perm ys :=
    (List.mergeSort_perm xs _).trans ((List.perm_ext_iff_of_nodup hxs (hys.imp ne_of_lt)).2 h)
  have hsorted : xs.mergeSort.Pairwise (· ≤ ·) :=
    (List.pairwise_mergeSort (by simpa using fun a b c => le_trans) (by simpa using le_total)
      xs).imp (by simp)
  exact hperm.eq_of_pairwise (fun _ _ _ _ => le_antisymm) hsorted (hys.imp le_of_lt)

/-- What is counted in a round are the lists that include one of the frontier. -/
theorem mem_flatMap_dependents (hr : r.Keyed) {level : List String} :
    a ∈ level.flatMap r.dependents ↔ ∃ b ∈ level, r.Includes a b := by
  simp only [List.mem_flatMap, mem_dependents_iff hr]

/-- A counter holds what is counted in a round and what is missing after it. -/
theorem missingOf_eq_count_add (hr : r.Keyed) {level : List String} (hlevel : level.Nodup)
    (hnew : ∀ t ∈ level, t ∉ placed) {l : DomainList} (hl : r.get? a = some l) :
    missingOf placed l =
      (level.flatMap r.dependents).count a + missingOf (placed ++ level) l := by
  rw [missingOf_append hnew, count_flatMap_dependents hr hlevel hl]

/-- A list is counted until nothing is left when it includes a list of the level and has nothing
missing after it. -/
theorem counted_out_iff (hr : r.Keyed) {level : List String} (hlevel : level.Nodup)
    (hnew : ∀ t ∈ level, t ∉ placed) :
    (0 < (level.flatMap r.dependents).count a ∧
        (r.map (missingOf placed)).get? a = some ((level.flatMap r.dependents).count a)) ↔
      (∃ b ∈ level, r.Includes a b) ∧ ∀ b, r.Includes a b → b ∈ placed ++ level := by
  rw [List.count_pos_iff, mem_flatMap_dependents hr, Table.get?_map]
  refine and_congr_right fun ⟨b, _, hab⟩ => ?_
  obtain ⟨l, hl⟩ := Table.mem_keys_iff.1 hab.mem_keys
  have hall : (∀ b, r.Includes a b → b ∈ placed ++ level) ↔
      missingOf (placed ++ level) l = 0 := by
    simp only [missingOf_eq_zero_iff, includes_iff_mem_targets hl]
  rw [hall, hl, Option.map_some, Option.some.injEq, missingOf_eq_count_add hr hlevel hnew hl]
  omega

/-- Counting down for a level of new lists: no counter is exceeded, all counters become what they
are once the level is placed, and those lists join the frontier that have nothing missing then. -/
theorem foldlM_countDown?_level (hr : r.Keyed) {level : List String} (hlevel : level.Nodup)
    (hnew : ∀ t ∈ level, t ∉ placed) :
    ∃ next, (level.flatMap r.dependents).foldlM countDown? (r.map (missingOf placed), []) =
        some (r.map (missingOf (placed ++ level)), next) ∧
      next.Nodup ∧ ∀ a, a ∈ next ↔ (∃ b ∈ level, r.Includes a b) ∧
        ∀ b, r.Includes a b → b ∈ placed ++ level := by
  have hmissing : ∀ {a l}, r.get? a = some l → missingOf placed l =
      (level.flatMap r.dependents).count a + missingOf (placed ++ level) l :=
    fun hl => missingOf_eq_count_add hr hlevel hnew hl
  have hbound : ∀ a ∈ level.flatMap r.dependents,
      ∃ n, (r.map (missingOf placed)).get? a = some n ∧
        (level.flatMap r.dependents).count a ≤ n := by
    intro a ha
    obtain ⟨b, -, hab⟩ := (mem_flatMap_dependents hr).1 ha
    obtain ⟨l, hl⟩ := Table.mem_keys_iff.1 hab.mem_keys
    refine ⟨missingOf placed l, by rw [Table.get?_map, hl]; rfl, ?_⟩
    rw [hmissing hl]
    exact Nat.le_add_right _ _
  obtain ⟨counters, next, hfold, hget, hnext⟩ := foldlM_countDown? _ _ [] hbound
  have hcounters : counters = r.map (missingOf (placed ++ level)) := by
    refine Table.ext_get? fun a => ?_
    rw [hget a, Table.get?_map, Table.get?_map]
    cases hl : r.get? a with
    | none => rfl
    | some l => simp [hmissing hl]
  -- each list joins the frontier once or not at all
  refine ⟨next, by rw [hfold, hcounters], ?_, fun a => ?_⟩
  · refine List.nodup_iff_count_le_one.2 fun a => ?_
    rw [hnext a]
    split <;> simp
  · rw [← counted_out_iff hr hlevel hnew, ← @List.count_pos_iff _ _ _ _ next, hnext a,
      List.count_nil, Nat.zero_add]
    split
    next h => exact iff_of_true Nat.one_pos h
    next h => exact iff_of_false (Nat.lt_irrefl 0) h

/-- A round of counting down brings all counters to what they are once the lists of the round are
placed, and finds the lists of the next round. -/
theorem countRound?_eq (hr : r.Keyed) (hc : r.Complete) (hplaced : r.PlacedBelow k placed) :
    r.countRound? (r.map (missingOf placed)) (ready (r.pendingAfter placed)) =
      some (r.map (missingOf (placed ++ ready (r.pendingAfter placed))),
        ready (r.pendingAfter (placed ++ ready (r.pendingAfter placed)))) := by
  obtain ⟨next, hfold, hnodup, hmem⟩ := foldlM_countDown?_level hr
    ((ready_pendingAfter_ascending hr placed).imp ne_of_lt)
    fun _ => not_mem_placed_of_mem_ready
  have hsorted := mergeSort_eq_of_mem_iff hnodup (ready_pendingAfter_ascending hr _)
    fun a => (hmem a).trans (mem_ready_next_iff hr hc hplaced).symm
  rw [countRound?, hfold, Option.map_some, hsorted]

/-! ### The whole countdown -/

/-- At the start the counters are those of lists none of which is placed. -/
theorem startCounters_eq (r : Registry) : r.startCounters = r.map (missingOf []) := by
  have hcount : missingOf [] = fun l => l.targets.length := funext fun l => by simp [missingOf]
  rw [startCounters, hcount]

/-- At the start the lists whose counters stand at zero are those that are ready. -/
theorem exhausted_startCounters (hr : r.Keyed) :
    exhausted r.startCounters = ready (r.pendingAfter []) := by
  rw [startCounters_eq, ready_pendingAfter, List.filter_filter, hr.map_name_filter, exhausted,
    Table.map, List.filter_map, List.map_map]
  simp [Function.comp_def]

/-- Counting down from lists that wait ends, with the levels that placing them finds. -/
theorem countdown_place (hr : r.Keyed) (hc : r.Complete) (ps : List Pending) :
    ∀ {k placed}, ps = r.pendingAfter placed → r.PlacedBelow k placed →
      r.Countdown (r.map (missingOf placed)) (ready ps) (place ps).1
        (r.map (missingOf (placed ++ (place ps).1.flatten))) := by
  induction ps using place.induct with
  | case1 ps hready =>
    rintro k placed rfl hplaced
    rw [place, dif_pos hready, hready]
    simpa using Countdown.done
  | case2 ps hready ih =>
    rintro k placed rfl hplaced
    have hrest := ih (waiting_pendingAfter hr placed) (hplaced.round hr hc)
    rw [List.append_assoc, waiting_pendingAfter hr placed] at hrest
    rw [place, dif_neg hready, List.flatten_cons, waiting_pendingAfter hr placed]
    exact .round hready (countRound?_eq hr hc hplaced) hrest

end RoutingData.Registry
