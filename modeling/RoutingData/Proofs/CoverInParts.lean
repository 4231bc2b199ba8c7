import Mathlib.Data.Set.Basic
import RoutingData.Proofs.MinimalCover

/-!
# Minimal covers in parts

The rules that deduplication selects (`leastCover`) stand in ascending order of the number of their
labels, so they are known once those with equally many labels are known. These are the leaders among
the rules with that many labels, after all rules with fewer (`filter_leastCover`), and leaders
depend on the rules before them only through the hosts that these cover (`leaders_congr`).

Hence a part of the rules may be replaced by its own selection, before it or after it
(`leastCover_append_leastCover`, `leastCover_leastCover_append`), and rules whose values are there
already add nothing behind the others (`leastCover_append_of_subset`).
-/

namespace RoutingData.DomainList

variable {seen seen' rules xs ys : List Rule} {x : Rule} {l : DomainList} {h : String} {n : ℕ}

/-! ### Hosts that rules cover -/

/-- The hosts that the values of rules cover. -/
def covered (rules : List Rule) : Set String := {h | ∃ x ∈ rules, Covers x.value h}

/-- A host is covered when the value of a rule covers it. -/
theorem mem_covered : h ∈ covered rules ↔ ∃ x ∈ rules, Covers x.value h := Iff.rfl

/-- The value of a rule is covered. -/
theorem value_mem_covered (hx : x ∈ rules) : x.value ∈ covered rules := ⟨x, hx, Covers.refl _⟩

/-- More rules cover more. -/
theorem covered_mono (hsub : xs ⊆ ys) : covered xs ⊆ covered ys :=
  fun _ ⟨x, hx, hcovers⟩ => ⟨x, hsub hx, hcovers⟩

/-- Two sequences together cover what one of them covers. -/
theorem covered_append (xs ys : List Rule) : covered (xs ++ ys) = covered xs ∪ covered ys := by
  ext h
  simp only [mem_covered, Set.mem_union, List.mem_append, or_and_right, exists_or]

/-- One rule more. -/
theorem covered_cons (x : Rule) (rules : List Rule) :
    covered (x :: rules) = {h | Covers x.value h} ∪ covered rules := by
  ext h
  simp only [mem_covered, Set.mem_union, Set.mem_ofPred_eq, List.mem_cons, exists_eq_or_imp]

/-- A rule whose value is covered covers nothing new. -/
theorem covered_cons_of_mem (hx : x.value ∈ covered rules) :
    covered (x :: rules) = covered rules := by
  rw [covered_cons, Set.union_eq_right]
  obtain ⟨y, hy, hyx⟩ := hx
  exact fun h hxh => ⟨y, hy, hyx.trans hxh⟩

/-- The order of rules does not matter to what they cover. -/
theorem covered_eq_of_perm (hperm : xs.Perm ys) : covered xs = covered ys :=
  Set.Subset.antisymm (covered_mono hperm.subset) (covered_mono hperm.symm.subset)

/-- With the rules before them, leaders cover what the rules cover. -/
theorem covered_union_leaders (seen rules : List Rule) :
    covered seen ∪ covered (leaders seen rules) = covered seen ∪ covered rules := by
  rw [← covered_append, ← covered_append]
  refine Set.Subset.antisymm (covered_mono ?_) ?_
  · exact ((List.Sublist.refl seen).append (leaders_sublist seen rules)).subset
  · rintro h ⟨x, hx, hxh⟩
    rcases List.mem_append.1 hx with hx | hx
    · exact ⟨x, List.mem_append_left _ hx, hxh⟩
    · obtain ⟨y, hy, hyx⟩ := @exists_covers_of_mem seen _ _ hx
      exact ⟨y, hy, hyx.trans hxh⟩

/-! ### Leaders -/

/-- Leaders depend on the rules before them only through what these cover. -/
theorem leaders_congr (hcovered : covered seen = covered seen') (rules : List Rule) :
    leaders seen rules = leaders seen' rules := by
  induction rules generalizing seen seen' with
  | nil => rfl
  | cons r rest ih =>
    have htest : (∃ x ∈ seen, Covers x.value r.value) ↔ ∃ x ∈ seen', Covers x.value r.value := by
      rw [← mem_covered, hcovered, mem_covered]
    have hrest : covered (r :: seen) = covered (r :: seen') := by
      rw [covered_cons, covered_cons, hcovered]
    simp only [leaders, htest, ih hrest]

/-- The leaders of two sequences are those of the first one and then those of the second one, after
all of the first. -/
theorem leaders_append (seen xs ys : List Rule) :
    leaders seen (xs ++ ys) = leaders seen xs ++ leaders (seen ++ xs) ys := by
  induction xs generalizing seen with
  | nil => rw [List.nil_append, leaders, List.nil_append, List.append_nil]
  | cons x xs ih =>
    have hseen : leaders (x :: seen ++ xs) ys = leaders (seen ++ x :: xs) ys :=
      leaders_congr (covered_eq_of_perm List.perm_middle.symm) ys
    rw [List.cons_append, leaders, leaders, ih, hseen]
    split
    · rfl
    · rfl

/-- Rules that are covered already have no leaders. -/
theorem leaders_eq_nil (hcovered : ∀ x ∈ rules, x.value ∈ covered seen) :
    leaders seen rules = [] := by
  rw [List.eq_nil_iff_forall_not_mem]
  intro x hx
  obtain ⟨y, hy, hyx⟩ := hcovered x ((leaders_sublist _ _).subset hx)
  exact not_covers_of_mem_leaders hx y hy hyx

/-- Leaders may be chosen from leaders, if the rules before these are not more general. -/
theorem leaders_leaders (hcovered : covered seen' ⊆ covered seen) (rules : List Rule) :
    leaders seen (leaders seen' rules) = leaders seen rules := by
  induction rules generalizing seen seen' with
  | nil => rfl
  | cons r rest ih =>
    have hseen : covered (r :: seen') ⊆ covered (r :: seen) := by
      rw [covered_cons, covered_cons]
      exact Set.union_subset_union_right _ hcovered
    by_cases hr' : ∃ x ∈ seen', Covers x.value r.value
    · -- what was dropped is covered here too, so it makes no difference to the rules after it
      have hr : r.value ∈ covered seen := hcovered hr'
      rw [leaders, if_pos hr', leaders, if_pos (mem_covered.1 hr),
        ← leaders_congr (covered_cons_of_mem hr), ih hseen]
    · rw [leaders, if_neg hr', leaders, leaders, ih hseen]

/-! ### Equally general rules -/

/-- Rules in ascending order are those with fewer labels than a number, those with as many and those
with more. -/
theorem filter_append_filter_append_filter
    (hrules : rules.Pairwise fun x y => x.labelCount ≤ y.labelCount) (n : ℕ) :
    rules.filter (·.labelCount < n) ++
      (rules.filter (·.labelCount == n) ++ rules.filter (n < ·.labelCount)) = rules := by
  induction rules with
  | nil => rfl
  | cons r rest ih =>
    obtain ⟨hr, hrest⟩ := List.pairwise_cons.1 hrules
    have hnone : ∀ p : Rule → Bool, (∀ x, r.labelCount ≤ x.labelCount → p x = false) →
        rest.filter p = [] := by
      intro p hp
      rw [List.filter_eq_nil_iff]
      intro x hx
      rw [hp x (hr x hx)]
      exact Bool.false_ne_true
    have hsplit := ih hrest
    rcases Nat.lt_trichotomy r.labelCount n with hlt | heq | hgt
    · rw [List.filter_cons_of_pos (by simpa using hlt), List.filter_cons_of_neg (by simp; omega),
        List.filter_cons_of_neg (by simp; omega), List.cons_append, hsplit]
    · have hless : rest.filter (·.labelCount < n) = [] := hnone _ fun x hx => by simp; omega
      rw [hless, List.nil_append] at hsplit
      rw [List.filter_cons_of_neg (by simp; omega), List.filter_cons_of_pos (by simpa using heq),
        List.filter_cons_of_neg (by simp; omega), hless, List.nil_append, List.cons_append, hsplit]
    · have hless : rest.filter (·.labelCount < n) = [] := hnone _ fun x hx => by simp; omega
      have hsame : rest.filter (·.labelCount == n) = [] := hnone _ fun x hx => by simp; omega
      rw [hless, hsame, List.nil_append, List.nil_append] at hsplit
      rw [List.filter_cons_of_neg (by simp; omega), List.filter_cons_of_neg (by simp; omega),
        List.filter_cons_of_pos (by simpa using hgt), hless, hsame, List.nil_append,
        List.nil_append, hsplit]

/-- In ascending order, the leaders with a number of labels are leaders among the rules with this
number, after those with fewer labels. -/
theorem filter_leaders (hrules : rules.Pairwise fun x y => x.labelCount ≤ y.labelCount) (n : ℕ) :
    (leaders seen rules).filter (·.labelCount == n) =
      leaders (seen ++ rules.filter (·.labelCount < n)) (rules.filter (·.labelCount == n)) := by
  -- leaders have no more numbers of labels than the rules that they are chosen from
  have hnone : ∀ (before : List Rule) (p : Rule → Bool), (∀ x, p x → x.labelCount ≠ n) →
      (leaders before (rules.filter p)).filter (·.labelCount == n) = [] := by
    intro before p hp
    rw [List.filter_eq_nil_iff]
    intro x hx
    have hne := hp x (List.mem_filter.1 ((leaders_sublist _ _).subset hx)).2
    rwa [beq_iff_eq]
  have hall : ∀ before : List Rule,
      (leaders before (rules.filter (·.labelCount == n))).filter (·.labelCount == n) =
        leaders before (rules.filter (·.labelCount == n)) := by
    intro before
    rw [List.filter_eq_self]
    exact fun x hx => (List.mem_filter.1 ((leaders_sublist _ _).subset hx)).2
  conv_lhs => rw [← filter_append_filter_append_filter hrules n]
  rw [leaders_append, leaders_append, List.filter_append, List.filter_append, hall,
    hnone _ _ fun x hx => by simp at hx; omega, hnone _ _ fun x hx => by simp at hx; omega,
    List.nil_append, List.append_nil]

/-- Sequences with the same rules of each number of labels have the same rules. -/
theorem mem_iff_of_filter_eq
    (heq : ∀ n, xs.filter (·.labelCount == n) = ys.filter (·.labelCount == n)) (x : Rule) :
    x ∈ xs ↔ x ∈ ys := by
  have hx : x ∈ xs.filter (·.labelCount == x.labelCount) ↔
      x ∈ ys.filter (·.labelCount == x.labelCount) := by
    rw [heq]
  simpa [List.mem_filter] using hx

/-- Rules in ascending order are known once those with equally many labels are. -/
theorem eq_of_filter_eq (hxs : xs.Pairwise fun x y => x.labelCount ≤ y.labelCount)
    (hys : ys.Pairwise fun x y => x.labelCount ≤ y.labelCount)
    (heq : ∀ n, xs.filter (·.labelCount == n) = ys.filter (·.labelCount == n)) : xs = ys := by
  induction xs generalizing ys with
  | nil => exact (List.eq_nil_iff_forall_not_mem.2 fun y hy => by
      cases (mem_iff_of_filter_eq heq y).2 hy).symm
  | cons x xs ih =>
    cases ys with
    | nil => cases (mem_iff_of_filter_eq heq x).1 List.mem_cons_self
    | cons y ys =>
      rw [List.pairwise_cons] at hxs hys
      -- both first rules are the most general, so both are the first with their number of labels
      have hle : x.labelCount = y.labelCount := by
        refine Nat.le_antisymm ?_ ?_
        · rcases List.mem_cons.1 ((mem_iff_of_filter_eq heq y).2 List.mem_cons_self) with rfl | hmem
          · exact Nat.le_refl _
          · exact hxs.1 y hmem
        · rcases List.mem_cons.1 ((mem_iff_of_filter_eq heq x).1 List.mem_cons_self) with rfl | hmem
          · exact Nat.le_refl _
          · exact hys.1 x hmem
      have hfirst := heq x.labelCount
      rw [List.filter_cons_of_pos (by simp), List.filter_cons_of_pos (by simp [hle])] at hfirst
      obtain ⟨rfl, -⟩ := List.cons.inj hfirst
      have hrest : ∀ n, xs.filter (·.labelCount == n) = ys.filter (·.labelCount == n) := by
        intro n
        have hn := heq n
        rw [List.filter_cons, List.filter_cons] at hn
        split at hn
        · exact (List.cons.inj hn).2
        · exact hn
      rw [ih hxs.2 hys.2 hrest]

/-! ### The rules that deduplication selects -/

/-- The leaders among rules in stable order of generality. -/
def leastCover (rules : List Rule) : List Rule := leaders [] (sortByGenerality rules)

/-- They stand in ascending order. -/
theorem leastCover_ascending (rules : List Rule) :
    (leastCover rules).Pairwise fun x y => x.labelCount ≤ y.labelCount :=
  (sortedByGenerality rules).ascending.sublist (leaders_sublist _ _)

/-- They are some of the rules. -/
theorem leastCover_subset (rules : List Rule) : leastCover rules ⊆ rules :=
  fun _ hx => (sortedByGenerality rules).perm.subset ((leaders_sublist _ _).subset hx)

/-- They cover what the rules cover. -/
theorem covered_leastCover (rules : List Rule) : covered (leastCover rules) = covered rules := by
  ext h
  rw [mem_covered, leastCover, ← leaders_cover_iff, ← mem_covered,
    covered_eq_of_perm (sortedByGenerality rules).perm]

/-- Those with a number of labels are the leaders among the rules with this number, after the more
general ones. -/
theorem filter_leastCover (rules : List Rule) (n : ℕ) :
    (leastCover rules).filter (·.labelCount == n) =
      leaders (rules.filter (·.labelCount < n)) (rules.filter (·.labelCount == n)) := by
  have hsorted := sortedByGenerality rules
  rw [leastCover, filter_leaders hsorted.ascending, hsorted.stable, List.nil_append]
  exact leaders_congr (covered_eq_of_perm (hsorted.perm.filter _)) _

/-- The more general ones among them cover what the more general rules cover. -/
theorem covered_filter_leastCover (rules : List Rule) (n : ℕ) :
    covered ((leastCover rules).filter (·.labelCount < n)) =
      covered (rules.filter (·.labelCount < n)) := by
  refine Set.Subset.antisymm (covered_mono ?_) ?_
  · exact List.filter_subset _ (leastCover_subset rules)
  · rintro h ⟨x, hx, hxh⟩
    obtain ⟨hx, hlt⟩ := List.mem_filter.1 hx
    have hvalue : x.value ∈ covered (leastCover rules) :=
      covered_leastCover rules ▸ value_mem_covered hx
    obtain ⟨y, hy, hyx⟩ := hvalue
    -- what covers the rule has no more labels
    have hle : y.labelCount ≤ x.labelCount := (covers_iff_suffix.1 hyx).length_le
    refine ⟨y, List.mem_filter.2 ⟨hy, ?_⟩, hyx.trans hxh⟩
    simp only [decide_eq_true_eq] at hlt ⊢
    omega

/-- Selections are equal when they are for each number of labels. -/
theorem leastCover_eq_of_leaders_eq
    (heq : ∀ n, leaders (xs.filter (·.labelCount < n)) (xs.filter (·.labelCount == n)) =
      leaders (ys.filter (·.labelCount < n)) (ys.filter (·.labelCount == n))) :
    leastCover xs = leastCover ys := by
  refine eq_of_filter_eq (leastCover_ascending xs) (leastCover_ascending ys) fun n => ?_
  rw [filter_leastCover, filter_leastCover, heq]

/-- Sorting rules by generality before does not matter. -/
theorem leastCover_sortByGenerality (rules : List Rule) :
    leastCover (sortByGenerality rules) = leastCover rules := by
  have hsorted := sortedByGenerality rules
  refine leastCover_eq_of_leaders_eq fun n => ?_
  rw [hsorted.stable]
  exact leaders_congr (covered_eq_of_perm (hsorted.perm.filter _)) _

/-- Rules behind others may be replaced by their own selection. -/
theorem leastCover_append_leastCover (xs ys : List Rule) :
    leastCover (xs ++ leastCover ys) = leastCover (xs ++ ys) := by
  refine leastCover_eq_of_leaders_eq fun n => ?_
  have hseen : covered (xs.filter (·.labelCount < n) ++ (leastCover ys).filter (·.labelCount < n)) =
      covered (xs.filter (·.labelCount < n) ++ ys.filter (·.labelCount < n)) := by
    rw [covered_append, covered_filter_leastCover, covered_append]
  simp only [List.filter_append]
  rw [leaders_congr hseen, filter_leastCover, leaders_append, leaders_append, leaders_leaders]
  -- the rules that were before the second part are still before it
  refine covered_mono (List.subset_append_of_subset_left _ ?_)
  exact List.subset_append_right _ _

/-- Rules before others may be replaced by their own selection. -/
theorem leastCover_leastCover_append (xs ys : List Rule) :
    leastCover (leastCover xs ++ ys) = leastCover (xs ++ ys) := by
  refine leastCover_eq_of_leaders_eq fun n => ?_
  have hseen : covered ((leastCover xs).filter (·.labelCount < n) ++ ys.filter (·.labelCount < n)) =
      covered (xs.filter (·.labelCount < n) ++ ys.filter (·.labelCount < n)) := by
    rw [covered_append, covered_filter_leastCover, covered_append]
  simp only [List.filter_append]
  rw [leaders_congr hseen, filter_leastCover, leaders_append, leaders_append]
  have hsub : covered (xs.filter (·.labelCount < n)) ⊆
      covered (xs.filter (·.labelCount < n) ++ ys.filter (·.labelCount < n)) :=
    covered_mono (List.subset_append_left _ _)
  rw [leaders_leaders hsub]
  congr 1
  refine leaders_congr ?_ _
  -- the leaders that are left of the first part cover what all of it covers
  simp only [covered_append]
  rw [Set.union_right_comm, covered_union_leaders, Set.union_right_comm]

/-- What is selected once is selected again. -/
theorem leastCover_leastCover (rules : List Rule) :
    leastCover (leastCover rules) = leastCover rules := by
  have h := leastCover_leastCover_append rules []
  rwa [List.append_nil, List.append_nil] at h

/-- What is selected among two sequences depends on what is selected in each. -/
theorem leastCover_append_congr {xs' ys' : List Rule} (hxs : leastCover xs = leastCover xs')
    (hys : leastCover ys = leastCover ys') : leastCover (xs ++ ys) = leastCover (xs' ++ ys') :=
  calc leastCover (xs ++ ys)
    _ = leastCover (leastCover xs ++ leastCover ys) := by
      rw [leastCover_append_leastCover, leastCover_leastCover_append]
    _ = leastCover (leastCover xs' ++ leastCover ys') := by rw [hxs, hys]
    _ = leastCover (xs' ++ ys') := by
      rw [leastCover_append_leastCover, leastCover_leastCover_append]

/-- Rules whose values are there already add nothing behind the others. -/
theorem leastCover_append_of_subset (hvalues : ∀ y ∈ ys, ∃ x ∈ xs, x.value = y.value) :
    leastCover (xs ++ ys) = leastCover xs := by
  have hlabels : ∀ {x y : Rule}, x.value = y.value → x.labelCount = y.labelCount :=
    fun heq => congrArg (fun v => (domainLabels v).length) heq
  refine leastCover_eq_of_leaders_eq fun n => ?_
  have hseen : covered (xs.filter (·.labelCount < n) ++ ys.filter (·.labelCount < n)) =
      covered (xs.filter (·.labelCount < n)) := by
    rw [covered_append, Set.union_eq_left]
    rintro h ⟨y, hy, hyh⟩
    obtain ⟨hy, hlt⟩ := List.mem_filter.1 hy
    obtain ⟨x, hx, hxy⟩ := hvalues y hy
    exact ⟨x, List.mem_filter.2 ⟨hx, hlabels hxy ▸ hlt⟩, hxy ▸ hyh⟩
  simp only [List.filter_append]
  rw [leaders_congr hseen, leaders_append]
  refine List.append_right_eq_self.2 (leaders_eq_nil fun y hy => ?_)
  obtain ⟨hy, hcount⟩ := List.mem_filter.1 hy
  obtain ⟨x, hx, hxy⟩ := hvalues y hy
  rw [← hxy]
  exact value_mem_covered
    (List.mem_append_right _ (List.mem_filter.2 ⟨hx, hlabels hxy ▸ hcount⟩))

/-! ### Deduplication -/

/-- A domain rule without a value covers no host but the empty one, which no other rule covers. -/
theorem exists_value_eq_empty_iff : (∃ x ∈ rules, x.value = "") ↔ "" ∈ covered rules := by
  refine exists_congr fun x => and_congr_right fun _ => ⟨fun hx => .inl hx.symm, ?_⟩
  rintro (hx | ⟨p, hp⟩)
  · exact hx.symm
  · -- a host below another one is not empty
    have hlength := congrArg String.length hp
    have hdot : ".".length = 1 := rfl
    rw [String.length_append, String.length_append, String.length_empty, hdot] at hlength
    omega

/-- A list that is deduplicated has selected the least cover of its domain rules. -/
theorem eq_of_dedupDomains {m : DomainList} (h : l.dedupDomains = (.ok (), m)) :
    m = { l with domain := sortByGenerality l.domain, uniqueDomain := leastCover l.domain } := by
  have hvalues := dedupDomains_eq_ok_iff.1 (congrArg Prod.fst h)
  rw [dedupDomains_of_values hvalues] at h
  exact (congrArg Prod.snd h).symm

end RoutingData.DomainList
