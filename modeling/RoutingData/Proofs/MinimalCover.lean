import Mathlib.Data.List.Pairwise
import RoutingData.Proofs.Covering

/-!
# Minimal covers

Sorted by generality, no rule comes after one with more labels, so a leader covers no other leader,
before or after it. The covering rules of a list are therefore the smallest sequence of its domain
rules that covers the same hosts: a value is kept exactly when it is the value of a domain rule and
no other value covers it (`mem_map_value_leaders_iff`).
-/

namespace RoutingData.DomainList

variable {rules : List Rule}

/-- The rules stand in ascending order of the number of their labels, and rules with equally many
labels stand in the order that they had. -/
structure SortedByGenerality (rules sorted : List Rule) : Prop where
  /-- The rules are the same, each as often. -/
  perm : sorted.Perm rules
  /-- More general rules come first. -/
  ascending : sorted.Pairwise fun x y => x.labelCount ≤ y.labelCount
  /-- Equally general rules keep their order. -/
  stable : ∀ n, sorted.filter (·.labelCount == n) = rules.filter (·.labelCount == n)

/-- Sorting by generality sorts by generality. -/
theorem sortedByGenerality (rules : List Rule) :
    SortedByGenerality rules (sortByGenerality rules) := by
  have htrans : ∀ x y z : Rule, decide (x.labelCount ≤ y.labelCount) = true →
      decide (y.labelCount ≤ z.labelCount) = true →
      decide (x.labelCount ≤ z.labelCount) = true := by
    simpa using fun x y z : Rule => Nat.le_trans
  have htotal : ∀ x y : Rule,
      (decide (x.labelCount ≤ y.labelCount) || decide (y.labelCount ≤ x.labelCount)) = true := by
    simpa using fun x y : Rule => Nat.le_total x.labelCount y.labelCount
  have hperm : (sortByGenerality rules).Perm rules := List.mergeSort_perm _ _
  refine ⟨hperm, ?_, fun n => ?_⟩
  · exact (List.pairwise_mergeSort htrans htotal rules).imp (by simp)
  · -- rules with equally many labels are in order already, so sorting keeps them as they stand
    have hequal : (rules.filter (·.labelCount == n)).Pairwise
        fun x y => decide (x.labelCount ≤ y.labelCount) = true := by
      refine List.pairwise_of_forall_mem_list fun x hx y hy => ?_
      have hxn : x.labelCount = n := by simpa using List.of_mem_filter hx
      have hyn : y.labelCount = n := by simpa using List.of_mem_filter hy
      rw [hxn, hyn]
      simp
    have hsub := (List.sublist_mergeSort htrans htotal hequal List.filter_sublist).filter
      (·.labelCount == n)
    simp only [List.filter_filter, Bool.and_self] at hsub
    exact (hsub.eq_of_length (hperm.filter _).length_eq.symm).symm

/-- When the rules stand in ascending order of generality, a leader covers no other leader. -/
theorem leaders_pairwise_of_ascending
    (hrules : rules.Pairwise fun x y => x.labelCount ≤ y.labelCount) :
    (leaders [] rules).Pairwise fun x y =>
      ¬ Covers x.value y.value ∧ ¬ Covers y.value x.value := by
  refine ((leaders_pairwise [] rules).and (hrules.sublist (leaders_sublist [] rules))).imp ?_
  rintro x y ⟨hxy, hle⟩
  refine ⟨hxy, fun hyx => hxy ?_⟩
  rw [hyx.eq_of_length_le hle]
  exact Covers.refl _

/-- The leaders cover what the rules cover. -/
theorem leaders_cover_iff {h : String} :
    (∃ x ∈ rules, Covers x.value h) ↔ ∃ x ∈ leaders [] rules, Covers x.value h := by
  constructor
  · rintro ⟨x, hx, hxh⟩
    obtain ⟨y, hy, hyx⟩ := @exists_covers_of_mem [] rules x hx
    exact ⟨y, hy, hyx.trans hxh⟩
  · rintro ⟨x, hx, hxh⟩
    exact ⟨x, (leaders_sublist [] rules).subset hx, hxh⟩

/-- The values of the leaders are those that no other value covers. -/
theorem mem_map_value_leaders_iff
    (hrules : rules.Pairwise fun x y => x.labelCount ≤ y.labelCount) {v : String} :
    v ∈ (leaders [] rules).map (·.value) ↔
      v ∈ rules.map (·.value) ∧ ∀ w ∈ rules.map (·.value), Covers w v → w = v := by
  simp only [List.mem_map]
  constructor
  · rintro ⟨x, hx, rfl⟩
    refine ⟨⟨x, (leaders_sublist [] rules).subset hx, rfl⟩, ?_⟩
    rintro _ ⟨y, hy, rfl⟩ hyx
    obtain ⟨z, hz, hzy⟩ := @exists_covers_of_mem [] rules y hy
    have hzx : z = x := by
      have : Std.Symm fun x y : Rule => ¬ Covers x.value y.value ∧ ¬ Covers y.value x.value :=
        ⟨fun _ _ => And.symm⟩
      by_contra hne
      exact ((leaders_pairwise_of_ascending hrules).forall hz hx hne).1 (hzy.trans hyx)
    rw [hzx] at hzy
    exact hyx.antisymm hzy
  · rintro ⟨⟨x, hx, rfl⟩, hmin⟩
    obtain ⟨y, hy, hyx⟩ := @exists_covers_of_mem [] rules x hx
    exact ⟨y, hy, hmin _ ⟨y, (leaders_sublist [] rules).subset hy, rfl⟩ hyx⟩

/-! ### Deduplication -/

/-- Deduplication fails, with the domain rules sorted, when a domain rule has no value. -/
theorem dedupDomains_of_empty {l : DomainList} (h : ∃ x ∈ l.domain, x.value = "") :
    l.dedupDomains =
      (.error (.emptyDomain l.name), { l with domain := sortByGenerality l.domain }) := by
  have hsorted : ∃ x ∈ sortByGenerality l.domain, x.value = "" := by
    simpa [(sortedByGenerality l.domain).perm.mem_iff] using h
  simp only [dedupDomains, coveringRules?_eq, if_pos hsorted]

/-- Deduplication keeps the leaders of the sorted domain rules when each has a value. -/
theorem dedupDomains_of_values {l : DomainList} (h : ∀ x ∈ l.domain, x.value ≠ "") :
    l.dedupDomains =
      (.ok (), { l with
        domain := sortByGenerality l.domain
        uniqueDomain := leaders [] (sortByGenerality l.domain) }) := by
  have hsorted : ¬ ∃ x ∈ sortByGenerality l.domain, x.value = "" := by
    simpa [(sortedByGenerality l.domain).perm.mem_iff] using h
  simp only [dedupDomains, coveringRules?_eq, if_neg hsorted]

/-- Deduplication succeeds when each domain rule has a value. -/
theorem dedupDomains_eq_ok_iff {l : DomainList} :
    l.dedupDomains.1 = .ok () ↔ ∀ x ∈ l.domain, x.value ≠ "" := by
  constructor
  · intro hok x hx hvalue
    rw [dedupDomains_of_empty ⟨x, hx, hvalue⟩] at hok
    cases hok
  · intro h
    rw [dedupDomains_of_values h]

/-- Which values are kept. -/
theorem mem_map_value_uniqueDomain_iff {l : DomainList} (h : ∀ x ∈ l.domain, x.value ≠ "")
    {v : String} :
    v ∈ l.dedupDomains.2.uniqueDomain.map (·.value) ↔
      v ∈ l.domain.map (·.value) ∧ ∀ w ∈ l.domain.map (·.value), Covers w v → w = v := by
  have hs := sortedByGenerality l.domain
  rw [dedupDomains_of_values h, mem_map_value_leaders_iff hs.ascending]
  simp only [(hs.perm.map _).mem_iff]

/-- Deduplication succeeds exactly when each domain rule has a value, and otherwise changes nothing
but the order of the domain rules. On success the unique domain rules are some of the domain rules
in stable order of generality. They cover the hosts that the domain rules cover, none of them covers
the value of another, and each is the first rule with its value. Two lists whose domain rules have
the same values keep the same values. -/
theorem dedupDomains_minimal_cover (l : DomainList) :
    (l.dedupDomains.1 = .ok () ↔ ∀ x ∈ l.domain, x.value ≠ "") ∧
    SortedByGenerality l.domain (sortByGenerality l.domain) ∧
    ((∃ x ∈ l.domain, x.value = "") →
      l.dedupDomains =
        (.error (.emptyDomain l.name), { l with domain := sortByGenerality l.domain })) ∧
    ((∀ x ∈ l.domain, x.value ≠ "") →
      ∃ unique, l.dedupDomains =
          (.ok (), { l with domain := sortByGenerality l.domain, uniqueDomain := unique }) ∧
        unique.Sublist (sortByGenerality l.domain) ∧
        (∀ h, (∃ x ∈ l.domain, Covers x.value h) ↔ ∃ x ∈ unique, Covers x.value h) ∧
        unique.Pairwise
          (fun x y => ¬ Covers x.value y.value ∧ ¬ Covers y.value x.value) ∧
        (∀ x ∈ unique,
          (sortByGenerality l.domain).find? (fun y => y.value == x.value) = some x) ∧
        ∀ m : DomainList, (∀ v, v ∈ m.domain.map (·.value) ↔ v ∈ l.domain.map (·.value)) →
          m.dedupDomains.1 = .ok () ∧
          ∀ v, v ∈ m.dedupDomains.2.uniqueDomain.map (·.value) ↔ v ∈ unique.map (·.value)) := by
  have hs := sortedByGenerality l.domain
  refine ⟨dedupDomains_eq_ok_iff, hs, dedupDomains_of_empty, fun hvalues => ?_⟩
  refine ⟨_, dedupDomains_of_values hvalues, leaders_sublist [] _, fun h => ?_,
    leaders_pairwise_of_ascending hs.ascending, fun x hx => find?_eq_of_mem_leaders hx,
    fun m hm => ?_⟩
  · rw [← leaders_cover_iff]
    simp only [hs.perm.mem_iff]
  · have hmvalues : ∀ x ∈ m.domain, x.value ≠ "" := by
      intro x hx hvalue
      obtain ⟨y, hy, hyx⟩ := List.mem_map.1 ((hm x.value).1 (List.mem_map_of_mem hx))
      exact hvalues y hy (hyx.trans hvalue)
    refine ⟨dedupDomains_eq_ok_iff.2 hmvalues, fun v => ?_⟩
    have hkept := @mem_map_value_uniqueDomain_iff l hvalues v
    rw [dedupDomains_of_values hvalues] at hkept
    rw [mem_map_value_uniqueDomain_iff hmvalues, hkept]
    simp only [hm]

end RoutingData.DomainList
