import RoutingData.Proofs.Inclusion.Resolution
import RoutingData.Proofs.Reading

/-!
# What all rules of a list have in common

No operation on lists makes rules. So when all rules of a list have a property (`HoldsOnly`), and
those of the lists that it includes have it, they have it after every operation and after resolution
(`kept_holdsOnly`); what is exported has it, too.
-/

namespace RoutingData

namespace DomainList

variable {P : Rule → Prop} {l included : DomainList}

/-- The list is filed, and all its rules have the property. -/
structure HoldsOnly (P : Rule → Prop) (l : DomainList) : Prop where
  /-- Its rules stand where they belong. -/
  filed : l.Filed
  /-- The rules without attributes have the property. -/
  of_mem_bucket : ∀ k, ∀ x ∈ l.bucket k, P x
  /-- The selected domain rules have it. -/
  of_mem_uniqueDomain : ∀ x ∈ l.uniqueDomain, P x
  /-- The rules with attributes have it. -/
  of_mem_attributeRules : ∀ x ∈ l.attributeRules, P x

/-- A list without rules holds none without the property. -/
theorem holdsOnly_named (name : String) : (named name).HoldsOnly P where
  filed := filed_named name
  of_mem_bucket := by rintro (_ | _ | _ | _) <;> simp [named, bucket]
  of_mem_uniqueDomain := by simp [named]
  of_mem_attributeRules := by simp [named]

/-- Inclusions do not concern rules. -/
theorem HoldsOnly.withInclusions (h : l.HoldsOnly P) (has : Bool)
    (inclusions : Table String (List Filter)) :
    ({ l with hasInclusion := has, inclusions := inclusions } : DomainList).HoldsOnly P :=
  ⟨h.filed.withInclusions has inclusions, h.of_mem_bucket, h.of_mem_uniqueDomain,
    h.of_mem_attributeRules⟩

/-- Adding rules with the property. -/
theorem HoldsOnly.addRules (h : l.HoldsOnly P) {rules : List Rule} (hrules : ∀ x ∈ rules, P x) :
    (l.addRules rules).HoldsOnly P where
  filed := h.filed.addRules rules
  of_mem_bucket := by
    intro k x hx
    rw [bucket_addRules] at hx
    rcases List.mem_append.1 hx with hx | hx
    · exact h.of_mem_bucket k x hx
    · exact hrules x (List.mem_of_mem_filter hx)
  of_mem_uniqueDomain := by
    rw [(l.addRules_frame rules).2]
    exact h.of_mem_uniqueDomain
  of_mem_attributeRules := by
    intro x hx
    rw [attributeRules_addRules] at hx
    rcases List.mem_append.1 hx with hx | hx
    · exact h.of_mem_attributeRules x hx
    · exact hrules x (List.mem_of_mem_filter hx)

/-- Adding all rules of another list. -/
theorem HoldsOnly.mergeAll (h : l.HoldsOnly P) (hi : included.HoldsOnly P) :
    (l.mergeAll included).HoldsOnly P where
  filed := h.filed.mergeAll hi.filed
  of_mem_bucket := by
    intro k x hx
    have hx : x ∈ l.bucket k ++ included.bucket k := by cases k <;> exact hx
    rcases List.mem_append.1 hx with hx | hx
    · exact h.of_mem_bucket k x hx
    · exact hi.of_mem_bucket k x hx
  of_mem_uniqueDomain := h.of_mem_uniqueDomain
  of_mem_attributeRules := by
    intro x hx
    rcases List.mem_append.1 hx with hx | hx
    · exact h.of_mem_attributeRules x hx
    · exact hi.of_mem_attributeRules x hx

/-- Adding groups of another list, which hold rules of that list. -/
theorem HoldsOnly.mergeAttributes (h : l.HoldsOnly P) (hi : included.HoldsOnly P)
    (wanted : List String) : (l.mergeAttributes included wanted).HoldsOnly P where
  filed := h.filed.mergeAttributes hi.filed wanted
  of_mem_bucket := h.of_mem_bucket
  of_mem_uniqueDomain := h.of_mem_uniqueDomain
  of_mem_attributeRules := by
    intro x hx
    rcases List.mem_append.1 hx with hx | hx
    · exact h.of_mem_attributeRules x hx
    · obtain ⟨e, he, hx⟩ := List.mem_flatMap.1 hx
      have hgroup := hi.filed.groupKey_of_mem (List.mem_of_mem_filter he) hx
      exact hi.of_mem_attributeRules x hgroup.1

/-- Adding the rules of another list that filters ask for. -/
theorem HoldsOnly.merge (h : l.HoldsOnly P) (hi : included.HoldsOnly P) (filters : List Filter) :
    (l.merge included filters).HoldsOnly P := by
  rw [DomainList.merge]
  split
  · exact h.mergeAll hi
  · exact h.mergeAttributes hi _

/-- Sorting the domain rules and selecting some of them. -/
theorem HoldsOnly.dedupDomains (h : l.HoldsOnly P) : l.dedupDomains.2.HoldsOnly P := by
  have hperm := (sortedByGenerality l.domain).perm
  have hsorted : ∀ x ∈ sortByGenerality l.domain, P x :=
    fun x hx => h.of_mem_bucket .domain x (hperm.mem_iff.1 hx)
  have hbucket : ∀ unique k, ∀ x ∈ ({ l with
      domain := sortByGenerality l.domain
      uniqueDomain := unique } : DomainList).bucket k, P x := by
    rintro unique (_ | _ | _ | _)
    exacts [h.of_mem_bucket .full, hsorted, h.of_mem_bucket .keyword, h.of_mem_bucket .regex]
  have hfiled := h.filed.dedupDomains
  by_cases hempty : ∃ x ∈ l.domain, x.value = ""
  · rw [dedupDomains_of_empty hempty] at hfiled ⊢
    exact ⟨hfiled, hbucket _, h.of_mem_uniqueDomain, h.of_mem_attributeRules⟩
  · rw [dedupDomains_of_values fun x hx hvalue => hempty ⟨x, hx, hvalue⟩] at hfiled ⊢
    have hunique : ∀ x ∈ leaders [] (sortByGenerality l.domain), P x :=
      fun x hx => hsorted x ((leaders_sublist _ _).subset hx)
    exact ⟨hfiled, hbucket _, hunique, h.of_mem_attributeRules⟩

/-- Operations on lists make no rules. -/
theorem kept_holdsOnly (P : Rule → Prop) : Kept (HoldsOnly P) where
  withInclusions := fun inclusions h => h.withInclusions _ inclusions
  merge := fun filters h hi => h.merge hi filters
  dedupDomains := HoldsOnly.dedupDomains

/-- The rules that a list exports have the property. -/
theorem HoldsOnly.of_mem_toRules (h : l.HoldsOnly P) {excluded : AttributeSet} :
    ∀ x ∈ l.toRules excluded, P x := by
  intro x hx
  simp only [toRules, List.mem_append, List.mem_filter] at hx
  rcases hx with (((hx | hx) | hx) | hx) | hx
  · exact h.of_mem_bucket .full x hx
  · exact h.of_mem_uniqueDomain x hx
  · exact h.of_mem_bucket .regex x hx
  · exact h.of_mem_bucket .keyword x hx.1
  · exact h.of_mem_attributeRules x hx.1

/-- A list has the rules of its lines. -/
theorem holdsOnly_ofLines {name : String} {lines : List ListLine}
    (h : ∀ x ∈ ListLine.rulesOf lines, P x) : (ofLines name lines).HoldsOnly P := by
  obtain ⟨has, inclusions, heq⟩ := ofLines_eq name lines
  rw [heq]
  exact ((holdsOnly_named name).addRules h).withInclusions has inclusions

end DomainList

end RoutingData
