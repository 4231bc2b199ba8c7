import RoutingData.Proofs.Reading

/-!
# Histories of lists

A list starts without rules and changes by operations, of which some can fail and then leave what
they changed so far. Rules with attributes are stored twice, in one sequence and in groups, and four
operations append to both copies, each in another order. `filed_iff` says what it means that the
copies agree, and `Filed.perform` that no operation makes them differ; so they agree after every
history (`groups_agree_with_rules`).
-/

namespace RoutingData.DomainList

/-- Something that can be done to a list. -/
inductive Operation where
  /-- Adding a rule. -/
  | addRule (x : Rule)
  /-- Recording an inclusion. -/
  | addInclusion (target : String) (filters : List Filter)
  /-- Adding what the inclusions ask for, from the lists that are found. -/
  | flatten (lookup : String → Option DomainList)
  /-- Sorting the domain rules and selecting some of them. -/
  | dedupDomains

/-- The result of an operation and the list after it. -/
def perform (l : DomainList) : Operation → Except BuildError Unit × DomainList
  | .addRule x => (.ok (), l.addRule x)
  | .addInclusion target filters => (.ok (), l.addInclusion target filters)
  | .flatten lookup => l.flatten lookup
  | .dedupDomains => l.dedupDomains

/-- The list after operations, those that failed included. -/
def performAll (l : DomainList) (ops : List Operation) : DomainList :=
  ops.foldl (fun l op => (l.perform op).2) l

/-- The lists that the operation looks at have the property. -/
def Operation.LooksAt (Q : DomainList → Prop) : Operation → Prop
  | .flatten lookup => ∀ a included, lookup a = some included → Q included
  | _ => True

variable {l : DomainList} {op : Operation} {ops : List Operation}

/-- No operation makes the two copies of the rules with attributes differ. -/
theorem Filed.perform (h : l.Filed) (hop : op.LooksAt Filed) : (l.perform op).2.Filed := by
  cases op with
  | addRule x => exact h.addRule x
  | addInclusion target filters => exact h.addInclusion target filters
  | flatten lookup => exact kept_filed.flatten hop h
  | dedupDomains => exact h.dedupDomains

/-- A filed list stays filed. -/
theorem Filed.performAll (h : l.Filed) (hops : ∀ op ∈ ops, op.LooksAt Filed) :
    (l.performAll ops).Filed := by
  induction ops generalizing l with
  | nil => exact h
  | cons op ops ih =>
    obtain ⟨hop, hrest⟩ := List.forall_mem_cons.1 hops
    exact ih (h.perform hop) hrest

/-- In a filed list the groups are those of the rules with attributes. -/
theorem Filed.mem_keys_iff (h : l.Filed) {key : String} :
    key ∈ l.attributeGroups.keys ↔ ∃ x ∈ l.attributeRules, x.groupKey = key := by
  rw [Table.mem_keys_iff]
  constructor
  · rintro ⟨rules, hrules⟩
    have hentry := Table.mem_entries_iff.2 hrules
    -- a group is not empty, so it has a rule to show
    obtain ⟨x, hx⟩ := List.exists_mem_of_ne_nil _ (h.of_mem_entries hentry).1
    exact ⟨x, h.groupKey_of_mem hentry hx⟩
  · rintro ⟨x, hx, rfl⟩
    refine Option.ne_none_iff_exists'.1 fun hnone => ?_
    have hgroup := h.groupAt_eq x.groupKey
    rw [groupAt, hnone, Option.getD_none, eq_comm, tagged, List.filter_eq_nil_iff] at hgroup
    exact hgroup x hx (beq_self_eq_true _)

/-- A list is filed when its groups have the keys of its rules with attributes, each group is the
subsequence of the rules with its key, those rules have attributes, and everywhere else stand rules
without attributes of one kind. -/
theorem filed_iff : l.Filed ↔
    (∀ key, key ∈ l.attributeGroups.keys ↔ ∃ x ∈ l.attributeRules, x.groupKey = key) ∧
    (∀ key rules, l.attributeGroups.get? key = some rules →
      rules = l.attributeRules.filter (·.groupKey == key)) ∧
    (∀ x ∈ l.attributeRules, x.hasAttributes = true) ∧
    (∀ k, ∀ x ∈ l.bucket k, x.kind = k ∧ x.hasAttributes = false) ∧
    ∀ x ∈ l.uniqueDomain, x.kind = .domain ∧ x.hasAttributes = false := by
  constructor
  · intro h
    exact ⟨fun key => h.mem_keys_iff,
      fun key rules hrules => (h.of_mem_entries (Table.mem_entries_iff.2 hrules)).2,
      h.of_mem_attributeRules, h.of_mem_bucket, h.of_mem_uniqueDomain⟩
  · rintro ⟨hkeys, hgroups, htagged, hbucket, hunique⟩
    refine ⟨hbucket, hunique, htagged, fun key => ?_, fun key hnil => ?_⟩
    · rw [groupAt]
      cases hget : l.attributeGroups.get? key with
      | some rules => exact hgroups key rules hget
      | none =>
        have hkey : key ∉ l.attributeGroups.keys := Table.get?_eq_none_iff.1 hget
        rw [hkeys] at hkey
        refine (List.filter_eq_nil_iff.2 fun x hx heq => hkey ⟨x, hx, ?_⟩).symm
        exact beq_iff_eq.1 heq
    · -- a group without rules would still be the group of some rule
      obtain ⟨x, hx, hxkey⟩ := (hkeys key).1 (Table.mem_keys_iff.2 ⟨_, hnil⟩)
      have hmem : x ∈ l.attributeRules.filter (·.groupKey == key) :=
        List.mem_filter.2 ⟨hx, beq_iff_eq.2 hxkey⟩
      rw [← hgroups key [] hnil] at hmem
      cases hmem

/-- Whatever is done to a new list, with whatever result, its groups agree with its rules with
attributes, and every rule stands where its kind and its attributes put it, as long as this holds of
the lists that it looks at. -/
theorem groups_agree_with_rules :
    (∀ l : DomainList, l.Filed ↔
      (∀ key, key ∈ l.attributeGroups.keys ↔ ∃ x ∈ l.attributeRules, x.groupKey = key) ∧
      (∀ key rules, l.attributeGroups.get? key = some rules →
        rules = l.attributeRules.filter (·.groupKey == key)) ∧
      (∀ x ∈ l.attributeRules, x.hasAttributes = true) ∧
      (∀ k, ∀ x ∈ l.bucket k, x.kind = k ∧ x.hasAttributes = false) ∧
      ∀ x ∈ l.uniqueDomain, x.kind = .domain ∧ x.hasAttributes = false) ∧
    ∀ (name : String) (ops : List Operation), (∀ op ∈ ops, op.LooksAt Filed) →
      ((named name).performAll ops).Filed :=
  ⟨fun _ => filed_iff, fun name _ hops => (filed_named name).performAll hops⟩

/-- Lists to include: one with two groups, one without a group. -/
def offered : Registry :=
  Registry.ofTexts [("b", "a.com @cn @ads\nfull:x.com @ads\nb.com @cn @ads"), ("c", "c.com")]

/-- Rules with attributes come from the list itself, from one group of an included list and, after
an inclusion that is not found and a domain rule without a value, from all its groups. -/
def longHistory : List Operation := [
  .addRule ⟨.keyword, "k", ["cn", "ads"]⟩,
  .addInclusion "b" [.attribute "cn"],
  .addInclusion "missing" [.all],
  .flatten offered.get?,
  .addRule ⟨.domain, "", []⟩,
  .dedupDomains,
  .addInclusion "b" [.all],
  .addInclusion "c" [.attribute "ads"],
  .flatten offered.get?]

/-- After the failures both copies still have the rules in the same order. -/
theorem groups_agree_with_rules_longHistory :
    (∀ op ∈ longHistory, op.LooksAt Filed) ∧ ((named "a").performAll longHistory).Filed ∧
      (((named "a").performAll longHistory).attributeGroups.entries.map
          fun e => (e.1, e.2.map (·.value))) =
        [("@ads", ["x.com"]), ("@cn@ads", ["k", "a.com", "b.com", "a.com", "b.com"])] := by
  have hoffered : ∀ a included, offered.get? a = some included → included.Filed :=
    fun _ _ hfound => ((Registry.parsed_ofTexts _).fresh hfound).filed
  have hops : ∀ op ∈ longHistory, op.LooksAt Filed := by
    simp only [longHistory, List.forall_mem_cons]
    exact ⟨trivial, trivial, trivial, hoffered, trivial, trivial, trivial, trivial, hoffered,
      by simp⟩
  exact ⟨hops, groups_agree_with_rules.2 "a" longHistory hops, by decide +kernel⟩

end RoutingData.DomainList
