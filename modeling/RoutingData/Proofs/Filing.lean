import RoutingData.Proofs.MinimalCover
import RoutingData.Proofs.Table

/-!
# Where the rules of a list stand

Rules without attributes stand in the bucket of their kind. Rules with attributes stand in one
sequence and, once more, in groups by their attributes. `Filed` says that the two never drift apart:
each group is the subsequence of the rules with its key. Every operation on lists keeps it. What the
single operations keep (`Kept`) is kept by resolution, which consists of them.
-/

namespace RoutingData.DomainList

/-- The rules of one kind without attributes. -/
def bucket (l : DomainList) : RuleKind → List Rule
  | .full => l.full
  | .domain => l.domain
  | .keyword => l.keyword
  | .regex => l.regex

/-- The rules in the group under a key. -/
def groupAt (groups : Table String (List Rule)) (key : String) : List Rule :=
  (groups.get? key).getD []

/-- The rules of a list with the given attributes, in order. -/
def tagged (l : DomainList) (key : String) : List Rule :=
  l.attributeRules.filter (·.groupKey == key)

/-- Every rule stands where its kind and its attributes put it. -/
structure Filed (l : DomainList) : Prop where
  /-- A bucket holds rules of its kind without attributes. -/
  of_mem_bucket : ∀ k, ∀ x ∈ l.bucket k, x.kind = k ∧ x.hasAttributes = false
  /-- So does the selection of domain rules. -/
  of_mem_uniqueDomain : ∀ x ∈ l.uniqueDomain, x.kind = .domain ∧ x.hasAttributes = false
  /-- The other rules have attributes. -/
  of_mem_attributeRules : ∀ x ∈ l.attributeRules, x.hasAttributes = true
  /-- The group under a key holds the rules with that key. -/
  groupAt_eq : ∀ key, groupAt l.attributeGroups key = l.tagged key
  /-- No group is empty. -/
  group_ne_nil : ∀ key, l.attributeGroups.get? key ≠ some []

variable {l included : DomainList} {key : String}

/-! ### Groups -/

/-- Adding rules to one group leaves the others alone. -/
theorem groupAt_extendGroup (groups : Table String (List Rule)) (j key : String)
    (rules : List Rule) :
    groupAt (extendGroup groups j rules) key =
      groupAt groups key ++ if j = key then rules else [] := by
  rw [groupAt, extendGroup]
  by_cases h : j = key
  · rw [h, Table.get?_upsert_self, if_pos rfl]
    rfl
  · rw [Table.get?_upsert_of_ne _ _ (Ne.symm h), if_neg h, List.append_nil]
    rfl

/-- Adding rules to groups one after the other. -/
theorem groupAt_foldl_extendGroup (es : List (String × List Rule)) :
    ∀ (groups : Table String (List Rule)) (key : String),
      groupAt (es.foldl (fun g e => extendGroup g e.1 e.2) groups) key =
        groupAt groups key ++ (es.filter (·.1 == key)).flatMap (·.2) := by
  induction es with
  | nil => simp
  | cons e es ih =>
    intro groups key
    rw [List.foldl_cons, ih, groupAt_extendGroup, List.filter_cons]
    by_cases h : e.1 = key
    · simp [h]
    · simp [h]

/-- No group is empty after some rules were added to one. -/
theorem extendGroup_ne_nil {groups : Table String (List Rule)} {rules : List Rule}
    (h : ∀ key, groups.get? key ≠ some []) (hrules : rules ≠ []) (j key : String) :
    (extendGroup groups j rules).get? key ≠ some [] := by
  unfold extendGroup
  by_cases hkey : key = j
  · rw [hkey, Table.get?_upsert_self]
    simp [hrules]
  · rw [Table.get?_upsert_of_ne _ _ hkey]
    exact h key

/-- Nor after some were added to several, one after the other. -/
theorem foldl_extendGroup_ne_nil {es : List (String × List Rule)} (hes : ∀ e ∈ es, e.2 ≠ []) :
    ∀ {groups : Table String (List Rule)}, (∀ key, groups.get? key ≠ some []) →
      ∀ key, (es.foldl (fun g e => extendGroup g e.1 e.2) groups).get? key ≠ some [] := by
  induction es with
  | nil => exact fun h => h
  | cons e es ih =>
    intro groups h
    obtain ⟨he, hes⟩ := List.forall_mem_cons.1 hes
    exact ih hes (extendGroup_ne_nil h he e.1)

/-- The rules in the entries of a key are those of its group. -/
theorem flatMap_filter_entries (groups : Table String (List Rule)) (key : String) :
    (groups.entries.filter (·.1 == key)).flatMap (·.2) = groupAt groups key := by
  rw [Table.filter_entries, groupAt]
  cases groups.get? key <;> simp

/-- Rules gathered from groups that hold the rules with their keys, as far as they have one key. -/
theorem filter_flatMap_groups {es : List (String × List Rule)}
    (hes : ∀ e ∈ es, ∀ x ∈ e.2, x.groupKey = e.1) :
    (es.flatMap (·.2)).filter (·.groupKey == key) =
      (es.filter (·.1 == key)).flatMap (·.2) := by
  induction es with
  | nil => rfl
  | cons e es ih =>
    -- a group is picked entirely or not at all
    have he : e.2.filter (·.groupKey == key) = if e.1 = key then e.2 else [] := by
      have hkey : ∀ x ∈ e.2, (x.groupKey == key) = (e.1 == key) := fun x hx => by
        rw [hes e List.mem_cons_self x hx]
      rw [List.filter_congr hkey]
      by_cases h : e.1 = key
      · simp [h]
      · simp [h]
    rw [List.flatMap_cons, List.filter_append, he, List.filter_cons,
      ih fun d hd => hes d (List.mem_cons_of_mem e hd)]
    by_cases h : e.1 = key
    · simp [h]
    · simp [h]

/-- A group of a filed list holds rules with its key, all of them with attributes. -/
theorem Filed.of_mem_entries (h : l.Filed) {e : String × List Rule}
    (he : e ∈ l.attributeGroups.entries) : e.2 ≠ [] ∧ e.2 = l.tagged e.1 := by
  have hget := Table.mem_entries_iff.1 he
  refine ⟨fun hnil => h.group_ne_nil e.1 (by rw [hget, hnil]), ?_⟩
  rw [← h.groupAt_eq, groupAt, hget]
  rfl

/-- The rules in a group of a filed list have its key. -/
theorem Filed.groupKey_of_mem (h : l.Filed) {e : String × List Rule}
    (he : e ∈ l.attributeGroups.entries) {x : Rule} (hx : x ∈ e.2) :
    x ∈ l.attributeRules ∧ x.groupKey = e.1 := by
  rw [(h.of_mem_entries he).2, tagged, List.mem_filter] at hx
  exact ⟨hx.1, by simpa using hx.2⟩

/-! ### Operations -/

/-- A list without rules is filed. -/
theorem filed_named (name : String) : (named name).Filed where
  of_mem_bucket := by rintro (_ | _ | _ | _) <;> simp [named, bucket]
  of_mem_uniqueDomain := by simp [named]
  of_mem_attributeRules := by simp [named]
  groupAt_eq := fun key => by simp [named, groupAt, tagged]
  group_ne_nil := fun key => by simp [named]

/-- Inclusions do not concern rules. -/
theorem Filed.withInclusions (h : l.Filed) (has : Bool) (inclusions : Table String (List Filter)) :
    ({ l with hasInclusion := has, inclusions := inclusions } : DomainList).Filed :=
  ⟨h.of_mem_bucket, h.of_mem_uniqueDomain, h.of_mem_attributeRules, h.groupAt_eq, h.group_ne_nil⟩

/-- Adding an inclusion. -/
theorem Filed.addInclusion (h : l.Filed) (target : String) (filters : List Filter) :
    (l.addInclusion target filters).Filed :=
  h.withInclusions _ _

/-! ### Adding rules -/

/-- Adding rules one after the other. -/
def addRules (l : DomainList) (rules : List Rule) : DomainList := rules.foldl addRule l

/-- A rule without attributes is added to the bucket of its kind. -/
theorem bucket_addRule (l : DomainList) (x : Rule) (k : RuleKind) :
    (l.addRule x).bucket k =
      l.bucket k ++ if !x.hasAttributes && x.kind == k then [x] else [] := by
  cases hattributes : x.hasAttributes with
  | true =>
    simp only [addRule, hattributes, if_true, Bool.not_true, Bool.false_and, Bool.false_eq_true,
      if_false, List.append_nil]
    cases k <;> rfl
  | false =>
    simp only [addRule, hattributes, Bool.false_eq_true, if_false, Bool.not_false, Bool.true_and]
    cases x.kind <;> cases k <;> simp [bucket]

/-- A rule with attributes is added to the others. -/
theorem attributeRules_addRule (l : DomainList) (x : Rule) :
    (l.addRule x).attributeRules =
      l.attributeRules ++ if x.hasAttributes then [x] else [] := by
  cases hattributes : x.hasAttributes with
  | true => simp only [addRule, hattributes, if_true]
  | false =>
    simp only [addRule, hattributes, Bool.false_eq_true, if_false, List.append_nil]
    cases x.kind <;> rfl

/-- It is added to a group, too. -/
theorem attributeGroups_addRule (l : DomainList) (x : Rule) :
    (l.addRule x).attributeGroups =
      if x.hasAttributes then extendGroup l.attributeGroups x.groupKey [x]
      else l.attributeGroups := by
  cases hattributes : x.hasAttributes with
  | true => simp only [addRule, hattributes, if_true]
  | false =>
    simp only [addRule, hattributes, Bool.false_eq_true, if_false]
    cases x.kind <;> rfl

/-- The rest of the list stays. -/
theorem addRule_frame (l : DomainList) (x : Rule) :
    (l.addRule x).name = l.name ∧ (l.addRule x).hasInclusion = l.hasInclusion ∧
      (l.addRule x).inclusions = l.inclusions ∧ (l.addRule x).uniqueDomain = l.uniqueDomain := by
  unfold addRule
  split
  · exact ⟨rfl, rfl, rfl, rfl⟩
  · split <;> exact ⟨rfl, rfl, rfl, rfl⟩

/-- Inclusions do not matter for where a rule goes. -/
theorem addRule_withInclusions (l : DomainList) (x : Rule) (has : Bool)
    (inclusions : Table String (List Filter)) :
    ({ l with hasInclusion := has, inclusions := inclusions } : DomainList).addRule x =
      { l.addRule x with hasInclusion := has, inclusions := inclusions } := by
  unfold addRule
  split
  · rfl
  · split <;> rfl

/-- What rules are added to a bucket. -/
theorem bucket_addRules (l : DomainList) (rules : List Rule) (k : RuleKind) :
    (l.addRules rules).bucket k =
      l.bucket k ++ rules.filter fun x => !x.hasAttributes && x.kind == k := by
  induction rules generalizing l with
  | nil => exact (List.append_nil _).symm
  | cons x rules ih =>
    show ((l.addRule x).addRules rules).bucket k = _
    rw [ih, bucket_addRule, List.filter_cons, List.append_assoc]
    split
    · rfl
    · rfl

/-- What rules are added to those with attributes. -/
theorem attributeRules_addRules (l : DomainList) (rules : List Rule) :
    (l.addRules rules).attributeRules = l.attributeRules ++ rules.filter (·.hasAttributes) := by
  induction rules generalizing l with
  | nil => exact (List.append_nil _).symm
  | cons x rules ih =>
    show ((l.addRule x).addRules rules).attributeRules = _
    rw [ih, attributeRules_addRule, List.filter_cons, List.append_assoc]
    split
    · rfl
    · rfl

/-- The rest of the list stays when rules are added. -/
theorem addRules_frame (l : DomainList) (rules : List Rule) :
    (l.addRules rules).name = l.name ∧ (l.addRules rules).uniqueDomain = l.uniqueDomain := by
  induction rules generalizing l with
  | nil => exact ⟨rfl, rfl⟩
  | cons x rules ih =>
    obtain ⟨hname, -, -, hunique⟩ := l.addRule_frame x
    obtain ⟨hname', hunique'⟩ := ih (l.addRule x)
    exact ⟨hname'.trans hname, hunique'.trans hunique⟩

/-- Inclusions do not matter for where rules go. -/
theorem addRules_withInclusions (l : DomainList) (rules : List Rule) (has : Bool)
    (inclusions : Table String (List Filter)) :
    ({ l with hasInclusion := has, inclusions := inclusions } : DomainList).addRules rules =
      { l.addRules rules with hasInclusion := has, inclusions := inclusions } := by
  induction rules generalizing l with
  | nil => rfl
  | cons x rules ih =>
    rw [addRules, List.foldl_cons, addRule_withInclusions]
    exact ih (l.addRule x)

/-- An added rule is filed. -/
theorem Filed.addRule (h : l.Filed) (x : Rule) : (l.addRule x).Filed where
  of_mem_bucket := by
    intro k y hy
    rw [bucket_addRule, List.mem_append] at hy
    rcases hy with hy | hy
    · exact h.of_mem_bucket k y hy
    · split at hy
      next hx =>
        obtain rfl := List.mem_singleton.1 hy
        simpa [and_comm] using hx
      next => cases hy
  of_mem_uniqueDomain := by
    rw [(l.addRule_frame x).2.2.2]
    exact h.of_mem_uniqueDomain
  of_mem_attributeRules := by
    intro y hy
    rw [attributeRules_addRule, List.mem_append] at hy
    rcases hy with hy | hy
    · exact h.of_mem_attributeRules y hy
    · split at hy
      next hx =>
        obtain rfl := List.mem_singleton.1 hy
        exact hx
      next => cases hy
  groupAt_eq := by
    intro key
    rw [attributeGroups_addRule, tagged, attributeRules_addRule, List.filter_append, ← tagged,
      ← h.groupAt_eq]
    split
    next =>
      -- only the group with the key of the rule gets longer
      rw [groupAt_extendGroup]
      by_cases hkey : x.groupKey = key
      · simp [hkey]
      · simp [hkey]
    next => exact (List.append_nil _).symm
  group_ne_nil := by
    intro key
    rw [attributeGroups_addRule]
    split
    · exact extendGroup_ne_nil h.group_ne_nil (List.cons_ne_nil x []) _ key
    · exact h.group_ne_nil key

/-- Added rules are filed. -/
theorem Filed.addRules (h : l.Filed) (rules : List Rule) : (l.addRules rules).Filed :=
  List.foldlRecOn rules _ h fun _ hl x _ => hl.addRule x

/-! ### Adding rules of other lists -/

/-- Adding all rules of a filed list. -/
theorem Filed.mergeAll (h : l.Filed) (hi : included.Filed) : (l.mergeAll included).Filed where
  of_mem_bucket := by
    intro k x hx
    have hx : x ∈ l.bucket k ++ included.bucket k := by cases k <;> exact hx
    rcases List.mem_append.1 hx with hx | hx
    · exact h.of_mem_bucket k x hx
    · exact hi.of_mem_bucket k x hx
  of_mem_uniqueDomain := h.of_mem_uniqueDomain
  of_mem_attributeRules := by
    intro x hx
    rcases List.mem_append.1 hx with hx | hx
    · exact h.of_mem_attributeRules x hx
    · exact hi.of_mem_attributeRules x hx
  groupAt_eq := by
    intro key
    rw [DomainList.mergeAll, groupAt_foldl_extendGroup, flatMap_filter_entries, h.groupAt_eq,
      hi.groupAt_eq, tagged, tagged, tagged, List.filter_append]
  group_ne_nil :=
    foldl_extendGroup_ne_nil (fun _ he => (hi.of_mem_entries he).1) h.group_ne_nil

/-- Adding some groups of a filed list. -/
theorem Filed.mergeAttributes (h : l.Filed) (hi : included.Filed) (wanted : List String) :
    (l.mergeAttributes included wanted).Filed where
  of_mem_bucket := h.of_mem_bucket
  of_mem_uniqueDomain := h.of_mem_uniqueDomain
  of_mem_attributeRules := by
    intro x hx
    rcases List.mem_append.1 hx with hx | hx
    · exact h.of_mem_attributeRules x hx
    · obtain ⟨e, he, hx⟩ := List.mem_flatMap.1 hx
      exact hi.of_mem_attributeRules x (hi.groupKey_of_mem (List.mem_of_mem_filter he) hx).1
  groupAt_eq := by
    intro key
    rw [DomainList.mergeAttributes, groupAt_foldl_extendGroup, h.groupAt_eq, tagged, tagged,
      List.filter_append, filter_flatMap_groups]
    exact fun e he x hx => (hi.groupKey_of_mem (List.mem_of_mem_filter he) hx).2
  group_ne_nil :=
    foldl_extendGroup_ne_nil (fun _ he => (hi.of_mem_entries (List.mem_of_mem_filter he)).1)
      h.group_ne_nil

/-- Adding the rules of a filed list that filters ask for. -/
theorem Filed.merge (h : l.Filed) (hi : included.Filed) (filters : List Filter) :
    (l.merge included filters).Filed := by
  rw [DomainList.merge]
  split
  · exact h.mergeAll hi
  · exact h.mergeAttributes hi _

/-- Adding what the inclusions ask for is adding the rules of included lists one after the other, as
far as the inclusions themselves do not matter. -/
theorem flatten_eq (lookup : String → Option DomainList) (l : DomainList) :
    ∃ inclusions, l.flatten lookup =
      ((mergeEach lookup l.inclusions.entries { l with inclusions := ∅ }).1,
        { (mergeEach lookup l.inclusions.entries { l with inclusions := ∅ }).2 with
          inclusions := inclusions }) := by
  rw [flatten]
  split
  next heq =>
    rw [heq]
    exact ⟨l.inclusions, rfl⟩
  next merged heq =>
    rw [heq]
    exact ⟨merged.inclusions, rfl⟩

/-- Sorting the domain rules and selecting some of them. -/
theorem Filed.dedupDomains (h : l.Filed) : l.dedupDomains.2.Filed := by
  have hperm := (sortedByGenerality l.domain).perm
  have hsorted : ({ l with domain := sortByGenerality l.domain } : DomainList).Filed := by
    refine ⟨?_, h.of_mem_uniqueDomain, h.of_mem_attributeRules, h.groupAt_eq, h.group_ne_nil⟩
    rintro (_ | _ | _ | _) x hx
    · exact h.of_mem_bucket .full x hx
    · exact h.of_mem_bucket .domain x (hperm.mem_iff.1 hx)
    · exact h.of_mem_bucket .keyword x hx
    · exact h.of_mem_bucket .regex x hx
  by_cases hempty : ∃ x ∈ l.domain, x.value = ""
  · rw [dedupDomains_of_empty hempty]
    exact hsorted
  · rw [dedupDomains_of_values fun x hx hvalue => hempty ⟨x, hx, hvalue⟩]
    refine ⟨hsorted.of_mem_bucket, fun x hx => ?_, h.of_mem_attributeRules, h.groupAt_eq,
      h.group_ne_nil⟩
    exact hsorted.of_mem_bucket .domain x ((leaders_sublist _ _).subset hx)

/-! ### Properties that operations keep -/

/-- The operations that resolution consists of keep the property. -/
structure Kept (Q : DomainList → Prop) : Prop where
  /-- Inclusions do not matter. -/
  withInclusions : ∀ {l : DomainList} (inclusions : Table String (List Filter)),
    Q l → Q { l with inclusions := inclusions }
  /-- Adding rules of a list that has the property keeps it. -/
  merge : ∀ {l included : DomainList} (filters : List Filter),
    Q l → Q included → Q (l.merge included filters)
  /-- Selecting domain rules keeps it. -/
  dedupDomains : ∀ {l : DomainList}, Q l → Q l.dedupDomains.2

/-- Lists stay filed. -/
theorem kept_filed : Kept Filed where
  withInclusions := fun inclusions h => h.withInclusions _ inclusions
  merge := fun filters h hi => h.merge hi filters
  dedupDomains := Filed.dedupDomains

section Kept

variable {Q : DomainList → Prop} {lookup : String → Option DomainList}

/-- Adding the rules of included lists one after the other keeps what operations keep. -/
theorem Kept.mergeEach (hQ : Kept Q) (hlookup : ∀ a included, lookup a = some included → Q included)
    (es : List (String × List Filter)) (h : Q l) : Q (mergeEach lookup es l).2 := by
  induction es generalizing l with
  | nil => exact h
  | cons e es ih =>
    rw [DomainList.mergeEach]
    split
    · exact h
    next hfound => exact ih (hQ.merge _ h (hlookup _ _ hfound))

/-- Adding what inclusions ask for keeps what operations keep, also when an included list is
unknown. -/
theorem Kept.flatten (hQ : Kept Q) (hlookup : ∀ a included, lookup a = some included → Q included)
    (h : Q l) : Q (l.flatten lookup).2 := by
  obtain ⟨inclusions, heq⟩ := flatten_eq lookup l
  rw [heq]
  exact hQ.withInclusions _ (hQ.mergeEach hlookup l.inclusions.entries (hQ.withInclusions ∅ h))

end Kept

end RoutingData.DomainList
