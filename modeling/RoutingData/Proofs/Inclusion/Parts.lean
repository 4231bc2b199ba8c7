import RoutingData.Proofs.Filing

/-!
# Parts of a list

An inclusion adds the rules of the included list part by part: a bucket, or the rules with the same
attributes in order. Which filters ask for a part depends on the part alone (`Part.Wants`), and one
filter that asks for it is enough, so a part is added once or not at all (`Part.rules_merge`).
-/

namespace RoutingData.DomainList

/-- The rules that inclusions add together. -/
inductive Part where
  /-- The rules of one kind without attributes. -/
  | plain (kind : RuleKind)
  /-- The rules with the attributes in a group key. -/
  | tagged (key : String)

namespace Part

/-- The rules of a part. -/
def rules : Part → DomainList → List Rule
  | .plain kind, l => l.bucket kind
  | .tagged key, l => l.tagged key

/-- The filters that ask for a part. -/
def Wants : Part → Filter → Prop
  | .plain _, f => f = .all
  | .tagged key, f => f = .all ∨ ∃ a ∈ keyAttributes key, f = .attribute a

instance : (p : Part) → (f : Filter) → Decidable (p.Wants f)
  | .plain _, f => inferInstanceAs (Decidable (f = .all))
  | .tagged key, f => inferInstanceAs
    (Decidable (f = .all ∨ ∃ a ∈ keyAttributes key, f = .attribute a))

/-- A rule with attributes stands in one part of a list, that of its own attributes. -/
theorem count_rules_groupKey (l : DomainList) (x : Rule) :
    ((tagged x.groupKey).rules l).count x = l.attributeRules.count x :=
  List.count_filter (by simp)

variable {p : Part} {l included m : DomainList} {filters : List Filter} {key : String}
  {lookup : String → Option DomainList}

/-! ### One inclusion -/

/-- The filter for everything asks for every part. -/
theorem wants_all (p : Part) : p.Wants .all := by
  cases p with
  | plain _ => exact rfl
  | tagged _ => exact .inl rfl

/-- When everything is asked for, each part is added. -/
theorem rules_mergeAll (p : Part) (l included : DomainList) :
    p.rules (l.mergeAll included) = p.rules l ++ p.rules included := by
  cases p with
  | plain kind => cases kind <;> rfl
  | tagged key => exact List.filter_append _ _

/-- Attributes that filters ask for. -/
theorem mem_wantedAttributes {a : String} :
    a ∈ wantedAttributes filters ↔ .attribute a ∈ filters := by
  rw [wantedAttributes, List.mem_filterMap]
  constructor
  · rintro ⟨_ | b, hb, hba⟩
    · cases hba
    · cases hba
      exact hb
  · exact fun ha => ⟨_, ha, rfl⟩

/-- When some attributes are asked for, the rules under a key with one of them are added. -/
theorem tagged_mergeAttributes (hi : included.Filed) (wanted : List String) :
    (l.mergeAttributes included wanted).tagged key =
      l.tagged key ++
        if (keyAttributes key).any wanted.contains then included.tagged key else [] := by
  -- of the groups that are added only the one under the key matters
  have hkeys : ∀ e ∈ included.attributeGroups.entries,
      (e.1 == key && (keyAttributes e.1).any wanted.contains) =
        (e.1 == key && (keyAttributes key).any wanted.contains) := by
    intro e _
    by_cases h : e.1 = key
    · rw [h]
    · rw [beq_eq_false_iff_ne.2 h, Bool.false_and, Bool.false_and]
  have hgroups : ∀ e ∈ included.attributeGroups.entries.filter
      fun e => (keyAttributes e.1).any wanted.contains, ∀ x ∈ e.2, x.groupKey = e.1 :=
    fun e he x hx => (hi.groupKey_of_mem (List.mem_of_mem_filter he) hx).2
  rw [mergeAttributes, DomainList.tagged, List.filter_append, filter_flatMap_groups hgroups,
    List.filter_filter, List.filter_congr hkeys, ← DomainList.tagged]
  congr 1
  cases (keyAttributes key).any wanted.contains with
  | false => simp
  | true =>
    simp only [Bool.and_true, if_true]
    rw [flatMap_filter_entries, hi.groupAt_eq]

/-- An inclusion adds a part once when a filter asks for it, and otherwise leaves it alone. -/
theorem rules_merge (p : Part) (l : DomainList) (hi : included.Filed) (filters : List Filter) :
    p.rules (l.merge included filters) =
      p.rules l ++ if ∃ f ∈ filters, p.Wants f then p.rules included else [] := by
  rw [merge]
  by_cases hall : .all ∈ filters
  · rw [if_pos (by simpa using hall), if_pos ⟨_, hall, p.wants_all⟩, rules_mergeAll]
  · rw [if_neg (by simpa using hall)]
    cases p with
    | plain kind =>
      have hnone : ¬ ∃ f ∈ filters, (plain kind).Wants f := by
        rintro ⟨f, hf, rfl⟩
        exact hall hf
      rw [if_neg hnone, List.append_nil]
      cases kind <;> rfl
    | tagged key =>
      have hwanted : (keyAttributes key).any (wantedAttributes filters).contains = true ↔
          ∃ f ∈ filters, (tagged key).Wants f := by
        simp only [List.any_eq_true, List.contains_iff_mem, mem_wantedAttributes]
        constructor
        · rintro ⟨a, ha, hmem⟩
          exact ⟨_, hmem, .inr ⟨a, ha, rfl⟩⟩
        · rintro ⟨f, hf, rfl | ⟨a, ha, rfl⟩⟩
          · exact absurd hf hall
          · exact ⟨a, ha, hf⟩
      rw [rules, rules, rules, tagged_mergeAttributes hi]
      simp only [hwanted]

/-! ### All inclusions -/

/-- What an inclusion adds to a part. -/
def addition (p : Part) (lookup : String → Option DomainList) (e : String × List Filter) :
    List Rule :=
  if ∃ f ∈ e.2, p.Wants f then ((lookup e.1).map p.rules).getD [] else []

/-- What inclusions of filed lists add to a part. -/
theorem rules_mergeEach (p : Part)
    (hlookup : ∀ a included, lookup a = some included → included.Filed) :
    ∀ (es : List (String × List Filter)) (l : DomainList),
      (mergeEach lookup es l).1 = .ok () →
      p.rules (mergeEach lookup es l).2 = p.rules l ++ es.flatMap (p.addition lookup) := by
  intro es
  induction es with
  | nil => simp [mergeEach]
  | cons e es ih =>
    intro l hok
    rw [mergeEach] at hok ⊢
    cases hfound : lookup e.1 with
    | none =>
      simp only [hfound] at hok
      cases hok
    | some included =>
      simp only [hfound] at hok ⊢
      rw [ih _ hok, p.rules_merge l (hlookup _ _ hfound), List.append_assoc, List.flatMap_cons,
        addition, hfound]
      rfl

/-- What all inclusions of a list add to a part. -/
theorem rules_flatten (p : Part)
    (hlookup : ∀ a included, lookup a = some included → included.Filed)
    (hok : (l.flatten lookup).1 = .ok ()) :
    p.rules (l.flatten lookup).2 =
      p.rules l ++ l.inclusions.entries.flatMap (p.addition lookup) := by
  have hsame : ∀ (l : DomainList) inclusions,
      p.rules { l with inclusions := inclusions } = p.rules l := by
    intro l inclusions
    cases p with
    | plain kind => cases kind <;> rfl
    | tagged key => rfl
  obtain ⟨inclusions, heq⟩ := flatten_eq lookup l
  rw [heq] at hok ⊢
  rw [hsame _ inclusions, p.rules_mergeEach hlookup _ _ hok, hsame l ∅]

/-- Reordering the domain rules and selecting some of them reorders a part at most. -/
theorem rules_withDomain_perm (p : Part) {sorted unique : List Rule} (h : sorted.Perm l.domain) :
    (p.rules { l with domain := sorted, uniqueDomain := unique }).Perm (p.rules l) := by
  rcases p with (_ | _ | _ | _) | key
  · exact .refl _
  · exact h
  · exact .refl _
  · exact .refl _
  · exact .refl _

/-- The selection of covering rules only changes the order of a part. -/
theorem rules_dedupDomains_perm (p : Part) (l : DomainList) :
    (p.rules l.dedupDomains.2).Perm (p.rules l) := by
  have hperm := (sortedByGenerality l.domain).perm
  by_cases hempty : ∃ x ∈ l.domain, x.value = ""
  · rw [dedupDomains_of_empty hempty]
    exact p.rules_withDomain_perm hperm
  · rw [dedupDomains_of_values fun x hx hvalue => hempty ⟨x, hx, hvalue⟩]
    exact p.rules_withDomain_perm hperm

end Part

end RoutingData.DomainList
