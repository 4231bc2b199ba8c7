import RoutingData.Build
import RoutingData.Proofs.Inclusion.Multiplicity

/-!
# Exported rules

An entry of the dataset holds a message for each rule that a list exports. After resolution, rules
without a value can only be keywords, since a list that is read gives every other rule a value. Of
the keywords without attributes those without a value are left out, but a keyword that has
attributes is exported with no value at all: `value_eq_empty_iff` says exactly when.
-/

namespace RoutingData

namespace DomainList

variable {l m : DomainList} {x : Rule}

/-- The rules that a list exports. -/
theorem mem_toRules_iff {excluded : AttributeSet} :
    x ∈ l.toRules excluded ↔
      x ∈ l.full ∨ x ∈ l.uniqueDomain ∨ x ∈ l.regex ∨
        (x ∈ l.keyword ∧ Text.isBlankText x.value = false) ∨
        x ∈ l.attributeRules ∧ x.attributes.any excluded.contains = false := by
  simp only [toRules, List.mem_append, List.mem_filter, Bool.not_eq_true', or_assoc]

/-- The domain rules that are selected when a list settles are domain rules of the list. -/
theorem mem_domain_of_settle {lookup : String → Option DomainList}
    (h : l.settle lookup = (.ok (), m)) (hx : x ∈ m.uniqueDomain) : x ∈ m.domain := by
  have hdedup := (settle_eq_ok_iff.1 h).2
  have hvalues := dedupDomains_eq_ok_iff.1 (congrArg Prod.fst hdedup)
  rw [dedupDomains_of_values hvalues] at hdedup
  cases hdedup
  exact (leaders_sublist _ _).subset hx

end DomainList

namespace Registry

variable {r R : Registry} {a : String} {l : DomainList} {excluded : Exclusions} {entry : SiteEntry}
  {x : Rule}

/-- The entries of a dataset are those of the lists, under their names. -/
theorem mem_toEntries_iff (hR : R.Keyed) :
    entry ∈ R.toEntries excluded ↔ ∃ l, R.get? entry.code = some l ∧
      entry = .ofRules entry.code (l.toRules ((excluded.get? entry.code).getD ∅)) := by
  rw [toEntries, exportedRules, List.map_map, List.mem_map]
  constructor
  · rintro ⟨l, hl, rfl⟩
    exact ⟨l, hR.get?_name hl, rfl⟩
  · rintro ⟨l, hl, hentry⟩
    refine ⟨l, Table.mem_values_iff.2 ⟨_, hl⟩, ?_⟩
    rw [hentry, Function.comp_apply, hR _ l hl]

/-- After resolution, the rules without attributes that are no keywords have values. -/
theorem value_ne_empty_of_mem_bucket (hr : r.Parsed) (hok : r.resolve.1 = .ok ())
    (hl : r.resolve.2.get? a = some l) {k : RuleKind} (hk : k ≠ .keyword)
    (hx : x ∈ l.bucket k) : x.value ≠ "" := by
  have hmem : x ∈ r.resolve.2.rulesAt (DomainList.Part.plain k).rules a :=
    mem_rulesAt_iff.2 ⟨l, hl, hx⟩
  rw [mem_rulesAt_resolve_iff hr.keyed (fun _ _ h => (hr.fresh h).filed) hok] at hmem
  obtain ⟨c, -, hend⟩ := hmem
  obtain ⟨m, hm, hxm⟩ := mem_rulesAt_iff.1 hend
  have hkind := (hr.fresh hm).filed.of_mem_bucket k x hxm
  exact fun hvalue => hk (hkind.1.symm.trans ((hr.fresh hm).valued_of_mem_bucket k x hxm hvalue))

/-- After resolution, an exported rule without a value is a rule with attributes. -/
theorem mem_attributeRules_of_mem_toRules (hr : r.Parsed) (hok : r.resolve.1 = .ok ())
    (hl : r.resolve.2.get? a = some l) {excluded : AttributeSet} (hx : x ∈ l.toRules excluded)
    (hvalue : x.value = "") :
    x ∈ l.attributeRules ∧ x.attributes.any excluded.contains = false := by
  rcases DomainList.mem_toRules_iff.1 hx with hx | hx | hx | ⟨-, hblank⟩ | hx
  · exact absurd hvalue (value_ne_empty_of_mem_bucket hr hok hl (k := .full) (by decide) hx)
  · -- the list is settled, so its selected rules are domain rules
    have hkey : a ∈ r.keys := by
      by_contra hkey
      rw [(resolve_ok hr.keyed hok).2.2.2 a hkey] at hl
      cases hl
    obtain ⟨_, m, -, hm, hsettle⟩ := (resolve_ok hr.keyed hok).2.2.1 a hkey
    rw [hl] at hm
    cases hm
    have hx := DomainList.mem_domain_of_settle hsettle hx
    exact absurd hvalue (value_ne_empty_of_mem_bucket hr hok hl (k := .domain) (by decide) hx)
  · exact absurd hvalue (value_ne_empty_of_mem_bucket hr hok hl (k := .regex) (by decide) hx)
  · -- an empty value is blank
    rw [hvalue] at hblank
    cases hblank
  · exact hx

/-- After resolution, a list has a rule with attributes when a chain of inclusions that each ask for
everything or for one of its attributes leads to it. -/
theorem mem_attributeRules_resolve_iff (hr : r.Parsed) (hok : r.resolve.1 = .ok ()) :
    x ∈ r.resolve.2.rulesAt (·.attributeRules) a ↔ ∃ c ∈ r.chainsFrom
        (fun f => f = .all ∨ ∃ k ∈ DomainList.keyAttributes x.groupKey, f = .attribute k) a,
      x ∈ r.rulesAt (·.attributeRules) (c.getLastD a) := by
  simp only [← @List.count_pos_iff _ _ _ x, count_rulesAt_attributeRules]
  simp only [List.count_pos_iff]
  exact mem_rulesAt_resolve_iff hr.keyed (fun _ _ h => (hr.fresh h).filed) hok
    (.tagged x.groupKey) x a

/-- The messages without a value are those of keywords that have attributes, none of them excluded,
and that a chain of inclusions, each asking for everything or for one of the attributes, brings from
a list as it was read. -/
theorem value_eq_empty_iff (hr : r.Parsed) (hok : r.resolve.1 = .ok ()) (excluded : Exclusions) :
    ∀ entry ∈ r.resolve.2.toEntries excluded, ∀ d,
      d ∈ entry.domains ∧ d.value = "" ↔ ∃ c x, d = .ofRule x ∧
        x.kind = .keyword ∧ x.value = "" ∧ x.hasAttributes = true ∧
        x.attributes.any ((excluded.get? entry.code).getD ∅).contains = false ∧
        c ∈ r.chainsFrom
          (fun f => f = .all ∨ ∃ k ∈ DomainList.keyAttributes x.groupKey, f = .attribute k)
          entry.code ∧
        x ∈ r.rulesAt (·.attributeRules) (c.getLastD entry.code) := by
  intro entry hentry d
  obtain ⟨l, hl, heq⟩ := (mem_toEntries_iff hr.keyed.resolve).1 hentry
  have hdomains : entry.domains =
      (l.toRules ((excluded.get? entry.code).getD ∅)).map .ofRule := congrArg (·.domains) heq
  rw [hdomains, List.mem_map]
  constructor
  · rintro ⟨⟨x, hx, rfl⟩, hvalue⟩
    obtain ⟨hmem, hkept⟩ := mem_attributeRules_of_mem_toRules hr hok hl hx hvalue
    obtain ⟨c, hc, hend⟩ :=
      (mem_attributeRules_resolve_iff hr hok).1 (mem_rulesAt_iff.2 ⟨l, hl, hmem⟩)
    obtain ⟨m, hm, hxm⟩ := mem_rulesAt_iff.1 hend
    have hfresh := hr.fresh hm
    exact ⟨c, x, rfl, hfresh.valued_of_mem_attributeRules x hxm hvalue, hvalue,
      hfresh.filed.of_mem_attributeRules x hxm, hkept, hc, hend⟩
  · rintro ⟨c, x, rfl, -, hvalue, -, hkept, hc, hend⟩
    obtain ⟨l', hl', hmem⟩ :=
      mem_rulesAt_iff.1 ((mem_attributeRules_resolve_iff hr hok).2 ⟨c, hc, hend⟩)
    rw [hl] at hl'
    cases hl'
    have hlast : x ∈ l.attributeRules ∧
        x.attributes.any ((excluded.get? entry.code).getD ∅).contains = false := ⟨hmem, hkept⟩
    exact ⟨⟨x, DomainList.mem_toRules_iff.2 (.inr (.inr (.inr (.inr hlast)))), rfl⟩, hvalue⟩

/-- A list with a keyword that has an attribute and no value. -/
def bareKeyword : Registry := ofTexts [("cn", "keyword: @ads")]

/-- The registry with the keyword can be resolved. -/
theorem resolve_bareKeyword : bareKeyword.resolve.1 = .ok () := by decide +kernel

/-- The keyword is in the entry of its list. -/
theorem mem_toEntries_bareKeyword :
    (⟨"CN", [⟨0, "", [⟨"ads", some (.bool true)⟩]⟩]⟩ : SiteEntry) ∈
      bareKeyword.resolve.2.toEntries ∅ := by
  decide +kernel

/-- The keyword is exported without a value. -/
theorem exists_value_eq_empty_bareKeyword :
    bareKeyword.Parsed ∧ bareKeyword.resolve.1 = .ok () ∧
      ∃ entry ∈ bareKeyword.resolve.2.toEntries ∅, ∃ d ∈ entry.domains, d.value = "" := by
  have hr : bareKeyword.Parsed := parsed_ofTexts _
  have hend : (⟨.keyword, "", ["ads"]⟩ : Rule) ∈ bareKeyword.rulesAt (·.attributeRules) "CN" := by
    decide +kernel
  refine ⟨hr, resolve_bareKeyword, _, mem_toEntries_bareKeyword,
    .ofRule ⟨.keyword, "", ["ads"]⟩, ?_⟩
  refine (value_eq_empty_iff hr resolve_bareKeyword ∅ _ mem_toEntries_bareKeyword _).2
    ⟨[], ⟨.keyword, "", ["ads"]⟩, rfl, rfl, rfl, rfl, ?_, ?_, hend⟩
  · decide
  · exact .singleton "CN"

/-- Not every message of every dataset has a value. -/
theorem not_forall_value_ne_empty :
    ¬ ∀ r : Registry, r.Parsed → r.resolve.1 = .ok () → ∀ excluded : Exclusions,
      ∀ entry ∈ r.resolve.2.toEntries excluded, ∀ d ∈ entry.domains, d.value ≠ "" := by
  intro h
  exact h bareKeyword (parsed_ofTexts _) resolve_bareKeyword ∅ _ mem_toEntries_bareKeyword _
    List.mem_cons_self rfl

end Registry

end RoutingData
