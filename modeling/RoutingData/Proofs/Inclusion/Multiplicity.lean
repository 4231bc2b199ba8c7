import RoutingData.Proofs.Inclusion.Chains
import RoutingData.Proofs.Inclusion.Parts
import RoutingData.Proofs.Inclusion.Resolution
import RoutingData.Proofs.Reading

/-!
# How often a rule is taken over

After resolution, a rule stands in a list as often as chains of inclusions bring it there: once for
every chain from the list and every time that the rule stands in the list at the end of the chain as
it was read. A chain brings a rule when each of its inclusions asks for the part that the rule
belongs to. The induction is along inclusions, from the lists that include nothing upwards, and is
the same for every part (`count_rulesAt_resolve`).
-/

namespace RoutingData

/-! ### One list -/

/-- A list that settles has of a part what it had and what each inclusion adds. -/
theorem DomainList.Part.count_settle (p : DomainList.Part) {l m : DomainList}
    {lookup : String → Option DomainList}
    (hlookup : ∀ a included, lookup a = some included → included.Filed)
    (h : l.settle lookup = (.ok (), m)) (x : Rule) :
    (p.rules m).count x = (p.rules l).count x + (l.inclusions.entries.map fun e =>
      if ∃ f ∈ e.2, p.Wants f then (((lookup e.1).map p.rules).getD []).count x else 0).sum := by
  obtain ⟨hflat, hdedup⟩ := DomainList.settle_eq_ok_iff.1 h
  have hperm := p.rules_dedupDomains_perm (l.flatten lookup).2
  rw [hdedup, p.rules_flatten hlookup hflat] at hperm
  rw [hperm.count_eq, List.count_append, List.count_flatMap]
  congr 2
  refine List.map_congr_left fun e _ => ?_
  rw [Function.comp_apply, addition]
  split
  · rfl
  · exact List.count_nil

namespace Registry

variable {r : Registry} {a : String}

/-! ### All lists -/

/-- The rules picked from the list named `a`. -/
def rulesAt (r : Registry) (pick : DomainList → List Rule) (a : String) : List Rule :=
  ((r.get? a).map pick).getD []

/-- A rule is picked from a list of the registry. -/
theorem mem_rulesAt_iff {pick : DomainList → List Rule} {x : Rule} :
    x ∈ r.rulesAt pick a ↔ ∃ l, r.get? a = some l ∧ x ∈ pick l := by
  rw [rulesAt]
  cases r.get? a with
  | none => simp
  | some l => simp

/-- A rule stands among all rules with attributes as often as among those with its own. -/
theorem count_rulesAt_attributeRules (r : Registry) (x : Rule) (a : String) :
    (r.rulesAt (·.attributeRules) a).count x =
      (r.rulesAt (DomainList.Part.tagged x.groupKey).rules a).count x := by
  rw [rulesAt, rulesAt]
  cases r.get? a with
  | none => rfl
  | some l => exact (DomainList.Part.count_rules_groupKey l x).symm

/-- After resolution a rule stands in a part of a list once for every chain that asks for the part
and every time that it stands in that part of the list at the end of the chain. -/
theorem count_rulesAt_resolve (hr : r.Keyed) (hfiled : ∀ a l, r.get? a = some l → l.Filed)
    (hok : r.resolve.1 = .ok ()) (p : DomainList.Part) (x : Rule) (a : String) :
    (r.resolve.2.rulesAt p.rules a).count x =
      ∑ᶠ c ∈ r.chainsFrom p.Wants a, (r.rulesAt p.rules (c.getLastD a)).count x := by
  obtain ⟨-, hacyclic, hsettled, hnone⟩ := resolve_ok hr hok
  induction a using hacyclic.wellFounded.induction with
  | _ a ih =>
    rw [finsum_chainsFrom hacyclic fun b => (r.rulesAt p.rules b).count x]
    by_cases hkey : a ∈ r.keys
    · obtain ⟨l, m, hl, hm, hsettle⟩ := hsettled a hkey
      rw [finsum_requests hl, rulesAt, hm, rulesAt, hl]
      have hfiledR := forall_resolve_of_kept DomainList.kept_filed hfiled
      refine (p.count_settle hfiledR hsettle x).trans ?_
      -- what each inclusion adds is what the included list has in the end
      congr 2
      refine List.map_congr_left fun e he => ?_
      split
      next => exact ih e.1 ⟨l, hl, List.mem_map_of_mem he⟩
      next => rfl
    · -- what is no list asks for nothing
      have hget := Table.get?_eq_none_iff.2 hkey
      have hempty : {b | r.Requests p.Wants a b} = ∅ :=
        Set.eq_empty_iff_forall_notMem.2 fun b hb => hkey hb.includes.mem_keys
      rw [rulesAt, rulesAt, hnone a hkey, hget, hempty, finsum_mem_empty]
      rfl

/-- After resolution a rule stands in a part of a list when a chain that asks for the part leads to
it. -/
theorem mem_rulesAt_resolve_iff (hr : r.Keyed) (hfiled : ∀ a l, r.get? a = some l → l.Filed)
    (hok : r.resolve.1 = .ok ()) (p : DomainList.Part) (x : Rule) (a : String) :
    x ∈ r.resolve.2.rulesAt p.rules a ↔
      ∃ c ∈ r.chainsFrom p.Wants a, x ∈ r.rulesAt p.rules (c.getLastD a) := by
  obtain ⟨-, hacyclic, -⟩ := resolve_ok hr hok
  rw [← List.count_pos_iff, count_rulesAt_resolve hr hfiled hok,
    finsum_mem_eq_finite_toFinset_sum _ (finite_chainsFrom hacyclic p.Wants a), Finset.sum_pos_iff]
  simp only [Set.Finite.mem_toFinset, List.count_pos_iff]

/-- After a successful resolution of lists as they were read, a list has a rule in a bucket as often
as chains of inclusions that ask for everything lead to it, and a rule with attributes as often as
chains whose inclusions each ask for everything or for one of its attributes lead to it. -/
theorem count_resolve_eq_sum_over_chains (hr : r.Parsed) (hok : r.resolve.1 = .ok ()) :
    ∀ a ∈ r.keys, ∃ l, r.resolve.2.get? a = some l ∧
      (∀ wanted, (r.chainsFrom wanted a).Finite) ∧
      (∀ k x, (l.bucket k).count x =
        ∑ᶠ c ∈ r.chainsFrom (fun f => f = .all) a,
          (r.rulesAt (·.bucket k) (c.getLastD a)).count x) ∧
      ∀ x, l.attributeRules.count x =
        ∑ᶠ c ∈ r.chainsFrom
            (fun f => f = .all ∨ ∃ k ∈ DomainList.keyAttributes x.groupKey, f = .attribute k) a,
          (r.rulesAt (·.attributeRules) (c.getLastD a)).count x := by
  intro a hkey
  have hfiled : ∀ a l, r.get? a = some l → l.Filed := fun a l hl => (hr.fresh hl).filed
  obtain ⟨-, hacyclic, hsettled, -⟩ := resolve_ok hr.keyed hok
  obtain ⟨-, l, -, hl, -⟩ := hsettled a hkey
  refine ⟨l, hl, fun wanted => finite_chainsFrom hacyclic wanted a, fun k x => ?_, fun x => ?_⟩
  · have h := count_rulesAt_resolve hr.keyed hfiled hok (.plain k) x a
    rwa [rulesAt, hl] at h
  · have h := count_rulesAt_resolve hr.keyed hfiled hok (.tagged x.groupKey) x a
    simp only [← count_rulesAt_attributeRules] at h
    rwa [rulesAt, hl] at h

/-- A list with a rule, one that asks for its attributes, and one that includes both. -/
def diamond : Registry := ofTexts [
  ("ads", "keyword:ads\nfull:x.com @cn @ads"),
  ("some", "include:ads @ads @cn"),
  ("all", "include:some\ninclude:ads\ninclude:ads @ads")]

/-- The rule of `diamond` that has attributes. -/
def diamondRule : Rule := ⟨.full, "x.com", ["cn", "ads"]⟩

/-- Two chains bring the rule to the last list, each once, although each has an inclusion with two
filters that ask for it. -/
theorem sum_over_chains_diamond :
    diamond.Parsed ∧ diamond.resolve.1 = .ok () ∧ "ALL" ∈ diamond.keys ∧
      ∑ᶠ c ∈ diamond.chainsFrom
          (fun f => f = .all ∨
            ∃ k ∈ DomainList.keyAttributes diamondRule.groupKey, f = .attribute k) "ALL",
        (diamond.rulesAt (·.attributeRules) (c.getLastD "ALL")).count diamondRule = 2 := by
  have hr : diamond.Parsed := parsed_ofTexts _
  have hok : diamond.resolve.1 = .ok () := by decide +kernel
  have hkey : "ALL" ∈ diamond.keys := by decide +kernel
  have hcount : (diamond.resolve.2.get? "ALL").map (·.attributeRules.count diamondRule) =
      some 2 := by decide +kernel
  obtain ⟨l, hl, -, -, hsum⟩ := count_resolve_eq_sum_over_chains hr hok "ALL" hkey
  rw [hl] at hcount
  exact ⟨hr, hok, hkey, (hsum diamondRule).symm.trans (Option.some.inj hcount)⟩

end Registry

end RoutingData
