import RoutingData.Proofs.Export
import RoutingData.Proofs.Inclusion.Order

/-!
# What the result for a list depends on

A list takes rules over from the lists that it reaches through inclusions, and from no others. Two
registries may have other lists, which put the shared ones at other levels and resolve them in
another order; a list is resolved alike in both when they agree on all that it reaches
(`resolve_get?_eq`), and then it is exported alike under exclusions that agree on the list itself.
-/

namespace RoutingData.Registry

open Relation

variable {r r' R : Registry} {a : String} {l : DomainList}

/-- Registries that agree on a list and on all that it reaches resolve it alike. -/
theorem resolve_get?_eq (hr : r.Keyed) (hr' : r'.Keyed) (hok : r.resolve.1 = .ok ())
    (hok' : r'.resolve.1 = .ok ()) (ha : a ∈ r.keys)
    (hagree : ∀ b, ReflTransGen r.Includes a b → r.get? b = r'.get? b) :
    r.resolve.2.get? a = r'.resolve.2.get? a := by
  obtain ⟨hc, hacyclic, hsettled, -⟩ := resolve_ok hr hok
  obtain ⟨-, -, hsettled', -⟩ := resolve_ok hr' hok'
  have hkey : ∀ b, ReflTransGen r.Includes a b → b ∈ r.keys :=
    fun b hab => hc.mem_keys_of_reaches ha hab
  refine get?_eq_of_agree hacyclic hagree (fun b hab => hsettled b (hkey b hab)) fun b hab => ?_
  -- what is reached is a list of the other registry, too
  refine hsettled' b (Table.mem_keys_iff.2 ?_)
  rw [← hagree b hab]
  exact Table.mem_keys_iff.1 (hkey b hab)

/-- A list has one entry in a dataset, and what is excluded from other lists does not matter to
it. -/
theorem filter_toEntries (hR : R.Keyed) (hl : R.get? a = some l) (excluded : Exclusions) :
    (R.toEntries excluded).filter (·.code == a) =
      [.ofRules a (l.toRules ((excluded.get? a).getD ∅))] := by
  have hentries : R.toEntries excluded = R.entries.map fun e =>
      .ofRules e.1 (e.2.toRules ((excluded.get? e.1).getD ∅)) := by
    rw [toEntries, exportedRules, Table.values, List.map_map, List.map_map]
    refine List.map_congr_left fun e he => ?_
    rw [Function.comp_apply, Function.comp_apply, hR e.1 e.2 (Table.mem_entries_iff.1 he)]
  rw [hentries, List.filter_map]
  have hcode : ((·.code == a) ∘ fun e : String × DomainList =>
      SiteEntry.ofRules e.1 (e.2.toRules ((excluded.get? e.1).getD ∅))) = (·.1 == a) := rfl
  rw [hcode, Table.filter_entries, hl]
  rfl

/-- When registries are resolved that agree on a list and on all that it reaches through inclusions,
the list ends alike in both, and so does its entry in the dataset under exclusions that agree on its
name, whatever other lists and exclusions there are. -/
theorem result_depends_on_reached (hr : r.Keyed) (hr' : r'.Keyed) (hok : r.resolve.1 = .ok ())
    (hok' : r'.resolve.1 = .ok ()) (ha : a ∈ r.keys)
    (hagree : ∀ b, ReflTransGen r.Includes a b → r.get? b = r'.get? b) :
    ∃ l, r.resolve.2.get? a = some l ∧ r'.resolve.2.get? a = some l ∧
      ∀ excluded excluded' : Exclusions, excluded.get? a = excluded'.get? a →
        ∃ entry, (r.resolve.2.toEntries excluded).filter (·.code == a) = [entry] ∧
          (r'.resolve.2.toEntries excluded').filter (·.code == a) = [entry] := by
  obtain ⟨l, hl⟩ := Table.mem_keys_iff.1 (r.keys_resolve ▸ ha)
  have hl' := (resolve_get?_eq hr hr' hok hok' ha hagree).symm.trans hl
  refine ⟨l, hl, hl', fun excluded excluded' hexcluded => ⟨_, filter_toEntries hr.resolve hl _, ?_⟩⟩
  rw [filter_toEntries hr'.resolve hl', hexcluded]

/-- The branch with other lists around it: some of them include its lists, and there is another list
of each level and one more in place of the list on its own. -/
def branchAmongOthers : Registry := ofTexts [
  ("0", "include:b @t"), ("a", "keyword:K\nfull:x.com @t"), ("aa", "aa.com"),
  ("b", "include:a @t\nkeyword:k"), ("c", "include:b\ninclude:d"), ("d", "include:a\nd.com")]

/-- An attribute is left out of the included list only. -/
def withoutT : Exclusions := .ofList [("A", .ofList [("t", ())])]

/-- The including list of the branch keeps the rule that it takes over. -/
theorem result_depends_on_reached_branch :
    branch.Keyed ∧ branchAmongOthers.Keyed ∧ branch.resolve.1 = .ok () ∧
      branchAmongOthers.resolve.1 = .ok () ∧ "B" ∈ branch.keys ∧
      (∀ b, ReflTransGen branch.Includes "B" b → branch.get? b = branchAmongOthers.get? b) ∧
      (∅ : Exclusions).get? "B" = withoutT.get? "B" ∧
      ∃ entry, (branch.resolve.2.toEntries ∅).filter (·.code == "B") = [entry] ∧
        (branchAmongOthers.resolve.2.toEntries withoutT).filter (·.code == "B") = [entry] := by
  have hkeyed : branch.Keyed := (parsed_ofTexts _).keyed
  have hkeyed' : branchAmongOthers.Keyed := (parsed_ofTexts _).keyed
  have hok : branch.resolve.1 = .ok () := by decide +kernel
  have hok' : branchAmongOthers.resolve.1 = .ok () := by decide +kernel
  have hmem : "B" ∈ branch.keys := by decide +kernel
  have hagree : ∀ b, ReflTransGen branch.Includes "B" b →
      branch.get? b = branchAmongOthers.get? b := by
    intro b hb
    have hreached : b = "B" ∨ b = "A" := by
      rcases ReflTransGen.cases_tail hb with rfl | ⟨c, -, hcb⟩
      · exact .inl rfl
      · exact .inr (includes_branch hcb).2
    rcases hreached with rfl | rfl
    · decide +kernel
    · decide +kernel
  have hexcluded : (∅ : Exclusions).get? "B" = withoutT.get? "B" := by decide +kernel
  obtain ⟨l, -, -, hentry⟩ := result_depends_on_reached hkeyed hkeyed' hok hok' hmem hagree
  exact ⟨hkeyed, hkeyed', hok, hok', hmem, hagree, hexcluded, hentry _ _ hexcluded⟩

end RoutingData.Registry
