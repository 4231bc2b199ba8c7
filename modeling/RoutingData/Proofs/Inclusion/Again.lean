import RoutingData.Proofs.Inclusion.Parts
import RoutingData.Proofs.Inclusion.Selected
import RoutingData.Proofs.Requests

/-!
# Resolving again

Resolution keeps the inclusions, so a second run takes over once more what the first one did, from
lists that have taken over already. Whatever comes to a part of a list then came to it in the first
run, so nothing but repetitions is added (`DomainList.Repeats`), and repetitions behind the rules
that they repeat do not change which domain rules are selected. This is shown of one list when it
holds of those that it includes (`DomainList.Repeats.of_settle_settle`), and of all by induction
along inclusions.
-/

namespace RoutingData

namespace DomainList

variable {l m n : DomainList} {f g lookup : String → Option DomainList} {old new : List Rule}

/-- Every rule stands at least as often among the new ones, and no other rule does. -/
def OnlyRepeats (old new : List Rule) : Prop := old.Subperm new ∧ ∀ x, x ∈ new ↔ x ∈ old

/-- The second list has the same inclusions and unique domain rules as the first, and in each part
the same rules, of which some may be repeated. -/
structure Repeats (m n : DomainList) : Prop where
  /-- The name is the same. -/
  name_eq : n.name = m.name
  /-- So is the mark for inclusions. -/
  hasInclusion_eq : n.hasInclusion = m.hasInclusion
  /-- So are the inclusions. -/
  inclusions_eq : n.inclusions = m.inclusions
  /-- So are the unique domain rules, in order. -/
  uniqueDomain_eq : n.uniqueDomain = m.uniqueDomain
  /-- The parts have the same rules. -/
  rules : ∀ p : Part, OnlyRepeats (p.rules m) (p.rules n)

/-- Adding rules that are there already only repeats them. -/
theorem onlyRepeats_of_perm_append {added : List Rule} (hperm : new.Perm (old ++ added))
    (hadded : added ⊆ old) : OnlyRepeats old new := by
  refine ⟨(List.sublist_append_left old added).subperm.trans hperm.symm.subperm, fun x => ?_⟩
  rw [hperm.mem_iff, List.mem_append]
  exact or_iff_left_of_imp fun hx => hadded hx

/-- Lists that settle keep what identifies them. -/
theorem inclusions_settle (h : l.settle lookup = (.ok (), m)) :
    m.name = l.name ∧ m.hasInclusion = l.hasInclusion ∧ m.inclusions = l.inclusions := by
  obtain ⟨hflat, hdedup⟩ := settle_eq_ok_iff.1 h
  have hname := @name_settle lookup l
  obtain ⟨hinclusions, hmark⟩ := inclusions_dedupDomains (l.flatten lookup).2
  rw [h] at hname
  rw [hdedup, inclusions_flatten, if_pos hflat] at hinclusions
  rw [hdedup, hasInclusion_flatten] at hmark
  exact ⟨hname, hmark, hinclusions⟩

/-- Rules that inclusions add to a part come from the part of an included list. -/
theorem Part.addition_subset (p : Part) {e : String × List Filter}
    (h : Option.Rel Repeats (f e.1) (g e.1)) : p.addition g e ⊆ p.addition f e := by
  unfold Part.addition
  split
  · generalize f e.1 = x at h ⊢
    generalize g e.1 = y at h ⊢
    cases h with
    | none => exact List.Subset.refl _
    | some hrepeats => exact fun x hx => ((hrepeats.rules p).2 x).1 hx
  · exact List.Subset.refl _

/-- A list that settles and then settles again is only repeated, if the lists that it includes are
only repeated between. -/
theorem Repeats.of_settle_settle (hf : ∀ a included, f a = some included → included.Filed)
    (hg : ∀ a included, g a = some included → included.Filed)
    (hincluded : ∀ b ∈ l.targets, Option.Rel Repeats (f b) (g b))
    (hfirst : l.settle f = (.ok (), m)) (hsecond : m.settle g = (.ok (), n)) : m.Repeats n := by
  obtain ⟨hflat, hdedup⟩ := settle_eq_ok_iff.1 hfirst
  obtain ⟨hflat', hdedup'⟩ := settle_eq_ok_iff.1 hsecond
  obtain ⟨-, -, hinclusions⟩ := inclusions_settle hfirst
  obtain ⟨hname, hmark, hinclusions'⟩ := inclusions_settle hsecond
  -- what the second run adds to a part is there since the first
  have hadded : ∀ p : Part, m.inclusions.entries.flatMap (p.addition g) ⊆ p.rules m := by
    intro p x hx
    obtain ⟨e, he, hx⟩ := List.mem_flatMap.1 hx
    rw [hinclusions] at he
    have hperm := p.rules_dedupDomains_perm (l.flatten f).2
    rw [hdedup, p.rules_flatten hf hflat] at hperm
    have hxf := p.addition_subset (hincluded e.1 (List.mem_map_of_mem he)) hx
    exact hperm.symm.subset (List.mem_append_right _ (List.mem_flatMap.2 ⟨e, he, hxf⟩))
  refine ⟨hname, hmark, hinclusions', ?_, fun p => ?_⟩
  · have hdomain : (m.flatten g).2.domain =
        m.domain ++ m.inclusions.entries.flatMap ((Part.plain .domain).addition g) :=
      (Part.plain .domain).rules_flatten hg hflat'
    rw [uniqueDomain_of_settle hfirst, eq_of_dedupDomains hdedup', hdomain]
    exact leastCover_append_of_subset fun y hy => ⟨y, hadded (.plain .domain) hy, rfl⟩
  · have hperm := p.rules_dedupDomains_perm (m.flatten g).2
    rw [hdedup', p.rules_flatten hg hflat'] at hperm
    exact onlyRepeats_of_perm_append hperm (hadded p)

/-- The rules with attributes are repeated when those with the same attributes are. -/
theorem Repeats.attributeRules (h : m.Repeats n) :
    OnlyRepeats m.attributeRules n.attributeRules := by
  have hmem : ∀ (l : DomainList) (x : Rule),
      x ∈ l.attributeRules ↔ x ∈ (Part.tagged x.groupKey).rules l := by
    intro l x
    rw [← List.count_pos_iff, ← Part.count_rules_groupKey, List.count_pos_iff]
  refine ⟨List.subperm_ext_iff.2 fun x _ => ?_, fun x => ?_⟩
  · rw [← Part.count_rules_groupKey, ← Part.count_rules_groupKey]
    exact (h.rules (.tagged x.groupKey)).1.count_le x
  · rw [hmem, hmem]
    exact (h.rules (.tagged x.groupKey)).2 x

/-- The groups of filed lists are then the same. -/
theorem Repeats.keys_eq (h : m.Repeats n) (hm : m.Filed) (hn : n.Filed) :
    n.attributeGroups.keys = m.attributeGroups.keys := by
  refine Table.keys_eq_of_mem_iff fun key => ?_
  rw [hm.mem_keys_iff, hn.mem_keys_iff]
  exact exists_congr fun x => and_congr_left fun _ => h.attributeRules.2 x

end DomainList

namespace Registry

open DomainList (OnlyRepeats)

variable {r R : Registry} {a b : String} {ls : List (List String)}

/-- Lists with levels whose domain rules have values are all resolved. -/
theorem resolve_ok_of_levels (hr : r.Keyed) (hls : r.levels = .ok ls)
    (hvalues : ∀ a, ¬ r.LacksValueAt a) : r.resolve.1 = .ok () := by
  rcases resolve_cases hr with ⟨e, hlevels, -⟩ | ⟨_, -, ⟨hok, -⟩ | ⟨_, a, _, -, -, ha, -⟩⟩
  · rw [hls] at hlevels
    cases hlevels
  · exact hok
  · exact absurd ha (hvalues a)

/-- A list that is settled includes what it included. -/
theorem SettledAt.includes_iff (h : r.SettledAt R a) : R.Includes a b ↔ r.Includes a b := by
  obtain ⟨l, m, hl, hm, hsettle⟩ := h
  rw [includes_iff_mem_targets hl, includes_iff_mem_targets hm, DomainList.targets,
    (DomainList.inclusions_settle hsettle).2.2, DomainList.targets]

/-- Resolution keeps which lists include which others. -/
theorem includes_resolve (hr : r.Keyed) (hok : r.resolve.1 = .ok ()) :
    r.resolve.2.Includes = r.Includes := by
  obtain ⟨-, -, hsettled, -⟩ := resolve_ok hr hok
  funext a b
  refine propext ⟨fun hab => ?_, fun hab => (hsettled a hab.mem_keys).includes_iff.2 hab⟩
  exact (hsettled a (r.keys_resolve ▸ hab.mem_keys)).includes_iff.1 hab

/-- Lists that were resolved can be resolved again. -/
theorem resolve_resolve_ok (hr : r.Keyed) (hok : r.resolve.1 = .ok ()) :
    r.resolve.2.resolve.1 = .ok () := by
  obtain ⟨hc, hacyclic, hsettled, -⟩ := resolve_ok hr hok
  have hincludes := includes_resolve hr hok
  have hc' : r.resolve.2.Complete := by
    unfold Complete
    rw [hincludes, keys_resolve]
    exact hc
  have hacyclic' : r.resolve.2.Acyclic := by
    unfold Acyclic
    rw [hincludes]
    exact hacyclic
  refine resolve_ok_of_levels hr.resolve ((levels_eq_ok_iff hr.resolve).2 ⟨hc', hacyclic', rfl⟩) ?_
  rintro a ⟨m, hm, hlacks⟩
  have hkey : a ∈ r.keys := r.keys_resolve ▸ Table.mem_keys_iff.2 ⟨m, hm⟩
  obtain ⟨l, m', -, hm', hsettle⟩ := hsettled a hkey
  rw [hm] at hm'
  cases hm'
  exact DomainList.not_lacksValue_of_settle hsettle hlacks

/-- Resolving filed lists again only repeats rules. -/
theorem repeats_resolve_resolve (hr : r.Keyed) (hfiled : ∀ a l, r.get? a = some l → l.Filed)
    (hok : r.resolve.1 = .ok ()) (a : String) :
    Option.Rel DomainList.Repeats (r.resolve.2.get? a) (r.resolve.2.resolve.2.get? a) := by
  obtain ⟨-, hacyclic, hsettled, hnone⟩ := resolve_ok hr hok
  obtain ⟨-, -, hsettled', hnone'⟩ := resolve_ok hr.resolve (resolve_resolve_ok hr hok)
  have hfiled' := forall_resolve_of_kept DomainList.kept_filed hfiled
  have hfiled'' := forall_resolve_of_kept DomainList.kept_filed hfiled'
  -- by induction along inclusions, which are the same in both runs
  induction a using hacyclic.wellFounded.induction with
  | _ a ih =>
    by_cases hkey : a ∈ r.keys
    · obtain ⟨l, m, hl, hm, hsettle⟩ := hsettled a hkey
      obtain ⟨m', n, hm', hn, hsettle'⟩ := hsettled' a (r.keys_resolve.symm ▸ hkey)
      rw [hm] at hm'
      cases hm'
      rw [hm, hn]
      refine .some (.of_settle_settle hfiled' hfiled'' (fun b hb => ?_) hsettle hsettle')
      exact ih b ((includes_iff_mem_targets hl).2 hb)
    · rw [hnone a hkey, hnone' a (r.keys_resolve.symm ▸ hkey)]
      exact .none

/-- When lists as they were read are resolved, they can be resolved again. That leaves the same
lists with the same unique domain rules in the same order, and with the same rules in every bucket,
the same rules with attributes and the same groups, where only rules that are there already may be
repeated. Neither run changes the name of a list or its inclusions. -/
theorem resolve_again_only_repeats (hr : r.Parsed) (hok : r.resolve.1 = .ok ()) :
    r.resolve.2.resolve.1 = .ok () ∧
    r.resolve.2.keys = r.keys ∧ r.resolve.2.resolve.2.keys = r.keys ∧
    ∀ a ∈ r.keys, ∃ l m n, r.get? a = some l ∧ r.resolve.2.get? a = some m ∧
      r.resolve.2.resolve.2.get? a = some n ∧
      (m.name = l.name ∧ m.hasInclusion = l.hasInclusion ∧ m.inclusions = l.inclusions) ∧
      (n.name = l.name ∧ n.hasInclusion = l.hasInclusion ∧ n.inclusions = l.inclusions) ∧
      n.uniqueDomain = m.uniqueDomain ∧
      (∀ k, OnlyRepeats (m.bucket k) (n.bucket k)) ∧
      OnlyRepeats m.attributeRules n.attributeRules ∧
      n.attributeGroups.keys = m.attributeGroups.keys := by
  have hfiled : ∀ a l, r.get? a = some l → l.Filed := fun a l hl => (hr.fresh hl).filed
  have hfiled' := forall_resolve_of_kept DomainList.kept_filed hfiled
  have hfiled'' := forall_resolve_of_kept DomainList.kept_filed hfiled'
  obtain ⟨-, -, hsettled, -⟩ := resolve_ok hr.keyed hok
  refine ⟨resolve_resolve_ok hr.keyed hok, r.keys_resolve,
    r.resolve.2.keys_resolve.trans r.keys_resolve, fun a hkey => ?_⟩
  obtain ⟨l, m, hl, hm, hsettle⟩ := hsettled a hkey
  obtain ⟨hname, hmark, hinclusions⟩ := DomainList.inclusions_settle hsettle
  have hrepeats := repeats_resolve_resolve hr.keyed hfiled hok a
  rw [hm] at hrepeats
  cases hn : r.resolve.2.resolve.2.get? a with
  | none =>
    rw [hn] at hrepeats
    cases hrepeats
  | some n =>
    rw [hn] at hrepeats
    cases hrepeats with
    | some h =>
      exact ⟨l, m, n, hl, hm, rfl, ⟨hname, hmark, hinclusions⟩,
        ⟨h.name_eq.trans hname, h.hasInclusion_eq.trans hmark, h.inclusions_eq.trans hinclusions⟩,
        h.uniqueDomain_eq, fun k => h.rules (.plain k), h.attributeRules,
        h.keys_eq (hfiled' a m hm) (hfiled'' a n hn)⟩

/-- The last list of the chain takes over the same rules again. -/
theorem resolve_again_only_repeats_nested :
    nested.Parsed ∧ nested.resolve.1 = .ok () ∧ nested.resolve.2.resolve.1 = .ok () ∧
      ∃ m n, nested.resolve.2.get? "C" = some m ∧ nested.resolve.2.resolve.2.get? "C" = some n ∧
        n.uniqueDomain = m.uniqueDomain ∧ OnlyRepeats m.domain n.domain ∧
        OnlyRepeats m.attributeRules n.attributeRules := by
  have hparsed : nested.Parsed := parsed_ofTexts _
  have hlevels : nested.levels = .ok [["A"], ["B"], ["C"]] := by decide +kernel
  have hok := resolve_ok_of_levels hparsed.keyed hlevels hparsed.not_lacksValueAt
  have hkey : "C" ∈ nested.keys := by decide +kernel
  obtain ⟨hagain, -, -, hlists⟩ := resolve_again_only_repeats hparsed hok
  obtain ⟨-, m, n, -, hm, hn, -, -, hunique, hbucket, htagged, -⟩ := hlists "C" hkey
  exact ⟨hparsed, hok, hagain, m, n, hm, hn, hunique, hbucket .domain, htagged⟩

end Registry

end RoutingData
