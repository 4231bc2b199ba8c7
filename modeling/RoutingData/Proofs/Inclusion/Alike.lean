import RoutingData.Build
import RoutingData.Proofs.Requests

/-!
# The order of filters

The filters that a list has for one that it includes stand in the order in which they were added,
but only which filters they are matters. Lists are alike when they differ in this order alone. Each
operation gives the same result on lists that are alike and leaves them alike, and so does
resolution on registries of such lists (`Alike.resolve`); what they export is the same
(`Alike.toEntries_eq`).
-/

namespace RoutingData

namespace DomainList

/-- Lists that differ at most in the order, and the number, of the filters for each included
list. -/
structure Alike (l m : DomainList) : Prop where
  /-- They agree on everything but inclusions. -/
  agree : ({ l with inclusions := ∅ } : DomainList) = { m with inclusions := ∅ }
  /-- They include the same lists, and have the same filters for each. -/
  asks : ∀ a, Option.Rel (fun fs gs => ∀ f, f ∈ fs ↔ f ∈ gs) (l.inclusions.get? a)
    (m.inclusions.get? a)

variable {l m included other : DomainList} {fs gs : List Filter} {a : String}
  {f g : String → Option DomainList}

/-- A list is like itself. -/
theorem Alike.refl (l : DomainList) : l.Alike l where
  agree := rfl
  asks := fun a => by
    cases l.inclusions.get? a with
    | none => exact .none
    | some fs => exact .some fun f => Iff.rfl

/-- Lists that are alike are the same up to inclusions. -/
theorem Alike.eq_withInclusions (h : l.Alike m) : m = { l with inclusions := m.inclusions } := by
  have hagree := congrArg (fun n : DomainList => { n with inclusions := m.inclusions }) h.agree
  exact hagree.symm

/-- They have the same name. -/
theorem Alike.name_eq (h : l.Alike m) : l.name = m.name := congrArg (·.name) h.agree

/-- They include the same lists. -/
theorem Alike.targets_eq (h : l.Alike m) : l.targets = m.targets := by
  have hentries := Table.forall₂_entries h.asks
  unfold targets Table.keys
  rw [← List.forall₂_eq_eq_eq, List.forall₂_map_left_iff, List.forall₂_map_right_iff]
  exact hentries.imp fun _ _ hentry => hentry.1

/-- Inclusions of a list do not matter to one that includes it. -/
theorem merge_withInclusions (l included : DomainList) (inclusions : Table String (List Filter))
    (fs : List Filter) :
    l.merge { included with inclusions := inclusions } fs = l.merge included fs := rfl

/-- Nor does the order of the filters. -/
theorem merge_eq_of_mem_iff (l included : DomainList) (h : ∀ f, f ∈ fs ↔ f ∈ gs) :
    l.merge included fs = l.merge included gs := by
  -- merging asks only whether everything is wanted, and else which attributes are
  have hall : fs.contains .all = gs.contains .all := by
    rw [Bool.eq_iff_iff, List.contains_iff_mem, List.contains_iff_mem]
    exact h .all
  have hwanted : ∀ key, (wantedAttributes fs).contains key = (wantedAttributes gs).contains key := by
    intro key
    rw [Bool.eq_iff_iff, List.contains_iff_mem, List.contains_iff_mem]
    simp only [wantedAttributes, List.mem_filterMap, h]
  unfold merge mergeAttributes
  rw [hall, funext hwanted]

/-- Lists that are alike add the same rules. -/
theorem Alike.merge_eq (h : included.Alike other) (hfilters : ∀ f, f ∈ fs ↔ f ∈ gs)
    (l : DomainList) : l.merge included fs = l.merge other gs := by
  rw [h.eq_withInclusions, merge_withInclusions]
  exact merge_eq_of_mem_iff l included hfilters

/-- Adding the rules of lists that are alike, one after the other. -/
theorem mergeEach_eq_of_alike (hlookup : ∀ a, Option.Rel Alike (f a) (g a))
    {ds es : List (String × List Filter)}
    (h : List.Forall₂ (fun d e => d.1 = e.1 ∧ ∀ f, f ∈ d.2 ↔ f ∈ e.2) ds es) (l : DomainList) :
    mergeEach f ds l = mergeEach g es l := by
  induction h generalizing l with
  | nil => rfl
  | @cons d e ds es hentry _ ih =>
    rw [mergeEach, mergeEach, hentry.1]
    have hfound := hlookup e.1
    generalize f e.1 = x at hfound ⊢
    generalize g e.1 = y at hfound ⊢
    cases hfound with
    | none => rfl
    | some halike =>
      show mergeEach f ds _ = mergeEach g es _
      rw [halike.merge_eq hentry.2]
      exact ih _

/-- Results that are the same, with lists that are alike. -/
def AlikeAfter (x y : Except BuildError Unit × DomainList) : Prop := x.1 = y.1 ∧ x.2.Alike y.2

/-- Lists that are alike take over the same rules from lists that are alike. -/
theorem Alike.flatten (h : l.Alike m) (hlookup : ∀ a, Option.Rel Alike (f a) (g a)) :
    AlikeAfter (l.flatten f) (m.flatten g) := by
  -- without their inclusions the lists are equal, so both start with the same list
  have hmerge : mergeEach f l.inclusions.entries { l with inclusions := ∅ } =
      mergeEach g m.inclusions.entries { m with inclusions := ∅ } := by
    rw [h.agree]
    exact mergeEach_eq_of_alike hlookup (Table.forall₂_entries h.asks) _
  unfold DomainList.flatten
  rw [hmerge]
  -- a flatten that fails drops the inclusions of both
  split
  · exact ⟨rfl, rfl, h.asks⟩
  · exact ⟨rfl, .refl _⟩

/-- Inclusions do not matter to the choice of domain rules. -/
theorem dedupDomains_withInclusions (l : DomainList) (inclusions : Table String (List Filter)) :
    ({ l with inclusions := inclusions } : DomainList).dedupDomains =
      (l.dedupDomains.1, { l.dedupDomains.2 with inclusions := inclusions }) := by
  unfold dedupDomains
  dsimp only
  split
  · rfl
  · rfl

/-- Lists that are alike choose the same domain rules. -/
theorem Alike.dedupDomains (h : l.Alike m) : AlikeAfter l.dedupDomains m.dedupDomains := by
  have hm := dedupDomains_withInclusions l m.inclusions
  rw [← h.eq_withInclusions] at hm
  rw [hm]
  refine ⟨rfl, rfl, ?_⟩
  rw [(inclusions_dedupDomains l).1]
  exact h.asks

/-- Lists that are alike settle alike against lists that are alike. -/
theorem Alike.settle (h : l.Alike m) (hlookup : ∀ a, Option.Rel Alike (f a) (g a)) :
    AlikeAfter (l.settle f) (m.settle g) := by
  obtain ⟨hresult, halike⟩ := h.flatten hlookup
  unfold DomainList.settle
  generalize l.flatten f = x at hresult halike ⊢
  generalize m.flatten g = y at hresult halike ⊢
  obtain ⟨result, l'⟩ := x
  obtain ⟨_, m'⟩ := y
  cases hresult
  cases result with
  | error e => exact ⟨rfl, halike⟩
  | ok _ => exact halike.dedupDomains

/-- Lists that are alike export the same rules. -/
theorem Alike.toRules_eq (h : l.Alike m) (excluded : AttributeSet) :
    l.toRules excluded = m.toRules excluded := by
  rw [h.eq_withInclusions]
  rfl

end DomainList

namespace Registry

/-- Registries with the same names whose lists are alike. -/
def Alike (R S : Registry) : Prop := ∀ a, Option.Rel DomainList.Alike (R.get? a) (S.get? a)

variable {R S : Registry} {a : String} {l m : DomainList}

/-- What their lists have in common. -/
theorem Alike.map_values_eq (h : R.Alike S) {α : Type} {f g : DomainList → α}
    (hfg : ∀ {l m}, l.Alike m → f l = g m) : R.values.map f = S.values.map g := by
  rw [← List.forall₂_eq_eq_eq, List.forall₂_map_left_iff, List.forall₂_map_right_iff]
  exact (Table.forall₂_values h).imp fun _ _ hlists => hfg hlists

/-- Replacing lists by lists that are alike. -/
theorem Alike.insert (h : R.Alike S) (hlists : l.Alike m) (a : String) :
    Alike (Table.insert R a l) (Table.insert S a m) := by
  intro b
  rw [Table.get?_insert, Table.get?_insert]
  split
  · exact .some hlists
  · exact h b

/-- Taking out the list with a name. -/
theorem Alike.erase (h : R.Alike S) (a : String) : Alike (Table.erase R a) (Table.erase S a) := by
  intro b
  rw [Table.get?_erase, Table.get?_erase]
  split
  · exact .none
  · exact h b

/-! ### Levels -/

/-- They have the same levels. -/
theorem Alike.levels_eq (h : R.Alike S) : R.levels = S.levels := by
  have hcontains : ∀ a, R.contains a = S.contains a := by
    intro a
    have hlists := h a
    unfold Table.contains
    generalize R.get? a = x at hlists ⊢
    generalize S.get? a = y at hlists ⊢
    cases hlists with
    | none => rfl
    | some _ => rfl
  -- names and targets are all that levels are made from
  have hunknown : R.unknownTarget? = S.unknownTarget? := by
    have htargets : R.values.map (fun l => (l.targets.find? (!R.contains ·)).map (l.name, ·)) =
        S.values.map fun l => (l.targets.find? (!S.contains ·)).map (l.name, ·) := by
      refine h.map_values_eq fun hlists => ?_
      rw [hlists.targets_eq, hlists.name_eq, funext hcontains]
    have hfirst := congrArg (List.findSome? id) htargets
    rwa [List.findSome?_map, List.findSome?_map] at hfirst
  have hpending : R.values.map (fun l => (⟨l.name, l.targets, l.targets.length⟩ : Pending)) =
      S.values.map fun l => ⟨l.name, l.targets, l.targets.length⟩ := by
    refine h.map_values_eq fun hlists => ?_
    rw [hlists.targets_eq, hlists.name_eq]
  unfold levels
  rw [hunknown, hpending]

/-! ### Resolution -/

/-- Results that are the same, with registries that are alike. -/
def AlikeAfter (x y : Except BuildError Unit × Registry) : Prop := x.1 = y.1 ∧ x.2.Alike y.2

/-- One list. -/
theorem Alike.resolveList (h : R.Alike S) (a : String) :
    AlikeAfter (R.resolveList a) (S.resolveList a) := by
  have hlists := h a
  cases hl : R.get? a with
  | none =>
    cases hm : S.get? a with
    | none =>
      unfold Registry.resolveList
      rw [hl, hm]
      exact ⟨rfl, h⟩
    | some m =>
      rw [hl, hm] at hlists
      cases hlists
  | some l =>
    cases hm : S.get? a with
    | none =>
      rw [hl, hm] at hlists
      cases hlists
    | some m =>
      rw [hl, hm] at hlists
      cases hlists with
      | some halike =>
        rw [resolveList_eq hl, resolveList_eq hm]
        have hsettle := halike.settle (h.erase a)
        exact ⟨hsettle.1, h.insert hsettle.2 a⟩

/-- Lists one after the other. -/
theorem Alike.resolveEach (h : R.Alike S) (names : List String) :
    AlikeAfter (resolveEach names R) (resolveEach names S) := by
  induction names generalizing R S with
  | nil => exact ⟨rfl, h⟩
  | cons a names ih =>
    -- both runs stop here or both go on
    obtain ⟨hresult, halike⟩ := h.resolveList a
    unfold Registry.resolveEach
    generalize R.resolveList a = x at hresult halike ⊢
    generalize S.resolveList a = y at hresult halike ⊢
    obtain ⟨result, R'⟩ := x
    obtain ⟨_, S'⟩ := y
    cases hresult
    cases result with
    | error e => exact ⟨rfl, halike⟩
    | ok _ => exact ih halike

/-- All lists. -/
theorem Alike.resolve (h : R.Alike S) : AlikeAfter R.resolve S.resolve := by
  unfold Registry.resolve
  rw [h.levels_eq]
  cases S.levels with
  | error e => exact ⟨rfl, h⟩
  | ok levels => exact h.resolveEach levels.flatten

/-- Registries that are alike export the same. -/
theorem Alike.toEntries_eq (h : R.Alike S) (excluded : Exclusions) :
    R.toEntries excluded = S.toEntries excluded := by
  unfold toEntries exportedRules
  congr 1
  refine h.map_values_eq fun hlists => ?_
  rw [hlists.name_eq, hlists.toRules_eq]

end Registry

end RoutingData
