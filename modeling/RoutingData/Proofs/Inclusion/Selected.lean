import RoutingData.Proofs.CoverInParts
import RoutingData.Proofs.Inclusion.Failure

/-!
# Taking over selected domain rules

An inclusion takes over all domain rules of the included list, and the selection comes afterwards.
It might as well take over only those that the included list has selected. Such a variant resolves
the lists as usual but lets each look at the included ones through a view (`resolveVia`), here the
one with the selected domain rules in place of all (`selected`).

The two runs keep their lists equal up to domain rules of which the same are selected (`SameCover`).
Each operation keeps this (`SameCover.merge`, `SameCover.settle`), and since a list that is done has
selected from its domain rules, the view of it makes no difference either (`SameCover.selected`).
-/

namespace RoutingData

namespace DomainList

variable {l m included other : DomainList} {f g : String → Option DomainList} {a b : List Rule}

/-- Lists with these domain rules are deduplicated, and these are their unique ones. -/
def Deduplicates (rules unique : List Rule) : Prop :=
  ∀ l : DomainList, ({ l with domain := rules } : DomainList).dedupDomains =
    (.ok (), { l with domain := sortByGenerality rules, uniqueDomain := unique })

/-- The list with the domain rules that it has selected in place of all. -/
def selected (l : DomainList) : DomainList := { l with domain := l.uniqueDomain }

/-- The lists differ at most in domain rules, and deduplication selects the same ones. -/
def SameCover (l m : DomainList) : Prop :=
  ∃ rules, m = { l with domain := rules } ∧ leastCover rules = leastCover l.domain

/-- The results are the same, with lists of the same cover. -/
def SameCoverAfter (x y : Except BuildError Unit × DomainList) : Prop :=
  x.1 = y.1 ∧ x.2.SameCover y.2

/-- Domain rules with values are deduplicated. -/
theorem deduplicates_leastCover (hvalues : ∀ x ∈ a, x.value ≠ "") :
    Deduplicates a (leastCover a) := fun _ => dedupDomains_of_values hvalues

/-- Rules are deduplicated alike when the second part of them was deduplicated before, and when both
parts were. -/
theorem deduplicates_in_parts (hvalues : ∀ x ∈ a ++ b, x.value ≠ "") :
    ∃ u v w, Deduplicates a u ∧ Deduplicates b v ∧ Deduplicates (a ++ b) w ∧
      Deduplicates (a ++ v) w ∧ Deduplicates (u ++ v) w := by
  obtain ⟨ha, hb⟩ := List.forall_mem_append.1 hvalues
  have hu : ∀ x ∈ leastCover a, x.value ≠ "" := fun x hx => ha x (leastCover_subset a hx)
  have hv : ∀ x ∈ leastCover b, x.value ≠ "" := fun x hx => hb x (leastCover_subset b hx)
  refine ⟨leastCover a, leastCover b, leastCover (a ++ b), deduplicates_leastCover ha,
    deduplicates_leastCover hb, deduplicates_leastCover hvalues, ?_, ?_⟩
  · rw [← leastCover_append_leastCover]
    exact deduplicates_leastCover (List.forall_mem_append.2 ⟨ha, hv⟩)
  · rw [← leastCover_append_leastCover, ← leastCover_leastCover_append]
    exact deduplicates_leastCover (List.forall_mem_append.2 ⟨hu, hv⟩)

/-- Through the view an inclusion adds the selected domain rules, and else what it adds anyway. -/
theorem merge_selected (l included : DomainList) (filters : List Filter) :
    l.merge included.selected filters =
      { l.merge included filters with
        domain := l.domain ++ if filters.contains .all then included.uniqueDomain else [] } := by
  unfold merge
  split
  · rfl
  · rw [List.append_nil]
    rfl

/-! ### Operations on lists of the same cover -/

/-- A list has the same cover as itself. -/
theorem SameCover.refl (l : DomainList) : l.SameCover l := ⟨l.domain, rfl, rfl⟩

/-- Either both lists have a domain rule without a value or none of them has. -/
theorem SameCover.lacksValue_iff (h : l.SameCover m) : m.LacksValue ↔ l.LacksValue := by
  obtain ⟨rules, rfl, hcover⟩ := h
  have hcovered : covered rules = covered l.domain := by
    rw [← covered_leastCover, hcover, covered_leastCover]
  exact exists_value_eq_empty_iff.trans (hcovered ▸ exists_value_eq_empty_iff.symm)

/-- One inclusion. -/
theorem SameCover.merge (h : l.SameCover m) (hincluded : included.SameCover other)
    (filters : List Filter) : (l.merge included filters).SameCover (m.merge other filters) := by
  obtain ⟨rules, rfl, hcover⟩ := h
  obtain ⟨rules', rfl, hcover'⟩ := hincluded
  unfold DomainList.merge
  split
  · exact ⟨rules ++ rules', rfl, leastCover_append_congr hcover hcover'⟩
  · exact ⟨rules, rfl, hcover⟩

/-- All inclusions, one after the other. -/
theorem SameCover.mergeEach {es : List (String × List Filter)} (h : l.SameCover m)
    (hlookup : ∀ e ∈ es, Option.Rel SameCover (f e.1) (g e.1)) :
    SameCoverAfter (mergeEach f es l) (mergeEach g es m) := by
  induction es generalizing l m with
  | nil => exact ⟨rfl, h⟩
  | cons e es ih =>
    obtain ⟨hfirst, hrest⟩ := List.forall_mem_cons.1 hlookup
    unfold DomainList.mergeEach
    generalize f e.1 = x at hfirst ⊢
    generalize g e.1 = y at hfirst ⊢
    cases hfirst with
    | none =>
      obtain ⟨rules, rfl, hcover⟩ := h
      exact ⟨rfl, rules, rfl, hcover⟩
    | some hincluded => exact ih (h.merge hincluded e.2) hrest

/-- Taking over what inclusions ask for. -/
theorem SameCover.flatten (h : l.SameCover m)
    (hlookup : ∀ b ∈ l.targets, Option.Rel SameCover (f b) (g b)) :
    SameCoverAfter (l.flatten f) (m.flatten g) := by
  obtain ⟨rules, rfl, hcover⟩ := h
  have hstart : SameCover { l with inclusions := ∅ }
      { l with domain := rules, inclusions := ∅ } := ⟨rules, rfl, hcover⟩
  obtain ⟨hresult, merged, hmerged, hcover⟩ :=
    hstart.mergeEach fun e he => hlookup e.1 (List.mem_map_of_mem he)
  unfold DomainList.flatten
  generalize DomainList.mergeEach f _ _ = x at hresult hmerged hcover ⊢
  generalize DomainList.mergeEach g _ _ = y at hresult hmerged ⊢
  obtain ⟨_ | _, l'⟩ := x
  · obtain ⟨_, m'⟩ := y
    cases hresult
    exact ⟨rfl, merged, hmerged, hcover⟩
  · obtain ⟨_, m'⟩ := y
    cases hresult
    cases hmerged
    exact ⟨rfl, merged, rfl, hcover⟩

/-- The selection of domain rules. -/
theorem SameCover.dedupDomains (h : l.SameCover m) :
    SameCoverAfter l.dedupDomains m.dedupDomains := by
  have hlacks := h.lacksValue_iff
  obtain ⟨rules, rfl, hcover⟩ := h
  have hsorted : leastCover (sortByGenerality rules) = leastCover (sortByGenerality l.domain) := by
    rw [leastCover_sortByGenerality, hcover, leastCover_sortByGenerality]
  by_cases hempty : l.LacksValue
  · rw [dedupDomains_of_empty hempty, dedupDomains_of_empty (hlacks.2 hempty)]
    exact ⟨rfl, _, rfl, hsorted⟩
  · have hvalues : ∀ x ∈ l.domain, x.value ≠ "" := fun x hx hvalue => hempty ⟨x, hx, hvalue⟩
    have hvalues' : ∀ x ∈ rules, x.value ≠ "" :=
      fun x hx hvalue => hempty (hlacks.1 ⟨x, hx, hvalue⟩)
    rw [dedupDomains_of_values hvalues, dedupDomains_of_values hvalues']
    have hunique : leaders [] (sortByGenerality rules) = leaders [] (sortByGenerality l.domain) :=
      hcover
    rw [hunique]
    exact ⟨rfl, _, rfl, hsorted⟩

/-- Settling. -/
theorem SameCover.settle (h : l.SameCover m)
    (hlookup : ∀ b ∈ l.targets, Option.Rel SameCover (f b) (g b)) :
    SameCoverAfter (l.settle f) (m.settle g) := by
  obtain ⟨hresult, hsame⟩ := h.flatten hlookup
  unfold DomainList.settle
  generalize l.flatten f = x at hresult hsame ⊢
  generalize m.flatten g = y at hresult hsame ⊢
  obtain ⟨result, l'⟩ := x
  obtain ⟨_, m'⟩ := y
  cases hresult
  cases result with
  | error e => exact ⟨rfl, hsame⟩
  | ok _ => exact hsame.dedupDomains

/-- The unique domain rules of a settled list are what is selected of its domain rules. -/
theorem uniqueDomain_of_settle (h : l.settle f = (.ok (), m)) :
    m.uniqueDomain = leastCover m.domain := by
  rw [eq_of_dedupDomains (settle_eq_ok_iff.1 h).2]
  exact (leastCover_sortByGenerality _).symm

/-- Of a list with unique domain rules that are selected of its domain rules, the view has the same
cover. -/
theorem SameCover.selected (h : l.SameCover m) (hunique : l.uniqueDomain = leastCover l.domain) :
    l.SameCover m.selected := by
  obtain ⟨rules, rfl, -⟩ := h
  refine ⟨l.uniqueDomain, rfl, ?_⟩
  rw [hunique]
  exact leastCover_leastCover l.domain

end DomainList

namespace Registry

open DomainList (SameCover Deduplicates)

variable {r R S : Registry} {done names : List String} {a : String} {l m : DomainList}

/-! ### Resolution through a view -/

/-- Settles a list against a view of the others. -/
def resolveListVia (view : DomainList → DomainList) (R : Registry) (name : String) :
    Except BuildError Unit × Registry :=
  match R.get? name with
  | none => (.ok (), R)
  | some l =>
    let others := R.erase name
    let settled := l.settle fun b => (others.get? b).map view
    (settled.1, others.insert name settled.2)

/-- Settles lists against views of the others, one after the other, up to the first failure. -/
def resolveEachVia (view : DomainList → DomainList) :
    List String → Registry → Except BuildError Unit × Registry
  | [], R => (.ok (), R)
  | name :: rest, R =>
    match R.resolveListVia view name with
    | (.error e, R) => (.error e, R)
    | (.ok (), R) => resolveEachVia view rest R

/-- Resolves every list, level by level, where each looks at the others through a view. -/
def resolveVia (view : DomainList → DomainList) (r : Registry) :
    Except BuildError Unit × Registry :=
  match r.levels with
  | .error e => (.error e, r)
  | .ok levels => resolveEachVia view levels.flatten r

/-- Without a view, lists are settled as usual. -/
theorem resolveListVia_id (R : Registry) (a : String) :
    R.resolveListVia id a = R.resolveList a := by
  cases hl : R.get? a with
  | none => rw [resolveListVia, resolveList, hl]
  | some l =>
    rw [resolveList_eq hl, resolveListVia, hl, ← Table.insert_erase]
    simp only [Option.map_id, id_eq]

/-- Without a view, so are lists one after the other. -/
theorem resolveEachVia_id (names : List String) (R : Registry) :
    resolveEachVia id names R = resolveEach names R := by
  induction names generalizing R with
  | nil => rfl
  | cons a names ih =>
    rw [resolveEachVia, resolveEach, resolveListVia_id]
    rcases R.resolveList a with ⟨_ | _, R'⟩
    · rfl
    · exact ih R'

/-- Without a view, this is resolution. -/
theorem resolveVia_id (r : Registry) : r.resolveVia id = r.resolve := by
  rw [resolveVia, resolve]
  cases r.levels with
  | error e => rfl
  | ok levels => exact resolveEachVia_id levels.flatten r

/-! ### Both runs -/

/-- Registries with the same names whose lists have the same cover. -/
def SameCovers (R S : Registry) : Prop := ∀ a, Option.Rel SameCover (R.get? a) (S.get? a)

/-- The results are the same, with lists of the same cover. -/
def SameCoversAfter (x y : Except BuildError Unit × Registry) : Prop :=
  x.1 = y.1 ∧ x.2.SameCovers y.2

/-- Replacing lists by lists of the same cover. -/
theorem SameCovers.insert (h : R.SameCovers S) (hlists : l.SameCover m) (a : String) :
    SameCovers (Table.insert R a l) (Table.insert S a m) := by
  intro b
  rw [Table.get?_insert, Table.get?_insert]
  split
  · exact .some hlists
  · exact h b

/-- A list that is done looks the same through the view. -/
theorem Progress.rel_selected (h : r.Progress R done) (hsame : R.SameCovers S)
    (ha : a ∈ done) : Option.Rel SameCover (R.get? a) ((S.get? a).map DomainList.selected) := by
  obtain ⟨_, m, -, hm, hsettle⟩ := h.settled a ha
  have hlists := hsame a
  rw [hm] at hlists ⊢
  generalize S.get? a = x at hlists ⊢
  cases hlists with
  | some hcover => exact .some (hcover.selected (DomainList.uniqueDomain_of_settle hsettle))

/-- One list whose turn it is. -/
theorem Progress.resolveListVia_selected (h : r.Progress R done) (hsame : R.SameCovers S)
    (hkey : a ∈ r.keys) (hnew : a ∉ done) (hready : ∀ b, r.Includes a b → b ∈ done) :
    SameCoversAfter (R.resolveList a) (S.resolveListVia DomainList.selected a) := by
  obtain ⟨l, hl⟩ := Table.mem_keys_iff.1 hkey
  have hRl : R.get? a = some l := (h.untouched a hnew).trans hl
  -- the lists that it includes are done, so none of them is the list itself
  have hlookup : ∀ b ∈ l.targets, Option.Rel SameCover ((R.erase a).get? b)
      (((S.erase a).get? b).map DomainList.selected) := by
    intro b hb
    have hdone := hready b ((includes_iff_mem_targets hl).2 hb)
    have hne : b ≠ a := by
      rintro rfl
      exact hnew hdone
    rw [Table.get?_erase, if_neg hne, Table.get?_erase, if_neg hne]
    exact h.rel_selected hsame hdone
  have hlists := hsame a
  rw [hRl] at hlists
  cases hSm : S.get? a with
  | none =>
    rw [hSm] at hlists
    cases hlists
  | some m =>
    rw [hSm] at hlists
    cases hlists with
    | some hcover =>
      obtain ⟨hresult, hsettled⟩ := hcover.settle hlookup
      rw [resolveList_eq hRl, resolveListVia, hSm]
      simp only [Table.insert_erase]
      exact ⟨hresult, hsame.insert hsettled a⟩

/-- Lists in order. -/
theorem Progress.resolveEachVia_selected (h : r.Progress R done) (hsame : R.SameCovers S)
    (hnames : r.InOrder done names) :
    SameCoversAfter (resolveEach names R) (resolveEachVia DomainList.selected names S) := by
  induction names generalizing R S done with
  | nil => exact ⟨rfl, hsame⟩
  | cons a names ih =>
    obtain ⟨hkey, hnew, hready, hrest⟩ := hnames
    have hprogress := h.step hkey hnew hready
    obtain ⟨hresult, hsame⟩ := h.resolveListVia_selected hsame hkey hnew hready
    unfold Registry.resolveEach Registry.resolveEachVia
    generalize R.resolveList a = x at hprogress hresult hsame ⊢
    generalize S.resolveListVia DomainList.selected a = y at hresult hsame ⊢
    obtain ⟨result, R'⟩ := x
    obtain ⟨_, S'⟩ := y
    cases hresult
    cases result with
    | error e => exact ⟨rfl, hsame⟩
    | ok _ => exact ih (hprogress rfl) hsame hrest

/-- All lists. -/
theorem Keyed.resolveVia_selected (hr : r.Keyed) :
    SameCoversAfter r.resolve (r.resolveVia DomainList.selected) := by
  have hrefl : r.SameCovers r := by
    intro a
    cases r.get? a with
    | none => exact .none
    | some l => exact .some (.refl l)
  unfold Registry.resolve resolveVia
  cases hls : r.levels with
  | error e => exact ⟨rfl, hrefl⟩
  | ok ls => exact (progress_nil r).resolveEachVia_selected hrefl (inOrder_levels hr hls)

/-- Deduplicating early is the same as deduplicating late. Of two sequences of domain rules that
have values the same rules are unique, and in the same order, when the second one was deduplicated
before they are put together, and when both were. If lists took over only the unique domain rules of
those that they include instead of all, resolution would end with the same result and with the same
lists but for the domain rules that are not unique. -/
theorem dedup_early_eq_late {xs ys : List Rule} (hvalues : ∀ x ∈ xs ++ ys, x.value ≠ "")
    (hr : r.Keyed) :
    (∃ u v w, Deduplicates xs u ∧ Deduplicates ys v ∧ Deduplicates (xs ++ ys) w ∧
      Deduplicates (xs ++ v) w ∧ Deduplicates (u ++ v) w) ∧
    (∀ (l included : DomainList) (filters : List Filter),
      l.merge included.selected filters =
        { l.merge included filters with
          domain := l.domain ++ if filters.contains .all then included.uniqueDomain else [] }) ∧
    r.resolveVia id = r.resolve ∧
    (r.resolveVia DomainList.selected).1 = r.resolve.1 ∧
    (r.resolveVia DomainList.selected).2.keys = r.resolve.2.keys ∧
    ∀ a l, r.resolve.2.get? a = some l →
      ∃ rules, (r.resolveVia DomainList.selected).2.get? a = some { l with domain := rules } := by
  obtain ⟨hresult, hsame⟩ := hr.resolveVia_selected
  refine ⟨DomainList.deduplicates_in_parts hvalues, DomainList.merge_selected, resolveVia_id r,
    hresult.symm, Table.keys_eq_of_mem_iff fun a => ?_, fun a l hl => ?_⟩
  · rw [Table.mem_keys_iff, Table.mem_keys_iff]
    have hlists := hsame a
    generalize r.resolve.2.get? a = x at hlists ⊢
    generalize (r.resolveVia DomainList.selected).2.get? a = y at hlists ⊢
    cases hlists with
    | none => simp
    | some _ => simp
  · have hlists := hsame a
    rw [hl] at hlists
    generalize (r.resolveVia DomainList.selected).2.get? a = y at hlists ⊢
    cases hlists with
    | some hcover =>
      obtain ⟨rules, rfl, -⟩ := hcover
      exact ⟨rules, rfl⟩

/-- Lists along a chain of inclusions with domain rules below those of others. -/
def nested : Registry :=
  ofTexts [("a", "b.a.com\nx.com\nkeyword:k @t"), ("b", "include:a\na.com"),
    ("c", "include:b\ncom\nc.x.com")]

/-- The last list of the chain may take over fewer domain rules. -/
theorem dedup_early_eq_late_nested :
    (∀ x ∈ [(⟨.domain, "b.a.com", []⟩ : Rule), ⟨.domain, "x.com", []⟩] ++ [⟨.domain, "a.com", []⟩],
      x.value ≠ "") ∧
    nested.Keyed ∧
    (∃ u v w, Deduplicates [⟨.domain, "b.a.com", []⟩, ⟨.domain, "x.com", []⟩] u ∧
      Deduplicates [⟨.domain, "a.com", []⟩] v ∧
      Deduplicates ([⟨.domain, "b.a.com", []⟩, ⟨.domain, "x.com", []⟩] ++ v) w ∧
      Deduplicates (u ++ v) w) ∧
    ∃ l rules, nested.resolve.2.get? "C" = some l ∧
      (nested.resolveVia DomainList.selected).2.get? "C" = some { l with domain := rules } := by
  have hvalues : ∀ x ∈ [(⟨.domain, "b.a.com", []⟩ : Rule), ⟨.domain, "x.com", []⟩] ++
      [⟨.domain, "a.com", []⟩], x.value ≠ "" := by decide
  have hkeyed : nested.Keyed := (parsed_ofTexts _).keyed
  have hkey : "C" ∈ nested.keys := by decide +kernel
  obtain ⟨⟨u, v, w, hu, hv, -, hlate, hearly⟩, -, -, -, -, hlists⟩ :=
    dedup_early_eq_late hvalues hkeyed
  obtain ⟨l, hl⟩ := Table.mem_keys_iff.1 (nested.keys_resolve ▸ hkey)
  obtain ⟨rules, hrules⟩ := hlists "C" l hl
  exact ⟨hvalues, hkeyed, ⟨u, v, w, hu, hv, hlate, hearly⟩, l, rules, hl, hrules⟩

end Registry

end RoutingData
