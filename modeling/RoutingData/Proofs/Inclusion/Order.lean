import RoutingData.Proofs.Inclusion.Failure

/-!
# Every order of inclusion

Resolution goes by levels, but any order will do in which each list comes after all that it includes
(`IsInclusionOrder`). A run in such an order settles every list, and what lists settle to is
determined along inclusions (`get?_eq_of_agree`), so all these runs end alike. That resolution
takes a list out of the registry while it is settled does not matter either.
-/

namespace RoutingData.Registry

open Relation

variable {r r' R R' : Registry} {done names order : List String} {ls : List (List String)}
  {a : String}

/-- The order has each list once, after all that it includes. -/
structure IsInclusionOrder (r : Registry) (order : List String) : Prop where
  /-- Each list is there, once. -/
  perm : order.Perm r.keys
  /-- What a list includes is there before. -/
  included_before : ∀ before a after, order = before ++ a :: after →
    ∀ b, r.Includes a b → b ∈ before

/-- Settles a list against the registry as it is. What the failed steps changed stays changed. -/
def settleList (R : Registry) (name : String) : Except BuildError Unit × Registry :=
  match R.get? name with
  | none => (.ok (), R)
  | some l =>
    let settled := l.settle R.get?
    (settled.1, R.insert name settled.2)

/-- Settles lists one after the other, up to the first failure. -/
def settleEach : List String → Registry → Except BuildError Unit × Registry
  | [], R => (.ok (), R)
  | name :: rest, R =>
    match R.settleList name with
    | (.error e, R) => (.error e, R)
    | (.ok (), R) => settleEach rest R

/-- In an order of inclusion each list has its turn when all that it includes is done. -/
theorem IsInclusionOrder.inOrder (h : r.IsInclusionOrder order) : r.InOrder [] order := by
  -- by induction on what is left of the order, the lists before it being done
  have hrest : ∀ rest done, order = done ++ rest → r.InOrder done rest := by
    intro rest
    induction rest with
    | nil => exact fun _ _ => trivial
    | cons a rest ih =>
      intro done hsplit
      have hkey : a ∈ r.keys := h.perm.mem_iff.1 (by rw [hsplit]; simp)
      have hnodup : (done ++ a :: rest).Nodup := hsplit ▸ h.perm.nodup_iff.2 r.keys_nodup
      have hnew : a ∉ done :=
        fun hmem => List.disjoint_of_nodup_append hnodup hmem List.mem_cons_self
      refine ⟨hkey, hnew, h.included_before done a rest hsplit, ih (done ++ [a]) ?_⟩
      rw [hsplit, List.append_assoc, List.singleton_append]
  exact hrest order [] rfl

/-- For a list that does not include itself it makes no difference whether it is in the registry
while it is settled. -/
theorem settleList_eq_resolveList {a : String} (h : ∀ l, R.get? a = some l → a ∉ l.targets) :
    R.settleList a = R.resolveList a := by
  cases hl : R.get? a with
  | none => rw [settleList, resolveList, hl]
  | some l =>
    have hothers : ∀ b ∈ l.targets, R.get? b = (R.erase a).get? b := by
      intro b hb
      rw [Table.get?_erase, if_neg (by rintro rfl; exact h l hl hb)]
    rw [resolveList_eq hl, ← DomainList.settle_congr hothers, settleList, hl]

/-- When all lists come after what they include, it makes no difference for any of them. -/
theorem Progress.settleEach_eq_resolveEach (h : r.Progress R done) (hnames : r.InOrder done names) :
    settleEach names R = resolveEach names R := by
  induction names generalizing R done with
  | nil => rfl
  | cons a names ih =>
    obtain ⟨hkey, hnew, hready, hrest⟩ := hnames
    -- a list that included itself would be done before its turn
    have hself : ∀ l, R.get? a = some l → a ∉ l.targets := by
      intro l hl hmem
      rw [h.untouched a hnew] at hl
      exact hnew (hready a ((includes_iff_mem_targets hl).2 hmem))
    have hstep := h.step hkey hnew hready
    rw [settleEach, resolveEach, settleList_eq_resolveList hself]
    generalize R.resolveList a = outcome at hstep ⊢
    rcases outcome with ⟨_ | _, R'⟩
    · rfl
    · exact ih (hstep rfl) hrest

/-- What a list settles to is determined by the list and by those that it reaches, in whatever
registries they stand. -/
theorem get?_eq_of_agree (hacyclic : r.Acyclic)
    (hagree : ∀ b, ReflTransGen r.Includes a b → r.get? b = r'.get? b)
    (h : ∀ b, ReflTransGen r.Includes a b → r.SettledAt R b)
    (h' : ∀ b, ReflTransGen r.Includes a b → r'.SettledAt R' b) : R.get? a = R'.get? a := by
  induction a using hacyclic.wellFounded.induction with
  | _ a ih =>
    obtain ⟨l, m, hl, hm, hsettle⟩ := h a .refl
    obtain ⟨l', m', hl', hm', hsettle'⟩ := h' a .refl
    rw [← hagree a .refl, hl] at hl'
    cases hl'
    have hincluded : ∀ b ∈ l.targets, R.get? b = R'.get? b := by
      intro b hb
      have hab := (includes_iff_mem_targets hl).2 hb
      exact ih b hab (fun c hbc => hagree c (hbc.head hab)) (fun c hbc => h c (hbc.head hab))
        fun c hbc => h' c (hbc.head hab)
    rw [DomainList.settle_congr hincluded, hsettle'] at hsettle
    cases hsettle
    rw [hm, hm']

/-- What lists settle to is determined: by what those that they include settle to. -/
theorem get?_eq_of_settledAt (hc : r.Complete) (hacyclic : r.Acyclic)
    (h : ∀ a ∈ r.keys, r.SettledAt R a) (h' : ∀ a ∈ r.keys, r.SettledAt R' a) (a : String)
    (ha : a ∈ r.keys) : R.get? a = R'.get? a :=
  get?_eq_of_agree hacyclic (fun _ _ => rfl) (fun b hab => h b (hc.mem_keys_of_reaches ha hab))
    fun b hab => h' b (hc.mem_keys_of_reaches ha hab)

/-- Lists as they were read that have levels may be settled in any order in which each comes after
all that it includes: what results is the resolved registry. -/
theorem settleEach_eq_resolve (hr : r.Parsed) (hls : r.levels = .ok ls)
    (horder : r.IsInclusionOrder order) :
    settleEach order r = r.resolve ∧ r.resolve.1 = .ok () := by
  obtain ⟨hc, hacyclic, -⟩ := (levels_eq_ok_iff hr.keyed).1 hls
  -- no run fails: included lists are found, and domain rules that were read have values
  have hrun : ∀ names, r.InOrder [] names → (resolveEach names r).1 = .ok () := by
    intro names hnames
    rcases (progress_nil r).first_failure hr.keyed hnames with ⟨hok, -⟩ | ⟨_, a, _, -, -, ha, -⟩
    · exact hok
    · exact absurd ha (hr.not_lacksValueAt a)
  have hok : r.resolve.1 = .ok () := by
    rw [resolve, hls]
    exact hrun _ (inOrder_levels hr.keyed hls)
  refine ⟨?_, hok⟩
  have hinOrder := horder.inOrder
  have horderOk := hrun order hinOrder
  have hend := (progress_nil r).run hinOrder horderOk
  obtain ⟨-, -, hsettled, hnone⟩ := resolve_ok hr.keyed hok
  rw [(progress_nil r).settleEach_eq_resolveEach hinOrder]
  -- both runs settle every list and leave no other names
  refine Prod.ext (horderOk.trans hok.symm) (Table.ext_get? fun a => ?_)
  by_cases ha : a ∈ r.keys
  · exact get?_eq_of_settledAt hc hacyclic
      (fun a ha => hend.settled a (horder.perm.mem_iff.2 ha)) hsettled a ha
  · have hnot : a ∉ [] ++ order := fun h => ha (horder.perm.mem_iff.1 h)
    rw [hnone a ha, hend.untouched a hnot, Table.get?_eq_none_iff.2 ha]

/-- A list that includes another one, and a third one for itself. -/
def branch : Registry :=
  ofTexts [("a", "keyword:K\nfull:x.com @t"), ("b", "include:a @t\nkeyword:k"), ("c", "regexp:^C$")]

/-- What the lists of the branch include. -/
theorem includes_branch {a b : String} (h : branch.Includes a b) : a = "B" ∧ b = "A" := by
  obtain ⟨l, hl, hb⟩ := h
  have hentries : ∀ e ∈ branch.entries, ∀ b ∈ e.2.targets, e.1 = "B" ∧ b = "A" := by
    decide +kernel
  exact hentries (a, l) (Table.mem_entries_iff.2 hl) b hb

/-- The list on its own may come last, although resolution takes it before the including one. -/
theorem settleEach_eq_resolve_branch :
    branch.Parsed ∧ branch.levels = .ok [["A", "C"], ["B"]] ∧
      branch.IsInclusionOrder ["A", "B", "C"] ∧
      settleEach ["A", "B", "C"] branch = branch.resolve ∧ branch.resolve.1 = .ok () := by
  have hparsed : branch.Parsed := parsed_ofTexts _
  have hlevels : branch.levels = .ok [["A", "C"], ["B"]] := by decide +kernel
  have horder : branch.IsInclusionOrder ["A", "B", "C"] := by
    refine ⟨by decide +kernel, fun before a after hsplit b hab => ?_⟩
    obtain ⟨rfl, rfl⟩ := includes_branch hab
    rcases before with _ | ⟨first, before⟩
    · simp at hsplit
    · rw [List.cons_append, List.cons.injEq] at hsplit
      exact hsplit.1 ▸ List.mem_cons_self
  exact ⟨hparsed, hlevels, horder, settleEach_eq_resolve hparsed hlevels horder⟩

end RoutingData.Registry
