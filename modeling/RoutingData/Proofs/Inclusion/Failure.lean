import RoutingData.Proofs.Inclusion.Resolution
import RoutingData.Proofs.Reading

/-!
# Failing resolution

Resolution can fail before it starts, when the registry has no levels, and then nothing is changed.
Once it has started every list finds the lists that it includes, since these are done before it
(`Progress.settle_eq`). It can still stop at a list with a domain rule that has no value. Lists that
are done have no such rule, so a list takes none over, and the first list that fails is the first
that had such a rule from the start (`Progress.first_failure`).
-/

namespace RoutingData

namespace DomainList

variable {l included m : DomainList} {lookup : String → Option DomainList}

/-- A domain rule of the list has no value. -/
def LacksValue (l : DomainList) : Prop := ∃ x ∈ l.domain, x.value = ""

/-- An inclusion adds domain rules of the included list, or none. -/
theorem domain_merge (l included : DomainList) (filters : List Filter) :
    ∃ added, (l.merge included filters).domain = l.domain ++ added ∧
      added ⊆ included.domain := by
  rw [merge]
  split
  · exact ⟨included.domain, rfl, List.Subset.refl _⟩
  · exact ⟨[], (List.append_nil _).symm, List.nil_subset _⟩

/-- Adding lists whose domain rules have values adds no domain rule without one. -/
theorem lacksValue_mergeEach_iff (es : List (String × List Filter))
    (hfound : ∀ e ∈ es, ∃ included, lookup e.1 = some included ∧ ¬ included.LacksValue)
    (l : DomainList) : (mergeEach lookup es l).2.LacksValue ↔ l.LacksValue := by
  induction es generalizing l with
  | nil => exact Iff.rfl
  | cons e es ih =>
    obtain ⟨included, hincluded, hvalues⟩ := hfound e List.mem_cons_self
    obtain ⟨added, hadded, hsub⟩ := domain_merge l included e.2
    simp only [mergeEach, hincluded]
    refine (ih (fun d hd => hfound d (List.mem_cons_of_mem e hd)) _).trans ?_
    rw [LacksValue, hadded]
    constructor
    · rintro ⟨x, hx, hvalue⟩
      rcases List.mem_append.1 hx with hx | hx
      · exact ⟨x, hx, hvalue⟩
      · exact absurd ⟨x, hsub hx, hvalue⟩ hvalues
    · rintro ⟨x, hx, hvalue⟩
      exact ⟨x, List.mem_append_left _ hx, hvalue⟩

/-- A list that includes lists whose domain rules have values takes over all that it asks for, and
no domain rule without a value. -/
theorem flatten_of_found
    (hfound : ∀ b ∈ l.targets, ∃ included, lookup b = some included ∧ ¬ included.LacksValue) :
    (l.flatten lookup).1 = .ok () ∧ ((l.flatten lookup).2.LacksValue ↔ l.LacksValue) := by
  refine ⟨flatten_ok_of_found fun b hb => (hfound b hb).imp fun _ h => h.1, ?_⟩
  obtain ⟨inclusions, heq⟩ := flatten_eq lookup l
  rw [heq]
  exact lacksValue_mergeEach_iff _ (fun e he => hfound e.1 (List.mem_map_of_mem he)) _

/-- A list that includes such lists settles unless a domain rule of its own has no value. -/
theorem settle_of_found
    (hfound : ∀ b ∈ l.targets, ∃ included, lookup b = some included ∧ ¬ included.LacksValue) :
    (¬ l.LacksValue → (l.settle lookup).1 = .ok ()) ∧
      (l.LacksValue → (l.settle lookup).1 = .error (.emptyDomain l.name)) := by
  obtain ⟨hok, hiff⟩ := flatten_of_found hfound
  have hname := @name_flatten lookup l
  rw [settle]
  split
  next heq =>
    rw [heq] at hok
    cases hok
  next flat heq =>
    rw [heq] at hiff hname
    refine ⟨fun hvalues => ?_, fun hlacks => ?_⟩
    · exact dedupDomains_eq_ok_iff.2 fun x hx hvalue => hvalues (hiff.1 ⟨x, hx, hvalue⟩)
    · rw [dedupDomains_of_empty (hiff.2 hlacks), ← hname]

/-- Once a list is settled its domain rules have values. -/
theorem not_lacksValue_of_settle (h : l.settle lookup = (.ok (), m)) : ¬ m.LacksValue := by
  have hdedup := (settle_eq_ok_iff.1 h).2
  have hvalues := dedupDomains_eq_ok_iff.1 (congrArg Prod.fst hdedup)
  rw [dedupDomains_of_values hvalues] at hdedup
  cases hdedup
  rintro ⟨x, hx, hvalue⟩
  exact hvalues x ((sortedByGenerality _).perm.mem_iff.1 hx) hvalue

end DomainList

namespace Registry

variable {r R : Registry} {done names before after : List String} {a b : String}
  {l : DomainList} {ls : List (List String)}

/-- The list named `a` has a domain rule without a value. -/
def LacksValueAt (r : Registry) (a : String) : Prop := ∃ l, r.get? a = some l ∧ l.LacksValue

/-! ### Names -/

/-- Resolving a list neither adds nor removes a name. -/
theorem mem_keys_resolveList (R : Registry) (a b : String) :
    b ∈ (R.resolveList a).2.keys ↔ b ∈ R.keys := by
  cases hl : R.get? a with
  | none => rw [resolveList, hl]
  | some l =>
    rw [resolveList_eq hl, Table.mem_keys_iff, Table.mem_keys_iff]
    simp only [Table.get?_insert]
    split
    next hb => simp [hb, hl]
    next => rfl

/-- Resolving lists neither adds nor removes a name. -/
theorem mem_keys_resolveEach (names : List String) (R : Registry) (b : String) :
    b ∈ (resolveEach names R).2.keys ↔ b ∈ R.keys := by
  induction names generalizing R with
  | nil => rfl
  | cons a names ih =>
    have hstep := mem_keys_resolveList R a b
    rw [resolveEach]
    split
    next heq => rw [heq] at hstep; exact hstep
    next heq => rw [heq] at hstep; exact (ih _).trans hstep

/-- Resolution keeps the names, whatever its result is. -/
theorem keys_resolve (r : Registry) : r.resolve.2.keys = r.keys := by
  refine Table.keys_eq_of_mem_iff fun b => ?_
  rw [resolve]
  split
  · rfl
  · exact mem_keys_resolveEach _ r b

/-! ### Failures before the start -/

/-- A registry without levels includes an unknown list or has a cycle. -/
theorem levels_eq_error {e : BuildError} (h : r.levels = .error e) :
    (∃ list target, e = .unknownInclude list target) ∨ ∃ lists, e = .inclusionCycle lists := by
  rw [levels] at h
  split at h
  next list target _ =>
    cases h
    exact .inl ⟨list, target, rfl⟩
  next =>
    dsimp only at h
    split at h
    · cases h
    · cases h
      exact .inr ⟨_, rfl⟩

/-! ### Failures on the way -/

/-- An order is an order up to each of its lists, and from there. -/
theorem InOrder.of_append {more : List String} (h : r.InOrder done (names ++ more)) :
    r.InOrder done names ∧ r.InOrder (done ++ names) more := by
  induction names generalizing done with
  | nil => exact ⟨trivial, by simpa using h⟩
  | cons a names ih =>
    obtain ⟨hkey, hnew, hready, hrest⟩ := h
    obtain ⟨hfront, hmore⟩ := ih hrest
    exact ⟨⟨hkey, hnew, hready, hfront⟩, by simpa using hmore⟩

/-- A list whose turn it is finds every list that it includes, with values in all domain rules. -/
theorem Progress.found (h : r.Progress R done) (hnew : a ∉ done) (hl : r.get? a = some l)
    (hready : ∀ b, r.Includes a b → b ∈ done) :
    ∀ b ∈ l.targets, ∃ included, (R.erase a).get? b = some included ∧ ¬ included.LacksValue := by
  intro b hb
  have hdone := hready b ((includes_iff_mem_targets hl).2 hb)
  obtain ⟨_, m, -, hm, hsettle⟩ := h.settled b hdone
  refine ⟨m, ?_, DomainList.not_lacksValue_of_settle hsettle⟩
  rw [Table.get?_erase, if_neg (by rintro rfl; exact hnew hdone), hm]

/-- A list whose turn it is takes over all that it asks for, and is resolved unless one of its own
domain rules has no value. -/
theorem Progress.resolveList (hr : r.Keyed) (h : r.Progress R done) (hkey : a ∈ r.keys)
    (hnew : a ∉ done) (hready : ∀ b, r.Includes a b → b ∈ done) :
    (∃ l, R.get? a = some l ∧ (l.flatten (R.erase a).get?).1 = .ok ()) ∧
      (¬ r.LacksValueAt a → (R.resolveList a).1 = .ok ()) ∧
      (r.LacksValueAt a → (R.resolveList a).1 = .error (.emptyDomain a)) := by
  obtain ⟨l, hl⟩ := Table.mem_keys_iff.1 hkey
  have hRl : R.get? a = some l := (h.untouched a hnew).trans hl
  have hfound := h.found hnew hl hready
  obtain ⟨hok, herror⟩ := DomainList.settle_of_found hfound
  have hlacks : r.LacksValueAt a ↔ l.LacksValue := by
    rw [LacksValueAt, hl]
    simp
  rw [hr a l hl] at herror
  rw [resolveList_eq hRl, hlacks]
  exact ⟨⟨l, hRl, (DomainList.flatten_of_found hfound).1⟩, hok, herror⟩

/-- Lists in order are resolved up to the first one with a domain rule without a value. -/
theorem Progress.first_failure (hr : r.Keyed) (h : r.Progress R done)
    (hnames : r.InOrder done names) :
    (resolveEach names R).1 = .ok () ∧ (∀ a ∈ names, ¬ r.LacksValueAt a) ∨
      ∃ before a after, names = before ++ a :: after ∧
        (resolveEach names R).1 = .error (.emptyDomain a) ∧ r.LacksValueAt a ∧
        ∀ b ∈ before, ¬ r.LacksValueAt b := by
  induction names generalizing R done with
  | nil => exact .inl ⟨rfl, by simp⟩
  | cons a names ih =>
    obtain ⟨hkey, hnew, hready, hrest⟩ := hnames
    obtain ⟨-, hok, herror⟩ := h.resolveList hr hkey hnew hready
    rw [resolveEach]
    by_cases hlacks : r.LacksValueAt a
    · have hstop := herror hlacks
      refine .inr ⟨[], a, names, rfl, ?_, hlacks, by simp⟩
      split
      next heq => rw [heq] at hstop; exact hstop
      next heq => rw [heq] at hstop; cases hstop
    · have hgo := hok hlacks
      have hstep := h.step hkey hnew hready hgo
      split
      next heq => rw [heq] at hgo; cases hgo
      next R' heq =>
        rw [heq] at hstep
        rcases ih hstep hrest with ⟨hend, hnone⟩ | ⟨before, b, after, rfl, hend, hb, hbefore⟩
        · exact .inl ⟨hend, List.forall_mem_cons.2 ⟨hlacks, hnone⟩⟩
        · exact .inr ⟨a :: before, b, after, rfl, hend, hb,
            List.forall_mem_cons.2 ⟨hlacks, hbefore⟩⟩

/-- The levels put the lists in order. -/
theorem inOrder_levels (hr : r.Keyed) (hls : r.levels = .ok ls) : r.InOrder [] ls.flatten := by
  obtain ⟨-, -, rfl⟩ := (levels_eq_ok_iff hr).1 hls
  exact inOrder_place hr _ rfl

/-- A list that resolution comes to takes over all that it asks for. -/
theorem flatten_ok_of_levels (hr : r.Keyed) (hls : r.levels = .ok ls)
    (hsplit : ls.flatten = before ++ a :: after) (hok : (resolveEach before r).1 = .ok ()) :
    ∃ l, (resolveEach before r).2.get? a = some l ∧
      (l.flatten ((resolveEach before r).2.erase a).get?).1 = .ok () := by
  obtain ⟨hbefore, hkey, hnew, hready, -⟩ := InOrder.of_append (hsplit ▸ inOrder_levels hr hls)
  have hprogress := (progress_nil r).run hbefore hok
  exact (hprogress.resolveList hr hkey hnew hready).1

/-- The levels hold the names of all lists. -/
theorem mem_flatten_levels_iff (hr : r.Keyed) (hls : r.levels = .ok ls) :
    a ∈ ls.flatten ↔ a ∈ r.keys := by
  obtain ⟨hc, hacyclic, rfl⟩ := (levels_eq_ok_iff hr).1 hls
  have hplaced := placement_all hr hc
  have hall := (hplaced.stuck_eq_nil_iff hr).1
    ((hplaced.stuck_eq_nil_iff_acyclic hr hc).2 hacyclic)
  exact ⟨fun ha => ((hplaced.placedBelow a).1 ha).1, hall a⟩

/-- A name that stands before another one in the levels, each ascending, has a lower level, or the
same level and a smaller name. -/
theorem exists_atLevel_of_split (hascending : ∀ level ∈ ls, level.Pairwise (· < ·))
    (hsplit : ls.flatten = before ++ a :: after) :
    ∃ k, AtLevel ls k a ∧ ∀ j b, AtLevel ls j b → b ∈ before ∨ k < j ∨ k = j ∧ a ≤ b := by
  induction ls generalizing before with
  | nil => simp at hsplit
  | cons level ls ih =>
    obtain ⟨hlevel, hrest⟩ := List.forall_mem_cons.1 hascending
    have hzero : ∀ b, AtLevel (level :: ls) 0 b ↔ b ∈ level := fun b => by simp [AtLevel]
    have hsucc : ∀ j b, AtLevel (level :: ls) (j + 1) b ↔ AtLevel ls j b := fun j b => Iff.rfl
    -- the name stands in a later level or in the first
    have hlater : ∀ front, ls.flatten = front ++ a :: after → level ++ front = before →
        ∃ k, AtLevel (level :: ls) k a ∧
          ∀ j b, AtLevel (level :: ls) j b → b ∈ before ∨ k < j ∨ k = j ∧ a ≤ b := by
      rintro front hfront rfl
      obtain ⟨k, hk, hleast⟩ := ih hrest hfront
      refine ⟨k + 1, (hsucc k a).2 hk, fun j b hb => ?_⟩
      cases j with
      | zero => exact .inl (List.mem_append_left _ ((hzero b).1 hb))
      | succ j =>
        rcases hleast j b ((hsucc j b).1 hb) with h | h | ⟨h, hle⟩
        · exact .inl (List.mem_append_right _ h)
        · exact .inr (.inl (Nat.succ_lt_succ h))
        · exact .inr (.inr ⟨congrArg _ h, hle⟩)
    rw [List.flatten_cons] at hsplit
    rcases List.append_eq_append_iff.1 hsplit with ⟨front, hbefore, hfront⟩ | ⟨back, hback, hrest⟩
    · exact hlater front hfront hbefore.symm
    · cases back with
      | nil => exact hlater [] hrest.symm (by simpa using hback)
      | cons c back =>
        obtain ⟨rfl, -⟩ := List.cons.inj hrest
        rw [hback, List.pairwise_append, List.pairwise_cons] at hlevel
        refine ⟨0, (hzero a).2 (by simp [hback]), fun j b hb => ?_⟩
        cases j with
        | zero =>
          rw [hzero, hback, List.mem_append, List.mem_cons] at hb
          rcases hb with hb | rfl | hb
          · exact .inl hb
          · exact .inr (.inr ⟨rfl, le_refl _⟩)
          · exact .inr (.inr ⟨rfl, le_of_lt (hlevel.2.1.1 b hb)⟩)
        | succ j => exact .inr (.inl (Nat.succ_pos j))

/-- How resolution ends: without levels, with every list resolved, or at the first list with a
domain rule without a value. -/
theorem resolve_cases (hr : r.Keyed) :
    (∃ e, r.levels = .error e ∧ r.resolve = (.error e, r)) ∨
      ∃ ls, r.levels = .ok ls ∧
        (r.resolve.1 = .ok () ∧ (∀ a ∈ ls.flatten, ¬ r.LacksValueAt a) ∨
          ∃ before a after, ls.flatten = before ++ a :: after ∧
            r.resolve.1 = .error (.emptyDomain a) ∧ r.LacksValueAt a ∧
            ∀ b ∈ before, ¬ r.LacksValueAt b) := by
  cases hls : r.levels with
  | error e => exact .inl ⟨e, rfl, by rw [resolve, hls]⟩
  | ok ls =>
    have hrun : r.resolve = resolveEach ls.flatten r := by rw [resolve, hls]
    rw [hrun]
    exact .inr ⟨ls, rfl, (progress_nil r).first_failure hr (inOrder_levels hr hls)⟩

/-- A failure before the start changes nothing, and there is no other failure than that of a list
with a domain rule without a value. -/
theorem resolve_eq_error (hr : r.Keyed) {e : BuildError} (he : r.resolve.1 = .error e) :
    ((∃ list target, e = .unknownInclude list target) ∨ ∃ lists, e = .inclusionCycle lists) ∧
        r.resolve.2 = r ∨
      ∃ a, e = .emptyDomain a := by
  rcases resolve_cases hr with ⟨e', hlevels, heq⟩ | ⟨ls, -, ⟨hok, -⟩ | ⟨_, a, _, -, herror, -⟩⟩
  · rw [heq] at he ⊢
    cases he
    exact .inl ⟨levels_eq_error hlevels, rfl⟩
  · rw [hok] at he
    cases he
  · rw [herror] at he
    cases he
    exact .inr ⟨a, rfl⟩

/-- The list at which resolution stops is the first one with a domain rule without a value. -/
theorem split_of_emptyDomain (hr : r.Keyed) (ha : r.resolve.1 = .error (.emptyDomain a)) :
    ∃ ls before after, r.levels = .ok ls ∧ ls.flatten = before ++ a :: after ∧
      r.LacksValueAt a ∧ ∀ b ∈ before, ¬ r.LacksValueAt b := by
  rcases resolve_cases hr with
    ⟨e, hlevels, heq⟩ | ⟨ls, hls, ⟨hok, -⟩ | ⟨before, b, after, hsplit, herror, hb, hbefore⟩⟩
  · rw [heq] at ha
    cases ha
    rcases levels_eq_error hlevels with ⟨_, _, h⟩ | ⟨_, h⟩ <;> cases h
  · rw [hok] at ha
    cases ha
  · rw [herror] at ha
    cases ha
    exact ⟨ls, before, after, hls, hsplit, hb, hbefore⟩

/-- Resolution stops at a list when there are levels and some list has a domain rule without a
value. -/
theorem exists_emptyDomain_iff (hr : r.Keyed) :
    (∃ a, r.resolve.1 = .error (.emptyDomain a)) ↔
      r.Complete ∧ r.Acyclic ∧ ∃ a, r.LacksValueAt a := by
  constructor
  · rintro ⟨a, ha⟩
    obtain ⟨ls, _, _, hls, -, hlacks, -⟩ := split_of_emptyDomain hr ha
    obtain ⟨hc, hacyclic, -⟩ := (levels_eq_ok_iff hr).1 hls
    exact ⟨hc, hacyclic, a, hlacks⟩
  · rintro ⟨hc, hacyclic, b, hb⟩
    rcases resolve_cases hr with ⟨e, hlevels, -⟩ | ⟨ls, hls, ⟨-, hnone⟩ | ⟨_, a, _, -, ha, -⟩⟩
    · rw [(levels_eq_ok_iff hr).2 ⟨hc, hacyclic, rfl⟩] at hlevels
      cases hlevels
    · obtain ⟨l, hl, -⟩ := id hb
      have hkey := Table.mem_keys_iff.2 ⟨l, hl⟩
      exact absurd hb (hnone b ((mem_flatten_levels_iff hr hls).2 hkey))
    · exact ⟨a, ha⟩

/-- By level and name, the list at which resolution stops comes before every other list with a
domain rule without a value. -/
theorem least_of_emptyDomain (hr : r.Keyed) (ha : r.resolve.1 = .error (.emptyDomain a)) :
    ∃ ls k, r.levels = .ok ls ∧ AtLevel ls k a ∧ r.LacksValueAt a ∧
      ∀ j b, AtLevel ls j b → r.LacksValueAt b → k < j ∨ k = j ∧ a ≤ b := by
  obtain ⟨ls, before, after, hls, hsplit, hlacks, hbefore⟩ := split_of_emptyDomain hr ha
  have hascending : ∀ level ∈ ls, level.Pairwise (· < ·) := by
    obtain ⟨hc, -, rfl⟩ := (levels_eq_ok_iff hr).1 hls
    exact fun level hlevel => ((placement_all hr hc).level_ascending level hlevel).2
  obtain ⟨k, hk, hleast⟩ := exists_atLevel_of_split hascending hsplit
  exact ⟨ls, k, hls, hk, hlacks, fun j b hb hblacks =>
    (hleast j b hb).resolve_left fun hmem => hbefore b hmem hblacks⟩

/-- In a list as it was read every domain rule has a value. -/
theorem Parsed.not_lacksValueAt (hr : r.Parsed) (a : String) : ¬ r.LacksValueAt a := by
  rintro ⟨l, hl, x, hx, hvalue⟩
  have hfresh := hr.fresh hl
  have hkeyword := hfresh.valued_of_mem_bucket .domain x hx hvalue
  rw [(hfresh.filed.of_mem_bucket .domain x hx).1] at hkeyword
  cases hkeyword

/-- Lists as they were read are all resolved, or nothing is changed. -/
theorem Parsed.resolve_ok_or_eq (hr : r.Parsed) : r.resolve.1 = .ok () ∨ r.resolve.2 = r := by
  rcases resolve_cases hr.keyed with ⟨e, -, heq⟩ | ⟨ls, -, ⟨hok, -⟩ | ⟨_, a, _, -, -, ha, -⟩⟩
  · exact .inr (congrArg Prod.snd heq)
  · exact .inl hok
  · exact absurd ha (hr.not_lacksValueAt a)

/-- Resolution keeps every name and leaves every list under its own. When it fails for an unknown
list or a cycle, the registry is as it was. Otherwise it fails only for a domain rule without a
value: exactly when the registry is complete and acyclic and some list has such a rule, and for the
first such list by level and name. A list that resolution comes to always takes over all that it
asks for. Lists as they were read are all resolved, or nothing is changed. -/
theorem resolve_fails_cleanly (hr : r.Keyed) :
    (r.resolve.2.keys = r.keys ∧ r.resolve.2.Keyed) ∧
    (∀ e, r.resolve.1 = .error e →
      ((∃ list target, e = .unknownInclude list target) ∨ ∃ lists, e = .inclusionCycle lists) ∧
          r.resolve.2 = r ∨
        ∃ a, e = .emptyDomain a) ∧
    ((∃ a, r.resolve.1 = .error (.emptyDomain a)) ↔
      r.Complete ∧ r.Acyclic ∧ ∃ a, r.LacksValueAt a) ∧
    (∀ a, r.resolve.1 = .error (.emptyDomain a) →
      ∃ ls k, r.levels = .ok ls ∧ AtLevel ls k a ∧ r.LacksValueAt a ∧
        ∀ j b, AtLevel ls j b → r.LacksValueAt b → k < j ∨ k = j ∧ a ≤ b) ∧
    (∀ ls before a after, r.levels = .ok ls → ls.flatten = before ++ a :: after →
      (resolveEach before r).1 = .ok () →
        ∃ l, (resolveEach before r).2.get? a = some l ∧
          (l.flatten ((resolveEach before r).2.erase a).get?).1 = .ok ()) ∧
    (r.Parsed → r.resolve.1 = .ok () ∨ r.resolve.2 = r) := by
  refine ⟨⟨r.keys_resolve, hr.resolve⟩, fun e => resolve_eq_error hr, exists_emptyDomain_iff hr,
    fun a => least_of_emptyDomain hr, fun ls before a after => ?_, Parsed.resolve_ok_or_eq⟩
  exact flatten_ok_of_levels hr

/-- Two lists with a domain rule that has no value; the one with the smaller name includes a list
without rules. -/
def valueless : Registry :=
  (((∅ : Registry).add
      { name := "A", inclusions := .ofList [("C", [.all])], domain := [⟨.domain, "", []⟩] }).add
    { name := "B", domain := [⟨.domain, "", []⟩] }).add
    { name := "C" }

/-- Resolution stops at the list without inclusions, which has the lower level. -/
theorem resolve_fails_cleanly_valueless :
    valueless.Keyed ∧ valueless.resolve.1 = .error (.emptyDomain "B") ∧
      ∃ ls k, valueless.levels = .ok ls ∧ AtLevel ls k "B" ∧ valueless.LacksValueAt "B" ∧
        ∀ j b, AtLevel ls j b → valueless.LacksValueAt b → k < j ∨ k = j ∧ "B" ≤ b := by
  have hkeyed : valueless.Keyed := ((keyed_empty.add _).add _).add _
  have herror : valueless.resolve.1 = .error (.emptyDomain "B") := by decide +kernel
  exact ⟨hkeyed, herror, (resolve_fails_cleanly hkeyed).2.2.2.1 "B" herror⟩

end Registry

end RoutingData
