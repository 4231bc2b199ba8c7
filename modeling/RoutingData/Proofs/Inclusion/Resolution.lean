import RoutingData.Proofs.Filing
import RoutingData.Proofs.Inclusion.Levels

/-!
# Resolution in order

Resolving settles the lists one after the other: a list takes over what its inclusions ask for, from
the lists as they are then. When each list comes after all that it includes (`InOrder`), these are
settled already and never change again, so it makes no difference whether a list looks at the others
in the middle of the run or at its end. `Progress` is the invariant of the run, kept by one list
(`Progress.step`) and so by all (`Progress.run`); at the end every list is what settling it against
the resolved registry gives (`resolve_ok`).
-/

namespace RoutingData

namespace DomainList

variable {l : DomainList} {f g lookup : String → Option DomainList}

/-- Adds what the inclusions of a list ask for and selects domain rules. -/
def settle (lookup : String → Option DomainList) (l : DomainList) :
    Except BuildError Unit × DomainList :=
  match l.flatten lookup with
  | (.error e, l) => (.error e, l)
  | (.ok (), l) => l.dedupDomains

/-- Only the lists that are included matter. -/
theorem mergeEach_congr (es : List (String × List Filter)) (h : ∀ e ∈ es, f e.1 = g e.1) :
    mergeEach f es l = mergeEach g es l := by
  induction es generalizing l with
  | nil => rfl
  | cons e es ih =>
    rw [mergeEach, mergeEach, h e List.mem_cons_self]
    cases g e.1 with
    | none => rfl
    | some included => exact ih fun d hd => h d (List.mem_cons_of_mem e hd)

/-- What a list takes over depends on the lists that it includes. -/
theorem flatten_congr (h : ∀ b ∈ l.targets, f b = g b) : l.flatten f = l.flatten g := by
  rw [flatten, flatten,
    mergeEach_congr l.inclusions.entries fun e he => h e.1 (List.mem_map_of_mem he)]

/-- What a list settles to depends on the lists that it includes. -/
theorem settle_congr (h : ∀ b ∈ l.targets, f b = g b) : l.settle f = l.settle g := by
  rw [settle, settle, flatten_congr h]

/-- The rules of included lists are all added when each of these lists is found. -/
theorem mergeEach_eq_ok_iff (es : List (String × List Filter)) (l : DomainList) :
    (mergeEach lookup es l).1 = .ok () ↔ ∀ e ∈ es, (lookup e.1).isSome := by
  induction es generalizing l with
  | nil => simp [mergeEach]
  | cons e es ih =>
    rw [mergeEach, List.forall_mem_cons]
    cases hfound : lookup e.1 with
    | none => simp
    | some included => simpa using ih (l.merge included e.2)

/-- A list takes over what it asks for when each list that it includes is found. -/
theorem flatten_eq_ok_iff :
    (l.flatten lookup).1 = .ok () ↔ ∀ b ∈ l.targets, (lookup b).isSome := by
  obtain ⟨inclusions, heq⟩ := flatten_eq lookup l
  rw [heq, mergeEach_eq_ok_iff, targets, Table.keys, List.forall_mem_map]

/-- A list that finds all that it includes takes over what it asks for. -/
theorem flatten_ok_of_found (hfound : ∀ b ∈ l.targets, ∃ included, lookup b = some included) :
    (l.flatten lookup).1 = .ok () :=
  flatten_eq_ok_iff.2 fun b hb => Option.isSome_iff_exists.2 (hfound b hb)

/-- A list that settles took over what its inclusions ask for and selected domain rules. -/
theorem settle_eq_ok_iff {m : DomainList} :
    l.settle lookup = (.ok (), m) ↔
      (l.flatten lookup).1 = .ok () ∧ (l.flatten lookup).2.dedupDomains = (.ok (), m) := by
  rw [settle]
  rcases l.flatten lookup with ⟨_ | _, l'⟩
  · simp
  · simp

/-- Settling keeps what operations keep. -/
theorem Kept.settle {Q : DomainList → Prop} (hQ : Kept Q)
    (hlookup : ∀ a included, lookup a = some included → Q included) (h : Q l) :
    Q (l.settle lookup).2 := by
  have hflat := hQ.flatten hlookup h
  rw [DomainList.settle]
  split
  next heq =>
    rw [heq] at hflat
    exact hflat
  next heq =>
    rw [heq] at hflat
    exact hQ.dedupDomains hflat

/-- What does not concern rules stays as it is when the rules of included lists are added. -/
theorem pick_mergeEach {α : Type} (pick : DomainList → α)
    (hall : ∀ l included, pick (mergeAll l included) = pick l)
    (hsome : ∀ l included wanted, pick (mergeAttributes l included wanted) = pick l)
    (es : List (String × List Filter)) (l : DomainList) :
    pick (mergeEach lookup es l).2 = pick l := by
  induction es generalizing l with
  | nil => rfl
  | cons e es ih =>
    rw [mergeEach]
    split
    · rfl
    · rw [ih, merge]
      split
      · exact hall _ _
      · exact hsome _ _ _

/-- Taking over what inclusions ask for keeps the name. -/
theorem name_flatten (l : DomainList) : (l.flatten lookup).2.name = l.name := by
  obtain ⟨inclusions, heq⟩ := flatten_eq lookup l
  rw [heq]
  exact pick_mergeEach (·.name) (fun _ _ => rfl) (fun _ _ _ => rfl) _ _

/-- Settling keeps the name. -/
theorem name_settle (l : DomainList) : (l.settle lookup).2.name = l.name := by
  have hflat := @name_flatten lookup l
  rw [settle]
  split
  next heq => rw [heq] at hflat; exact hflat
  next heq =>
    rw [heq] at hflat
    rw [← hflat, dedupDomains]
    split
    · rfl
    · rfl

end DomainList

namespace Registry

variable {r R R' : Registry} {done names : List String} {a b : String} {l : DomainList}

/-! ### One list -/

/-- Resolving a list puts what it settles to in its place. -/
theorem resolveList_eq (hl : R.get? a = some l) :
    R.resolveList a =
      ((l.settle (R.erase a).get?).1, R.insert a (l.settle (R.erase a).get?).2) := by
  rw [resolveList, hl, ← Table.insert_erase, DomainList.settle]
  dsimp only
  rcases l.flatten (R.erase a).get? with ⟨_ | _, l'⟩
  · rfl
  · rfl

/-- What holds of every list and is kept by settling is kept by resolving a list. -/
theorem forall_resolveList {P : String → DomainList → Prop}
    (hP : ∀ {lookup a l}, (∀ b m, lookup b = some m → P b m) → P a l → P a (l.settle lookup).2)
    (hR : ∀ b m, R.get? b = some m → P b m) (a : String) :
    ∀ b m, (R.resolveList a).2.get? b = some m → P b m := by
  intro b m hm
  cases hl : R.get? a with
  | none =>
    rw [resolveList, hl] at hm
    exact hR b m hm
  | some l =>
    have hothers : ∀ b m, (R.erase a).get? b = some m → P b m := by
      intro b m hm
      rw [Table.get?_erase] at hm
      split at hm
      · cases hm
      · exact hR b m hm
    rw [resolveList_eq hl, Table.get?_insert] at hm
    split at hm
    next h =>
      cases hm
      rw [h]
      exact hP hothers (hR a l hl)
    next => exact hR b m hm

/-- What holds of every list and is kept by settling is kept by resolution. -/
theorem forall_resolve {P : String → DomainList → Prop}
    (hP : ∀ {lookup a l}, (∀ b m, lookup b = some m → P b m) → P a l → P a (l.settle lookup).2)
    (hr : ∀ b m, r.get? b = some m → P b m) :
    ∀ b m, r.resolve.2.get? b = some m → P b m := by
  have heach : ∀ (names : List String) (R : Registry), (∀ b m, R.get? b = some m → P b m) →
      ∀ b m, (resolveEach names R).2.get? b = some m → P b m := by
    intro names
    induction names with
    | nil => exact fun R hR => hR
    | cons a names ih =>
      intro R hR
      have hstep := forall_resolveList hP hR a
      rw [resolveEach]
      split
      next heq =>
        rw [heq] at hstep
        exact hstep
      next heq =>
        rw [heq] at hstep
        exact ih _ hstep
  rw [resolve]
  split
  · exact hr
  · exact heach _ r hr

/-- Resolution leaves every list under its own name. -/
theorem Keyed.resolve (hr : r.Keyed) : r.resolve.2.Keyed :=
  forall_resolve (P := fun a l => l.name = a) (fun _ hl => (DomainList.name_settle _).trans hl) hr

/-- Resolution keeps what operations on lists keep. -/
theorem forall_resolve_of_kept {Q : DomainList → Prop} (hQ : DomainList.Kept Q)
    (hr : ∀ a l, r.get? a = some l → Q l) : ∀ a l, r.resolve.2.get? a = some l → Q l :=
  forall_resolve (P := fun _ l => Q l) (fun hlookup hl => hQ.settle hlookup hl) hr

/-! ### Orders -/

/-- Each list is new when its turn comes and all that it includes is done. -/
def InOrder (r : Registry) : List String → List String → Prop
  | _, [] => True
  | done, a :: rest =>
    a ∈ r.keys ∧ a ∉ done ∧ (∀ b, r.Includes a b → b ∈ done) ∧ r.InOrder (done ++ [a]) rest

/-- An order may go on where another one ends. -/
theorem InOrder.append {more : List String} (h : r.InOrder done names)
    (hmore : r.InOrder (done ++ names) more) : r.InOrder done (names ++ more) := by
  induction names generalizing done with
  | nil => simpa using hmore
  | cons a names ih =>
    obtain ⟨hkey, hnew, hready, hrest⟩ := h
    exact ⟨hkey, hnew, hready, ih hrest (by simpa using hmore)⟩

/-- Lists that are ready at once may be taken in any order. -/
theorem inOrder_of_ready (hnodup : names.Nodup)
    (h : ∀ a ∈ names, a ∈ r.keys ∧ a ∉ done ∧ ∀ b, r.Includes a b → b ∈ done) :
    r.InOrder done names := by
  induction names generalizing done with
  | nil => trivial
  | cons a names ih =>
    obtain ⟨hkey, hnew, hready⟩ := h a List.mem_cons_self
    rw [List.nodup_cons] at hnodup
    refine ⟨hkey, hnew, hready, ih hnodup.2 fun b hb => ?_⟩
    obtain ⟨hbkey, hbnew, hbready⟩ := h b (List.mem_cons_of_mem a hb)
    refine ⟨hbkey, ?_, fun c hc => List.mem_append_left _ (hbready c hc)⟩
    rw [List.mem_append, List.mem_singleton, not_or]
    exact ⟨hbnew, by rintro rfl; exact hnodup.1 hb⟩

/-- Levels put each list after all that it includes. -/
theorem inOrder_place (hr : r.Keyed) (ps : List Pending) :
    ∀ {placed}, ps = r.pendingAfter placed → r.InOrder placed (place ps).1.flatten := by
  induction ps using place.induct with
  | case1 ps hready =>
    rintro placed rfl
    rw [place, dif_pos hready]
    trivial
  | case2 ps hready ih =>
    rintro placed rfl
    rw [place, dif_neg hready]
    refine InOrder.append ?_ (ih (waiting_pendingAfter hr placed))
    refine inOrder_of_ready ((ready_pendingAfter_ascending hr placed).imp ne_of_lt) fun a ha => ?_
    exact (mem_ready_pendingAfter_iff hr).1 ha

/-! ### The run -/

/-- The list named `a` is in `R` what its settling against `R` gives. -/
def SettledAt (r R : Registry) (a : String) : Prop :=
  ∃ l m, r.get? a = some l ∧ R.get? a = some m ∧ l.settle R.get? = (.ok (), m)

/-- A settled list stays settled while it and the lists that it includes stay as they are. -/
theorem SettledAt.congr (h : r.SettledAt R a) (hself : R'.get? a = R.get? a)
    (hincluded : ∀ b, r.Includes a b → R'.get? b = R.get? b) : r.SettledAt R' a := by
  obtain ⟨l, m, hl, hm, hsettle⟩ := h
  refine ⟨l, m, hl, hself.trans hm, ?_⟩
  rw [← hsettle]
  exact DomainList.settle_congr fun b hb => hincluded b ((includes_iff_mem_targets hl).2 hb)

/-- The registry `R` in the middle of resolving `r`, when some lists are done. -/
structure Progress (r R : Registry) (done : List String) : Prop where
  /-- What a done list includes is done. -/
  closed : ∀ a ∈ done, ∀ b, r.Includes a b → b ∈ done
  /-- The done lists are settled. -/
  settled : ∀ a ∈ done, r.SettledAt R a
  /-- The other lists are as they were. -/
  untouched : ∀ a, a ∉ done → R.get? a = r.get? a

/-- Before the run nothing is done. -/
theorem progress_nil (r : Registry) : r.Progress r [] where
  closed := fun _ ha => absurd ha List.not_mem_nil
  settled := fun _ ha => absurd ha List.not_mem_nil
  untouched := fun _ _ => rfl

/-- Resolving a list whose turn it is. -/
theorem Progress.step (h : r.Progress R done) (hkey : a ∈ r.keys) (hnew : a ∉ done)
    (hready : ∀ b, r.Includes a b → b ∈ done) (hok : (R.resolveList a).1 = .ok ()) :
    r.Progress (R.resolveList a).2 (done ++ [a]) := by
  obtain ⟨l, hl⟩ := Table.mem_keys_iff.1 hkey
  have hRl : R.get? a = some l := (h.untouched a hnew).trans hl
  rw [resolveList_eq hRl] at hok ⊢
  generalize hm : l.settle (R.erase a).get? = outcome at hok ⊢
  have hself : (R.insert a outcome.2).get? a = some outcome.2 := Table.get?_insert_self _ _ _
  have hothers : ∀ b, b ≠ a → (R.insert a outcome.2).get? b = R.get? b :=
    fun b hb => Table.get?_insert_of_ne _ _ hb
  have hdone : ∀ b ∈ done, (R.insert a outcome.2).get? b = R.get? b :=
    fun b hb => hothers b (by rintro rfl; exact hnew hb)
  refine ⟨fun b hb c hbc => ?_, fun b hb => ?_, fun b hb => ?_⟩
  · rcases List.mem_append.1 hb with hb | hb
    · exact List.mem_append_left _ (h.closed b hb c hbc)
    · rw [List.mem_singleton.1 hb] at hbc
      exact List.mem_append_left _ (hready c hbc)
  · rcases List.mem_append.1 hb with hb | hb
    · exact (h.settled b hb).congr (hdone b hb) fun c hc => hdone c (h.closed b hb c hc)
    · rw [List.mem_singleton.1 hb]
      refine ⟨l, outcome.2, hl, hself, ?_⟩
      -- the lists that are included are done, so none of them is the list itself
      have hlookup : ∀ c ∈ l.targets, (R.insert a outcome.2).get? c = (R.erase a).get? c := by
        intro c hc
        have hcdone := hready c ((includes_iff_mem_targets hl).2 hc)
        rw [hdone c hcdone, Table.get?_erase, if_neg (by rintro rfl; exact hnew hcdone)]
      rw [DomainList.settle_congr hlookup, hm, ← hok]
  · rw [List.mem_append, List.mem_singleton, not_or] at hb
    rw [hothers b hb.2, h.untouched b hb.1]

/-- Resolving lists in order. -/
theorem Progress.run (h : r.Progress R done) (hnames : r.InOrder done names)
    (hok : (resolveEach names R).1 = .ok ()) :
    r.Progress (resolveEach names R).2 (done ++ names) := by
  induction names generalizing R done with
  | nil => simpa [resolveEach] using h
  | cons a names ih =>
    obtain ⟨hkey, hnew, hready, hrest⟩ := hnames
    rw [resolveEach] at hok ⊢
    split at hok
    next => cases hok
    next R' heq =>
      have hstep := h.step hkey hnew hready (by rw [heq])
      rw [heq] at hstep
      have hrun := ih hstep hrest hok
      rwa [List.append_assoc] at hrun

/-- When resolution succeeds, every list is what its settling against the resolved registry gives,
and there are no other lists. -/
theorem resolve_ok (hr : r.Keyed) (hok : r.resolve.1 = .ok ()) :
    r.Complete ∧ r.Acyclic ∧ (∀ a ∈ r.keys, r.SettledAt r.resolve.2 a) ∧
      ∀ a, a ∉ r.keys → r.resolve.2.get? a = none := by
  rw [resolve] at hok ⊢
  cases hls : r.levels with
  | error e =>
    rw [hls] at hok
    cases hok
  | ok ls =>
    rw [hls] at hok
    obtain ⟨hc, ha, rfl⟩ := (levels_eq_ok_iff hr).1 hls
    have hplaced := placement_all hr hc
    have hall := (hplaced.stuck_eq_nil_iff hr).1 ((hplaced.stuck_eq_nil_iff_acyclic hr hc).2 ha)
    have hend := (progress_nil r).run (inOrder_place hr _ rfl) hok
    refine ⟨hc, ha, fun a hkey => hend.settled a (hall a hkey), fun a hkey => ?_⟩
    have hnot : a ∉ [] ++ (place (r.pendingAfter [])).1.flatten :=
      fun h => hkey ((hplaced.placedBelow a).1 h).1
    exact (hend.untouched a hnot).trans (Table.get?_eq_none_iff.2 hkey)

end Registry

end RoutingData
