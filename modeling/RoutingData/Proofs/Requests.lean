import RoutingData.Proofs.History
import RoutingData.Proofs.Inclusion.Resolution

/-!
# Requests for inclusion

A list is asked to include others, and holds for each the filters of all requests for it, each
once and in the order of their first appearance (`Holds`). Of the operations on lists only two
concern this: a request adds its filters, and a flatten that does not find a list loses every
request, since it puts the inclusions back only at its end. So a list holds the requests that were
made since the last flatten that failed (`standing`); one step keeps this (`Holds.perform`) and so
does a whole history (`Holds.performAll`). The mark that the list has inclusions is never taken
away, not even by a flatten that loses them.
-/

namespace RoutingData.DomainList

/-- A request to include a list: its name and the filters for its rules. -/
abbrev Request := String × List Filter

/-- The filters that requests ask for of one list, each once, in the order of their first
appearance; nothing when no request is for the list. -/
def requested (requests : List Request) (a : String) : Option (List Filter) :=
  match requests.filter fun q => Text.upper q.1 == a with
  | [] => none
  | q :: more => some ((q :: more).flatMap (·.2)).eraseDups

/-- The inclusions of a list are what the requests ask for. -/
def Holds (l : DomainList) (requests : List Request) : Prop :=
  ∀ a, l.inclusions.get? a = requested requests a

variable {l : DomainList} {requests : List Request} {a : String} {f : Filter}
  {lookup : String → Option DomainList} {op : Operation} {ops : List Operation}

/-! ### Filters of one list -/

/-- Filters are added to those that are there already as if all of them came one after the other. -/
theorem addFilters_eraseDups (old new : List Filter) :
    addFilters old.eraseDups new = (old ++ new).eraseDups := by
  induction new generalizing old with
  | nil => simp [addFilters]
  | cons f new ih =>
    -- one filter at a time: it is put last unless it is there
    have hstep : (if old.eraseDups.contains f then old.eraseDups else old.eraseDups ++ [f]) =
        (old ++ [f]).eraseDups := by
      rw [List.eraseDups_append]
      by_cases hf : f ∈ old
      · simp [List.removeAll, hf]
      · simp [List.removeAll, hf, List.eraseDups_cons]
    have hrest := ih (old ++ [f])
    rw [List.append_assoc, List.singleton_append] at hrest
    rw [← hrest, ← hstep]
    rfl

/-- No request asks for nothing. -/
theorem requested_nil (a : String) : requested [] a = none := rfl

/-- What one more request asks for comes to the filters for its list. -/
theorem requested_concat (requests : List Request) (q : Request) (a : String) :
    requested (requests ++ [q]) a =
      if a = Text.upper q.1 then some (addFilters ((requested requests a).getD []) q.2)
      else requested requests a := by
  unfold requested
  rw [List.filter_append]
  by_cases ha : a = Text.upper q.1
  · rw [if_pos ha, List.filter_cons_of_pos (by simp [ha])]
    cases requests.filter fun q => Text.upper q.1 == a with
    | nil => simpa using (addFilters_eraseDups [] q.2).symm
    | cons p more => simp [addFilters_eraseDups]
  · rw [if_neg ha, List.filter_cons_of_neg (by simpa using Ne.symm ha), List.filter_nil,
      List.append_nil]

/-- There is something for a list when a request is for it. -/
theorem isSome_requested_iff :
    (requested requests a).isSome ↔ ∃ q ∈ requests, Text.upper q.1 = a := by
  unfold requested
  cases hfilter : requests.filter fun q => Text.upper q.1 == a with
  | nil => simpa [List.filter_eq_nil_iff] using hfilter
  | cons q more =>
    have hq : q ∈ requests.filter fun q => Text.upper q.1 == a := by simp [hfilter]
    obtain ⟨hmem, ha⟩ := List.mem_filter.1 hq
    simp only [Option.isSome_some, true_iff]
    exact ⟨q, hmem, by simpa using ha⟩

/-- A filter is asked for when a request for the list has it. -/
theorem mem_requested_iff :
    (∃ fs, requested requests a = some fs ∧ f ∈ fs) ↔
      ∃ q ∈ requests, Text.upper q.1 = a ∧ f ∈ q.2 := by
  have hmem : ∀ q, q ∈ requests.filter (fun q => Text.upper q.1 == a) ↔
      q ∈ requests ∧ Text.upper q.1 = a := fun q => by simp [List.mem_filter]
  unfold requested
  cases hfilter : requests.filter fun q => Text.upper q.1 == a with
  | nil =>
    simp only [hfilter, List.not_mem_nil, false_iff] at hmem
    simp only [reduceCtorEq, false_and, exists_false, false_iff]
    rintro ⟨q, hq, ha, -⟩
    exact hmem q ⟨hq, ha⟩
  | cons p more =>
    rw [hfilter] at hmem
    simp only [Option.some.injEq, exists_eq_left', List.mem_eraseDups, List.mem_flatMap, hmem,
      and_assoc]

/-! ### Steps -/

/-- A new list holds no requests. -/
theorem holds_named (name : String) : (named name).Holds [] := fun _ => rfl

/-- A list has inclusions of the lists that requests name. -/
theorem Holds.mem_targets_iff (h : l.Holds requests) :
    a ∈ l.targets ↔ ∃ q ∈ requests, Text.upper q.1 = a := by
  rw [← isSome_requested_iff, ← h a, Option.isSome_iff_exists]
  exact Table.mem_keys_iff

/-- An inclusion that is recorded is one more request. -/
theorem Holds.addInclusion (h : l.Holds requests) (target : String) (filters : List Filter) :
    (l.addInclusion target filters).Holds (requests ++ [(target, filters)]) := by
  intro a
  rw [requested_concat, ← h a]
  by_cases ha : a = Text.upper target
  · subst ha
    simp [DomainList.addInclusion]
  · rw [if_neg ha]
    exact Table.get?_upsert_of_ne _ _ ha

/-- A flatten that succeeds keeps the inclusions, and one that fails drops them. -/
theorem inclusions_flatten (lookup : String → Option DomainList) (l : DomainList) :
    (l.flatten lookup).2.inclusions =
      if (l.flatten lookup).1 = .ok () then l.inclusions else ∅ := by
  have hmerged : (mergeEach lookup l.inclusions.entries { l with inclusions := ∅ }).2.inclusions =
      ∅ :=
    pick_mergeEach (·.inclusions) (fun _ _ => rfl) (fun _ _ _ => rfl) _ _
  rw [flatten]
  split
  next => rfl
  next heq =>
    rw [heq] at hmerged
    simpa using hmerged

/-- Neither takes the mark away. -/
theorem hasInclusion_flatten (lookup : String → Option DomainList) (l : DomainList) :
    (l.flatten lookup).2.hasInclusion = l.hasInclusion := by
  obtain ⟨inclusions, heq⟩ := flatten_eq lookup l
  rw [heq]
  exact pick_mergeEach (·.hasInclusion) (fun _ _ => rfl) (fun _ _ _ => rfl) _ _

/-- Without inclusions a flatten does nothing. -/
theorem flatten_of_inclusions_eq_empty (h : l.inclusions = ∅)
    (lookup : String → Option DomainList) : l.flatten lookup = (.ok (), l) := by
  have hsame : ({ l with inclusions := ∅ } : DomainList) = l := by rw [← h]
  rw [flatten, hsame, h]
  show (Except.ok (), { l with inclusions := ∅ }) = _
  rw [hsame]

/-- The choice of domain rules does not concern inclusions. -/
theorem inclusions_dedupDomains (l : DomainList) :
    l.dedupDomains.2.inclusions = l.inclusions ∧
      l.dedupDomains.2.hasInclusion = l.hasInclusion := by
  rw [dedupDomains]
  split
  · exact ⟨rfl, rfl⟩
  · exact ⟨rfl, rfl⟩

/-! ### Histories -/

/-- The requests that stand after an operation. A flatten that does not find one of the lists
drops all of them. -/
def requestsAfter (requests : List Request) : Operation → List Request
  | .addInclusion target filters => requests ++ [(target, filters)]
  | .flatten lookup =>
    if requests.all fun q => (lookup (Text.upper q.1)).isSome then requests else []
  | .addRule _ => requests
  | .dedupDomains => requests

/-- The requests that stand after operations: those made since the last flatten that failed. -/
def standing (ops : List Operation) : List Request := ops.foldl requestsAfter []

/-- All requests that operations made. -/
def requestsOf (ops : List Operation) : List Request :=
  ops.filterMap fun
    | .addInclusion target filters => some (target, filters)
    | _ => none

/-- When a list holds requests, a flatten succeeds exactly when each list that they name is
found. -/
theorem Holds.flatten_eq_ok_iff (h : l.Holds requests) :
    (l.flatten lookup).1 = .ok () ↔ ∀ q ∈ requests, (lookup (Text.upper q.1)).isSome := by
  rw [DomainList.flatten_eq_ok_iff]
  constructor
  · exact fun hfound q hq => hfound _ (h.mem_targets_iff.2 ⟨q, hq, rfl⟩)
  · intro hfound b hb
    obtain ⟨q, hq, rfl⟩ := h.mem_targets_iff.1 hb
    exact hfound q hq

/-- After an operation a list holds the requests that stand after it. -/
theorem Holds.perform (h : l.Holds requests) (op : Operation) :
    (l.perform op).2.Holds (requestsAfter requests op) := by
  cases op with
  | addRule x =>
    intro a
    show (l.addRule x).inclusions.get? a = _
    rw [(l.addRule_frame x).2.2.1]
    exact h a
  | addInclusion target filters => exact h.addInclusion target filters
  | dedupDomains =>
    intro a
    show l.dedupDomains.2.inclusions.get? a = _
    rw [(inclusions_dedupDomains l).1]
    exact h a
  | flatten lookup =>
    -- the inclusions are put back exactly when every request finds its list
    have hok : (l.flatten lookup).1 = .ok () ↔ _ := h.flatten_eq_ok_iff
    rw [← List.all_eq_true] at hok
    intro a
    show (l.flatten lookup).2.inclusions.get? a = _
    rw [inclusions_flatten, requestsAfter]
    simp only [hok]
    split
    · exact h a
    · exact (requested_nil a).symm

/-- After operations a list holds the requests that stand after them. -/
theorem Holds.performAll (h : l.Holds requests) (ops : List Operation) :
    (l.performAll ops).Holds (ops.foldl requestsAfter requests) := by
  induction ops generalizing l requests with
  | nil => exact h
  | cons op ops ih => exact ih (h.perform op)

/-- A new list holds after operations what stands after them. -/
theorem holds_performAll (name : String) (ops : List Operation) :
    ((named name).performAll ops).Holds (standing ops) :=
  (holds_named name).performAll ops

/-- What stands was asked for. -/
theorem mem_requestsOf_of_mem_standing {q : Request} (h : q ∈ standing ops) :
    q ∈ requestsOf ops := by
  -- by induction from the end, where an operation adds its request or takes others away
  induction ops using List.reverseRecOn with
  | nil => exact h
  | append_singleton ops op ih =>
    unfold standing at h
    rw [List.foldl_concat] at h
    change q ∈ requestsAfter (standing ops) op at h
    rw [requestsOf, List.filterMap_append, List.mem_append]
    cases op with
    | addRule x => exact .inl (ih h)
    | dedupDomains => exact .inl (ih h)
    | addInclusion target filters => exact (List.mem_append.1 h).imp_left ih
    | flatten lookup =>
      rw [requestsAfter] at h
      split at h
      · exact .inl (ih h)
      · cases h

/-- A list has no inclusions when no request stands. -/
theorem Holds.inclusions_eq_empty_iff (h : l.Holds requests) :
    l.inclusions = ∅ ↔ requests = [] := by
  constructor
  · intro hempty
    rw [List.eq_nil_iff_forall_not_mem]
    intro q hq
    have hsome : (requested requests (Text.upper q.1)).isSome :=
      isSome_requested_iff.2 ⟨q, hq, rfl⟩
    rw [← h, hempty] at hsome
    cases hsome
  · rintro rfl
    exact Table.ext_get? h

/-- A list is marked by the first request, for good. -/
theorem hasInclusion_performAll (l : DomainList) (ops : List Operation) :
    (l.performAll ops).hasInclusion = true ↔ l.hasInclusion = true ∨ requestsOf ops ≠ [] := by
  induction ops generalizing l with
  | nil => simp [performAll, requestsOf]
  | cons op ops ih =>
    have hrest := ih (l.perform op).2
    cases op with
    | addRule x =>
      have hsame : (l.perform (.addRule x)).2.hasInclusion = l.hasInclusion :=
        (l.addRule_frame x).2.1
      rw [hsame] at hrest
      exact hrest
    | addInclusion target filters =>
      refine hrest.trans (iff_of_true (.inl rfl) (.inr ?_))
      simp [requestsOf]
    | dedupDomains =>
      have hsame : (l.perform .dedupDomains).2.hasInclusion = l.hasInclusion :=
        (inclusions_dedupDomains l).2
      rw [hsame] at hrest
      exact hrest
    | flatten lookup =>
      have hsame : (l.perform (.flatten lookup)).2.hasInclusion = l.hasInclusion :=
        hasInclusion_flatten lookup l
      rw [hsame] at hrest
      exact hrest

/-- While no flatten fails, every request stands. -/
theorem standing_eq_requestsOf {name : String}
    (h : ∀ before lookup after, ops = before ++ .flatten lookup :: after →
      (((named name).performAll before).flatten lookup).1 = .ok ()) :
    standing ops = requestsOf ops := by
  -- by induction from the end, since what a flatten does depends on the operations before it
  induction ops using List.reverseRecOn with
  | nil => rfl
  | append_singleton ops op ih =>
    have hfront : standing ops = requestsOf ops := by
      refine ih fun before lookup after hsplit => h before lookup (after ++ [op]) ?_
      rw [hsplit, List.append_assoc, List.cons_append]
    have hlast : standing (ops ++ [op]) = requestsAfter (requestsOf ops) op := by
      rw [← hfront]
      exact List.foldl_concat ..
    rw [hlast]
    cases op with
    | addRule x => simp [requestsAfter, requestsOf]
    | addInclusion target filters => simp [requestsAfter, requestsOf]
    | dedupDomains => simp [requestsAfter, requestsOf]
    | flatten lookup =>
      have hok := h ops lookup [] rfl
      rw [(holds_performAll name ops).flatten_eq_ok_iff, hfront] at hok
      rw [requestsAfter, if_pos (List.all_eq_true.2 hok)]
      simp [requestsOf]

/-- After any operations on a new list its inclusions are, for each list in upper case, the distinct
filters in the order of their first appearance of the requests made since the last flatten that
failed; it is marked when any request was made. A flatten succeeds exactly when it finds what those
requests name. One that fails leaves a list that is marked and has no inclusions, so that the next
one does nothing and succeeds. While no flatten fails, the inclusions are those of all requests, and
the list is marked exactly when it has any. -/
theorem inclusions_after_history (name : String) (ops : List Operation) :
    let l := (named name).performAll ops
    (∀ a, l.inclusions.get? a = requested (standing ops) a) ∧
    (l.hasInclusion = true ↔ requestsOf ops ≠ []) ∧
    (∀ lookup, (l.flatten lookup).1 = .ok () ↔
      ∀ q ∈ standing ops, (lookup (Text.upper q.1)).isSome) ∧
    (∀ lookup, (l.flatten lookup).1 ≠ .ok () →
      (l.flatten lookup).2.hasInclusion = true ∧ (l.flatten lookup).2.inclusions = ∅ ∧
        ∀ again, (l.flatten lookup).2.flatten again = (.ok (), (l.flatten lookup).2)) ∧
    ((∀ before lookup after, ops = before ++ .flatten lookup :: after →
        (((named name).performAll before).flatten lookup).1 = .ok ()) →
      (∀ a, l.inclusions.get? a = requested (requestsOf ops) a) ∧
        (l.hasInclusion = true ↔ l.inclusions ≠ ∅)) := by
  intro l
  have hholds : l.Holds (standing ops) := holds_performAll name ops
  have hmark : l.hasInclusion = true ↔ requestsOf ops ≠ [] := by
    refine (hasInclusion_performAll (named name) ops).trans (or_iff_right ?_)
    simp [named]
  refine ⟨hholds, hmark, fun lookup => hholds.flatten_eq_ok_iff, fun lookup hfail => ?_, fun h => ?_⟩
  · have hempty : (l.flatten lookup).2.inclusions = ∅ := by
      rw [inclusions_flatten, if_neg hfail]
    refine ⟨?_, hempty, flatten_of_inclusions_eq_empty hempty⟩
    -- without any request there is nothing that the flatten could not find
    rw [hasInclusion_flatten, hmark]
    intro hnone
    have hstanding : standing ops = [] :=
      List.eq_nil_iff_forall_not_mem.2 fun q hq =>
        List.not_mem_nil (hnone ▸ mem_requestsOf_of_mem_standing hq)
    apply hfail
    rw [hholds.flatten_eq_ok_iff, hstanding]
    simp
  · have hall := standing_eq_requestsOf h
    rw [hall] at hholds
    exact ⟨hholds, hmark.trans (not_congr hholds.inclusions_eq_empty_iff.symm)⟩

/-- A request for a list that is not found. -/
def lostRequest : List Operation :=
  [.addInclusion "b" [.attribute "cn"], .flatten fun _ => none]

/-- Not every request survives every history: a flatten that fails takes them all away, so that the
mark stays without inclusions and the same flatten succeeds when it is tried again. -/
theorem not_requests_survive :
    ¬ (∀ name ops a, ((named name).performAll ops).inclusions.get? a =
        requested (requestsOf ops) a) ∧
    ¬ (∀ name ops, ((named name).performAll ops).hasInclusion = true ↔
        ((named name).performAll ops).inclusions ≠ ∅) ∧
    ¬ (∀ name ops lookup, (((named name).performAll ops).flatten lookup).1 ≠ .ok () →
        ((((named name).performAll ops).flatten lookup).2.flatten lookup).1 ≠ .ok ()) := by
  refine ⟨fun h => ?_, fun h => ?_, fun h => ?_⟩
  · exact absurd (h "a" lostRequest "B") (by decide +kernel)
  · exact absurd (h "a" lostRequest) (by decide +kernel)
  · exact h "a" (lostRequest.take 1) (fun _ => none) (by decide +kernel) (by decide +kernel)

end RoutingData.DomainList
