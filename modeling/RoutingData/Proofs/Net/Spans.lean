import Mathlib.Data.List.Pairwise
import Mathlib.Data.List.Sort
import RoutingData.Proofs.Net.Aligned

/-!
# Joining spans

Joining spans does not change which addresses they reach, and leaves gaps between the spans
(`joined_joinAll`). Spans with gaps between them are the maximal runs of the addresses that they
reach, so the addresses determine the spans (`Separated.eq_of_reaches_iff`).
-/

namespace RoutingData.Net.Span

variable {f : Family} {s t : Span f} {spans joined rest : List (Span f)} {x : ℕ}

/-! ### One span -/

/-- The address is one of the span. -/
def Reaches (s : Span f) (x : ℕ) : Prop := s.start ≤ x ∧ x < s.stop

/-- A span reaches its start. -/
theorem reaches_start (s : Span f) : s.Reaches s.start := ⟨Nat.le_refl _, s.start_lt_stop⟩

/-- Spans that overlap or touch reach the same addresses when they are joined. -/
theorem reaches_join_iff (hle : s.start ≤ t.start) (htouch : t.start ≤ s.stop) :
    (s.join t).Reaches x ↔ s.Reaches x ∨ t.Reaches x := by
  have hs := s.start_lt_stop
  have ht := t.start_lt_stop
  simp only [Reaches, join]
  omega

/-! ### Spans with gaps between them -/

/-- The spans ascend and there is a gap after each. -/
def Separated (spans : List (Span f)) : Prop := spans.Pairwise fun s t => s.stop < t.start

/-- What separated spans reach is not before the start of the first. -/
theorem Separated.start_le (h : Separated (s :: rest)) (hx : ∃ t ∈ s :: rest, t.Reaches x) :
    s.start ≤ x := by
  obtain ⟨t, ht, hx⟩ := hx
  have hs := s.start_lt_stop
  rcases List.mem_cons.1 ht with rfl | ht
  · exact hx.1
  · have hgap := List.rel_of_pairwise_cons h ht
    have hstart := hx.1
    omega

/-- What separated spans reach after the end of the first is what the others reach. -/
theorem Separated.reaches_tail_iff (h : Separated (s :: rest)) :
    (∃ t ∈ rest, t.Reaches x) ↔ (∃ t ∈ s :: rest, t.Reaches x) ∧ s.stop ≤ x := by
  constructor
  · rintro ⟨t, ht, hx⟩
    refine ⟨⟨t, List.mem_cons_of_mem s ht, hx⟩, ?_⟩
    exact Nat.le_of_lt (Nat.lt_of_lt_of_le (List.rel_of_pairwise_cons h ht) hx.1)
  · rintro ⟨⟨t, ht, hx⟩, hle⟩
    rcases List.mem_cons.1 ht with rfl | ht
    · exact absurd hx.2 (Nat.not_lt_of_le hle)
    · exact ⟨t, ht, hx⟩

/-- Of separated spans that start alike, the first one goes as far as what they reach. -/
theorem Separated.stop_le (h : Separated (s :: rest)) (hstart : t.start = s.start)
    (hreach : ∀ x, t.Reaches x → ∃ u ∈ s :: rest, u.Reaches x) : t.stop ≤ s.stop := by
  by_contra hlt
  -- the other span reaches the address at the stop of the first one, where there is a gap
  have hstop : t.Reaches s.stop :=
    ⟨hstart ▸ Nat.le_of_lt s.start_lt_stop, Nat.lt_of_not_le hlt⟩
  obtain ⟨u, hu, hx⟩ := h.reaches_tail_iff.2 ⟨hreach _ hstop, Nat.le_refl _⟩
  exact Nat.not_lt_of_le hx.1 (List.rel_of_pairwise_cons h hu)

/-- There is a gap between any two separated spans. -/
theorem Separated.gap_of_ne (h : Separated spans) (hs : s ∈ spans) (ht : t ∈ spans)
    (hne : s ≠ t) : s.stop < t.start ∨ t.stop < s.start := by
  have hsym : Std.Symm fun s t : Span f => s.stop < t.start ∨ t.stop < s.start :=
    ⟨fun _ _ => Or.symm⟩
  have hgaps := h.imp fun {s t} h => (.inl h : s.stop < t.start ∨ t.stop < s.start)
  exact hgaps.forall hs ht hne

/-- Separated spans are determined by the addresses that they reach. -/
theorem Separated.eq_of_reaches_iff (hs : Separated spans) (hj : Separated joined)
    (h : ∀ x, (∃ s ∈ spans, s.Reaches x) ↔ ∃ s ∈ joined, s.Reaches x) : spans = joined := by
  induction spans generalizing joined with
  | nil =>
    cases joined with
    | nil => rfl
    | cons t joined =>
      obtain ⟨u, hu, -⟩ := (h t.start).2 ⟨t, List.mem_cons_self, t.reaches_start⟩
      cases hu
  | cons s spans ih =>
    have hsreach : ∀ x, s.Reaches x → ∃ u ∈ joined, u.Reaches x :=
      fun x hx => (h x).1 ⟨s, List.mem_cons_self, hx⟩
    cases joined with
    | nil =>
      obtain ⟨u, hu, -⟩ := hsreach _ s.reaches_start
      cases hu
    | cons t joined =>
      have htreach : ∀ x, t.Reaches x → ∃ u ∈ s :: spans, u.Reaches x :=
        fun x hx => (h x).2 ⟨t, List.mem_cons_self, hx⟩
      have hstart : s.start = t.start :=
        Nat.le_antisymm (hs.start_le (htreach _ t.reaches_start))
          (hj.start_le (hsreach _ s.reaches_start))
      have hstop : s.stop = t.stop :=
        Nat.le_antisymm (hj.stop_le hstart hsreach) (hs.stop_le hstart.symm htreach)
      have hrest : spans = joined := by
        apply ih hs.of_cons hj.of_cons
        intro x
        rw [hs.reaches_tail_iff, hj.reaches_tail_iff, h x, hstop]
      rw [Span.ext hstart hstop, hrest]

/-! ### Joining -/

/-- The spans are joined: there are gaps between the results, which reach the same addresses. -/
structure Joined (spans joined : List (Span f)) : Prop where
  /-- There are gaps between the results. -/
  separated : Separated joined
  /-- The results reach what the spans reach. -/
  reaches_iff : ∀ x, (∃ s ∈ joined, s.Reaches x) ↔ ∃ s ∈ spans, s.Reaches x

/-- A span that starts first is joined to separated spans. -/
theorem joined_putBefore (hspans : Separated spans) (hle : ∀ t ∈ spans, s.start ≤ t.start) :
    Joined (s :: spans) (s.putBefore spans) := by
  induction spans generalizing s with
  | nil => exact ⟨List.pairwise_singleton _ _, fun x => Iff.rfl⟩
  | cons t rest ih =>
    obtain ⟨hst, hrest⟩ := List.forall_mem_cons.1 hle
    rw [putBefore]
    split
    next htouch =>
      obtain ⟨hsep, hiff⟩ := ih (s := s.join t) hspans.of_cons hrest
      refine ⟨hsep, fun x => ?_⟩
      simp only [hiff, List.mem_cons, exists_eq_or_imp, reaches_join_iff hst htouch, or_assoc]
    next hgap =>
      refine ⟨List.Pairwise.cons (fun u hu => ?_) hspans, fun x => Iff.rfl⟩
      -- the later spans start further on than the first of them
      have htu : t.start ≤ u.start := hspans.start_le ⟨u, hu, u.reaches_start⟩
      omega

/-- Spans in the order of their starts are joined from the last one on. -/
theorem joined_foldr_putBefore (hsorted : spans.Pairwise fun s t => s.start ≤ t.start) :
    Joined spans (spans.foldr putBefore []) := by
  induction spans with
  | nil => exact ⟨.nil, fun x => Iff.rfl⟩
  | cons s rest ih =>
    obtain ⟨hfirst, hsorted⟩ := List.pairwise_cons.1 hsorted
    obtain ⟨hsep, hiff⟩ := ih hsorted
    have hle : ∀ t ∈ rest.foldr putBefore [], s.start ≤ t.start := by
      intro t ht
      obtain ⟨u, hu, hx⟩ := (hiff t.start).1 ⟨t, ht, t.reaches_start⟩
      exact Nat.le_trans (hfirst u hu) hx.1
    obtain ⟨hjoined, hreach⟩ := joined_putBefore hsep hle
    refine ⟨hjoined, fun x => (hreach x).trans ?_⟩
    simp only [List.mem_cons, exists_eq_or_imp, hiff]

/-- Spans in any order are joined. -/
theorem joined_joinAll (spans : List (Span f)) : Joined spans (joinAll spans) := by
  have hsorted := @List.pairwise_mergeSort (Span f) (fun s t => decide (s.start ≤ t.start))
    (fun s t u hst htu => by
      simp only [decide_eq_true_eq] at hst htu ⊢
      exact Nat.le_trans hst htu)
    (fun s t => by
      simp only [Bool.or_eq_true, decide_eq_true_eq]
      exact Nat.le_total _ _)
    spans
  obtain ⟨hsep, hiff⟩ := joined_foldr_putBefore (hsorted.imp of_decide_eq_true)
  refine ⟨hsep, fun x => (hiff x).trans ?_⟩
  simp only [List.mem_mergeSort]

end RoutingData.Net.Span
