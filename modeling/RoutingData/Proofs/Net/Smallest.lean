import Mathlib.Data.Finset.Card
import Mathlib.Data.List.Sort
import RoutingData.Proofs.Net.Merging

/-!
# The fewest networks

Networks that do not overlap, none of them part of a larger network of their addresses (`Largest`),
are as few as there can be: different ones need different networks in every list with the same
addresses (`Largest.length_le`). A list with the same addresses that is no longer has the same
networks, up to host bits (`Largest.exists_eq`).

Merged networks are like this (`largest_merge`). So merging is determined by what it is for, which
is to give the fewest networks with the same addresses, in order and without host bits
(`IsMerging.eq_merge`): what is proved of `merge` holds of every function that does so.
-/

namespace RoutingData.Net

variable {m n : Net} {nets ns other : List Net} {merging : List Net → List Net}

/-- Every address of the first network is one of the second. -/
def Within (m n : Net) : Prop := ∀ f x, m.contains f x → n.contains f x

/-- The networks do not overlap, and none is part of a larger network of their addresses. -/
structure Largest (ns : List Net) : Prop where
  /-- No two of them have an address in common. -/
  disjoint : ns.Pairwise fun m n => ¬ m.Overlaps n
  /-- A network of their addresses that has one in common with one of them is no larger. -/
  length_le_of_overlaps : ∀ n ∈ ns, ∀ m : Net, n.Overlaps m → addresses [m] ⊆ addresses ns →
    n.length ≤ m.length

/-! ### Comparing lists of networks -/

/-- A network has addresses in common with itself. -/
theorem overlaps_self (n : Net) : n.Overlaps n := ⟨_, _, n.contains_first, n.contains_first⟩

/-- Networks that have an address in common are the same one. -/
theorem Largest.eq_of_overlaps (h : Largest ns) (hm : m ∈ ns) (hn : n ∈ ns)
    (hoverlap : m.Overlaps n) : m = n := by
  have hsym : Std.Symm fun m n : Net => ¬ m.Overlaps n :=
    ⟨fun m n hmn => fun ⟨f, x, hn, hm⟩ => hmn ⟨f, x, hm, hn⟩⟩
  by_contra hne
  exact h.disjoint.forall hm hn hne hoverlap

/-- No network occurs twice. -/
theorem Largest.nodup (h : Largest ns) : ns.Nodup := by
  apply h.disjoint.imp
  rintro m _ hmn rfl
  exact hmn m.overlaps_self

/-- A list with the same addresses has a network of its own within each of the largest ones. -/
theorem Largest.exists_within (h : Largest ns) (hsame : addresses other = addresses ns) :
    ∃ g : Net → Net, (∀ n ∈ ns, g n ∈ other ∧ (g n).Within n) ∧ Set.InjOn g {n | n ∈ ns} := by
  -- it is the one that has the first address
  have hstart : ∀ n ∈ ns, ∃ m ∈ other, m.contains n.family n.first := fun n hn => by
    rw [← mem_addresses, hsame]
    exact ⟨n, hn, n.contains_first⟩
  choose! g hg hfirst using hstart
  have hwithin : ∀ n ∈ ns, (g n).Within n := by
    intro n hn f y hy
    have hsub : addresses [g n] ⊆ addresses ns := by
      rintro ⟨f, x⟩ ⟨k, hk, hx⟩
      rw [List.mem_singleton.1 hk] at hx
      exact hsame ▸ ⟨g n, hg n hn, hx⟩
    have hlength := h.length_le_of_overlaps n hn (g n) ⟨_, _, n.contains_first, hfirst n hn⟩ hsub
    obtain rfl : f = n.family := hy.1.symm.trans (hfirst n hn).1
    exact contains_of_length_le n.contains_first (hfirst n hn) hlength hy
  refine ⟨g, fun n hn => ⟨hg n hn, hwithin n hn⟩, fun m hm n hn heq => ?_⟩
  -- two networks with the same one within them overlap
  apply h.eq_of_overlaps hm hn
  exact ⟨_, _, hwithin m hm _ _ (g m).contains_first, hwithin n hn _ _ (heq ▸ (g m).contains_first)⟩

/-- No list with the same addresses is shorter. -/
theorem Largest.length_le (h : Largest ns) (hsame : addresses other = addresses ns) :
    ns.length ≤ other.length := by
  obtain ⟨g, hg, hinj⟩ := h.exists_within hsame
  calc ns.length
      = ns.toFinset.card := (List.toFinset_card_of_nodup h.nodup).symm
    _ ≤ other.toFinset.card := by
        apply Finset.card_le_card_of_injOn g
        · intro n hn
          rw [List.coe_toFinset] at hn ⊢
          exact (hg n hn).1
        · rwa [List.coe_toFinset]
    _ ≤ other.length := List.toFinset_card_le other

/-- A list with the same addresses that is no longer consists of networks with the addresses of the
largest ones. -/
theorem Largest.exists_eq (h : Largest ns) (hsame : addresses other = addresses ns)
    (hlength : other.length ≤ ns.length) :
    ∃ g : Net → Net, (∀ m, m ∈ other ↔ ∃ n ∈ ns, g n = m) ∧
      ∀ n ∈ ns, ∀ f x, (g n).contains f x ↔ n.contains f x := by
  obtain ⟨g, hg, hinj⟩ := h.exists_within hsame
  have hcard : other.length ≤ ns.toFinset.card := by
    rwa [List.toFinset_card_of_nodup h.nodup]
  have hmaps : Set.MapsTo g ns.toFinset other.toFinset := by
    intro n hn
    rw [List.coe_toFinset] at hn ⊢
    exact (hg n hn).1
  have hinj' : Set.InjOn g ns.toFinset := by rwa [List.coe_toFinset]
  have hsurj := Finset.surjOn_of_injOn_of_card_le g hmaps hinj'
    ((List.toFinset_card_le other).trans hcard)
  have hother : ∀ m, m ∈ other ↔ ∃ n ∈ ns, g n = m := by
    intro m
    constructor
    · intro hm
      obtain ⟨n, hn, heq⟩ := hsurj (List.mem_toFinset.2 hm)
      exact ⟨n, List.mem_toFinset.1 hn, heq⟩
    · rintro ⟨n, hn, rfl⟩
      exact (hg n hn).1
  refine ⟨g, hother, fun n hn f x => ⟨(hg n hn).2 f x, fun hx => ?_⟩⟩
  -- the address is in some network of the list, which lies within this one
  have hmem : (f, x) ∈ addresses other := hsame ▸ ⟨n, hn, hx⟩
  obtain ⟨m, hm, hmx⟩ := hmem
  obtain ⟨k, hk, rfl⟩ := (hother m).1 hm
  obtain rfl : k = n := h.eq_of_overlaps hk hn ⟨f, x, (hg k hk).2 f x hmx, hx⟩
  exact hmx

/-! ### Merged networks -/

/-- Merged networks are the largest of their addresses. -/
theorem largest_merge (nets : List Net) : Largest (merge nets) where
  disjoint := (merge_pairwise nets).imp And.right
  length_le_of_overlaps := fun _ hn _ => length_le_of_mem_merge hn

/-- What merging is for: the fewest networks that have the same addresses, those of shorter
addresses first, each family ascending, and written without host bits. -/
structure IsMerging (merging : List Net → List Net) : Prop where
  /-- No address is added or lost. -/
  addresses_eq : ∀ nets, addresses (merging nets) = addresses nets
  /-- There are no fewer networks with these addresses. -/
  length_le : ∀ nets other, addresses other = addresses nets →
    (merging nets).length ≤ other.length
  /-- They are in order. -/
  precedes : ∀ nets, (merging nets).Pairwise Precedes
  /-- They have no host bits. -/
  truncate_eq : ∀ nets, ∀ n ∈ merging nets, n.truncate = n

/-- Merging is for this. -/
theorem isMerging_merge : IsMerging merge where
  addresses_eq := addresses_merge
  length_le := fun nets _ h => (largest_merge nets).length_le (h.trans (addresses_merge nets).symm)
  precedes := fun nets => (merge_pairwise nets).imp And.left
  truncate_eq := fun _ _ hn => truncate_eq_self_iff.2 (address_eq_first_of_mem_merge hn)

/-- A network does not come before one that comes before it. -/
theorem Precedes.asymm (h : m.Precedes n) : ¬ n.Precedes m := by
  rcases h with ⟨hm, hn⟩ | ⟨hf, hlt⟩
  · simp [Precedes, hm, hn]
  · rintro (⟨hn, hm⟩ | ⟨-, hlt'⟩)
    · rw [hm, hn] at hf
      cases hf
    · exact Nat.lt_asymm hlt hlt'

/-- There is no other way to merge networks. -/
theorem IsMerging.eq_merge (h : IsMerging merging) : merging = merge := by
  funext nets
  have hsame : addresses (merging nets) = addresses (merge nets) :=
    (h.addresses_eq nets).trans (addresses_merge nets).symm
  obtain ⟨g, hg, hcontains⟩ := (largest_merge nets).exists_eq hsame
    (h.length_le nets _ (addresses_merge nets))
  -- without host bits, the networks of both lists are the same
  have hself : ∀ n ∈ merge nets, g n = n := by
    intro n hn
    apply eq_of_contains_iff _ (address_eq_first_of_mem_merge hn) (hcontains n hn)
    exact truncate_eq_self_iff.1 (h.truncate_eq nets _ ((hg _).2 ⟨n, hn, rfl⟩))
  have hmem : ∀ m, m ∈ merging nets ↔ m ∈ merge nets := by
    intro m
    rw [hg]
    constructor
    · rintro ⟨n, hn, rfl⟩
      rwa [hself n hn]
    · exact fun hm => ⟨m, hm, hself m hm⟩
  -- and there is only one order for them
  have hasymm : Std.Asymm Precedes := ⟨fun _ _ hmn => hmn.asymm⟩
  exact (h.precedes nets).eq_of_mem_iff (isMerging_merge.precedes nets) hmem

end RoutingData.Net
