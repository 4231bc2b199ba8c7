import Mathlib.Algebra.Order.Group.Nat
import Mathlib.Tactic.Common
import RoutingData.Net.Merge

/-!
# Aligned blocks

The addresses of a network agree in their leading bits, so they are the numbers with one quotient by
the size of the network (`contains_iff_div`). Of two networks that share an address, the one with
the shorter mask contains the other (`contains_of_length_le`). Without host bits, a network is
determined by its addresses (`eq_of_contains_iff`).

`blockLength` gives the largest block that starts at an address and ends before another one: the
block starts and ends there (`firstOf_blockLength`, `blockSize_blockLength_le`) and no network that
does so is larger (`blockLength_le_length`).
-/

namespace RoutingData.Net

variable {f : Family} {m n : Net} {x y start stop : ℕ}

/-! ### Addresses of a network -/

/-- A block has a power of two addresses. -/
theorem blockSize_eq (f : Family) (length : ℕ) : blockSize f length = 2 ^ (f.width - length) := rfl

/-- Addresses are contained in a network when their leading bits are those of the network. -/
theorem contains_iff_div :
    n.contains f x ↔
      n.family = f ∧ x / blockSize f n.length = n.address / blockSize f n.length := by
  refine and_congr_right fun hf => ?_
  subst hf
  have hpos := blockSize_pos n.family n.length
  rw [Nat.div_eq_iff hpos, Nat.add_sub_assoc hpos]
  rfl

/-- A network contains its address. -/
theorem contains_address (n : Net) : n.contains n.family n.address :=
  contains_iff_div.2 ⟨rfl, rfl⟩

/-- A network contains its first address. -/
theorem contains_first (n : Net) : n.contains n.family n.first :=
  ⟨rfl, Nat.le_refl _, Nat.le_add_right _ _⟩

/-- A network contains its last address. -/
theorem contains_last (n : Net) : n.contains n.family n.last :=
  ⟨rfl, Nat.le_add_right _ _, Nat.le_refl _⟩

/-- A shorter mask makes a larger block, whose size is a multiple of that of the smaller one. -/
theorem blockSize_dvd_blockSize (f : Family) {k l : ℕ} (h : k ≤ l) :
    blockSize f l ∣ blockSize f k :=
  Nat.pow_dvd_pow 2 (Nat.sub_le_sub_left h _)

/-- Of two networks that share an address, the one with the shorter mask contains the other. -/
theorem contains_of_length_le (hm : m.contains f x) (hn : n.contains f x)
    (hle : m.length ≤ n.length) (hy : n.contains f y) : m.contains f y := by
  rw [contains_iff_div] at *
  refine ⟨hm.1, ?_⟩
  obtain ⟨c, hc⟩ := blockSize_dvd_blockSize f hle
  rw [← hm.2, hc, ← Nat.div_div_eq_div_mul, ← Nat.div_div_eq_div_mul, hy.2, hn.2]

/-- Clearing the host bits changes nothing when a network is written with its first address. -/
theorem truncate_eq_self_iff : n.truncate = n ↔ n.address = n.first := by
  obtain ⟨f, address, length, h, hle⟩ := n
  simp [truncate, eq_comm]

/-- Networks that are written with their first addresses are the same when they contain the same
addresses. -/
theorem eq_of_contains_iff (hm : m.address = m.first) (hn : n.address = n.first)
    (h : ∀ f x, m.contains f x ↔ n.contains f x) : m = n := by
  have hfamily : n.family = m.family := ((h _ _).1 m.contains_first).1
  have hfirst : m.first = n.first :=
    Nat.le_antisymm ((h _ _).2 n.contains_first).2.1 ((h _ _).1 m.contains_first).2.1
  have hlast : m.last = n.last :=
    Nat.le_antisymm ((h _ _).1 m.contains_last).2.2 ((h _ _).2 n.contains_last).2.2
  have hlength : m.length = n.length := by
    -- from the first to the last address there are as many as the mask leaves open
    have hsize : blockSize m.family m.length = blockSize m.family n.length := by
      have hpos := blockSize_pos m.family m.length
      have hpos' := blockSize_pos m.family n.length
      rw [last, last, lastOf, lastOf, ← first, ← first, hfirst, hfamily] at hlast
      omega
    rw [blockSize_eq, blockSize_eq] at hsize
    have hexp := Nat.pow_right_injective (Nat.le_refl 2) hsize
    have hmle := m.length_le
    have hnle := hfamily ▸ n.length_le
    omega
  rw [← hn, ← hm] at hfirst
  obtain ⟨f, address, length, _, _⟩ := m
  obtain ⟨g, address', length', _, _⟩ := n
  dsimp only at hfamily hfirst hlength
  subst hfamily hfirst hlength
  rfl

/-! ### The largest block -/

/-- The zero bits at the end of a number tell which powers of two divide it. -/
theorem le_trailingZeros_iff {width k : ℕ} :
    k ≤ trailingZeros width x ↔ k ≤ width ∧ 2 ^ k ∣ x := by
  induction width generalizing x k with
  | zero =>
    simp only [trailingZeros, Nat.le_zero]
    exact ⟨fun hk => ⟨hk, by simp [hk]⟩, fun hk => hk.1⟩
  | succ width ih =>
    cases k with
    | zero => simp
    | succ k =>
      rw [trailingZeros]
      split
      next heven =>
        -- an even number and its half differ by one factor
        rw [Nat.add_le_add_iff_right, ih, Nat.add_le_add_iff_right, Nat.pow_succ',
          Nat.dvd_div_iff_mul_dvd (Nat.dvd_of_mod_eq_zero heven)]
      next hodd =>
        refine iff_of_false (Nat.not_succ_le_zero k) fun h => hodd ?_
        exact Nat.mod_eq_zero_of_dvd (Nat.dvd_trans (Nat.dvd_mul_left 2 (2 ^ k)) h.2)

/-- The size of the largest block. -/
theorem exists_blockSize_blockLength (hlt : start < stop) :
    ∃ k, blockSize f (blockLength f start stop) = 2 ^ k ∧
      ∀ j, j ≤ k ↔ j ≤ f.width ∧ 2 ^ j ∣ start ∧ start + 2 ^ j ≤ stop := by
  refine ⟨min (stop - start).log2 (trailingZeros f.width start), ?_, fun j => ?_⟩
  · have hwidth : min (stop - start).log2 (trailingZeros f.width start) ≤ f.width :=
      Nat.le_trans (Nat.min_le_right _ _) (le_trailingZeros_iff.1 (Nat.le_refl _)).1
    rw [blockSize_eq, blockLength, Nat.sub_sub_self hwidth]
  · have hfits : 2 ^ j ≤ stop - start ↔ start + 2 ^ j ≤ stop := by omega
    rw [Nat.le_min, Nat.le_log2 (by omega), le_trailingZeros_iff, hfits]
    tauto

/-- The largest block starts at the address. -/
theorem firstOf_blockLength (hlt : start < stop) :
    firstOf f start (blockLength f start stop) = start := by
  obtain ⟨k, hk, hfits⟩ := exists_blockSize_blockLength hlt
  rw [firstOf, hk]
  exact Nat.div_mul_cancel ((hfits k).1 (Nat.le_refl k)).2.1

/-- The largest block goes no further than the stop. -/
theorem blockSize_blockLength_le (hlt : start < stop) :
    start + blockSize f (blockLength f start stop) ≤ stop := by
  obtain ⟨k, hk, hfits⟩ := exists_blockSize_blockLength hlt
  rw [hk]
  exact ((hfits k).1 (Nat.le_refl k)).2.2

/-- No network that starts at the address and goes no further than the stop is larger than the
largest block. -/
theorem blockLength_le_length (hf : n.family = f) (hfirst : n.first = start)
    (hlast : n.last < stop) : blockLength f start stop ≤ n.length := by
  subst hf hfirst
  obtain ⟨k, hk, hfits⟩ := exists_blockSize_blockLength (Nat.lt_of_le_of_lt n.first_le_last hlast)
  have hsize : n.first + blockSize n.family n.length ≤ stop := by
    rw [last, lastOf, ← first] at hlast
    omega
  have hdvd : blockSize n.family n.length ∣ n.first := Nat.dvd_mul_left _ _
  have hwidth : n.family.width - n.length ≤ k := (hfits _).2 ⟨Nat.sub_le _ _, hdvd, hsize⟩
  rw [blockSize_eq] at hk
  have hexp := Nat.pow_right_injective (Nat.le_refl 2) hk
  have hbound := blockLength_le n.family n.first stop
  have hlength := n.length_le
  omega

end RoutingData.Net
