import RoutingData.Proofs.Net.Aligned

/-!
# Cutting a range into blocks

A greedy cut of a range takes the largest network that starts where the range does, and goes on
after it (`GreedyCut`). Its networks contain exactly the addresses of the range
(`GreedyCut.contains_iff`), ascend without overlap (`GreedyCut.ascending`), and none of them is part
of a larger network inside the range (`GreedyCut.length_le`), although the choice of each looks only
to the right.

`blocks` cuts greedily (`greedyCut_blocks`), and every network of the cut is written with its first
address.
-/

namespace RoutingData.Net

variable {f : Family} {m n : Net} {ns : List Net} {x start stop : ℕ}

/-- The networks cut the addresses from `start` to the one before `stop`, each of them the largest
that starts where it does and ends before `stop`. -/
inductive GreedyCut (f : Family) (stop : ℕ) : ℕ → List Net → Prop
  | done : GreedyCut f stop stop []
  | block {start : ℕ} {n : Net} {rest : List Net} :
      n.family = f → n.address = start → n.first = start → n.last < stop →
        (∀ m : Net, m.family = f → m.first = start → m.last < stop → n.length ≤ m.length) →
        GreedyCut f stop (n.last + 1) rest → GreedyCut f stop start (n :: rest)

/-- A cut consists of networks of the family. -/
theorem GreedyCut.family_eq (h : GreedyCut f stop start ns) : ∀ n ∈ ns, n.family = f := by
  induction h with
  | done => exact fun n hn => absurd hn List.not_mem_nil
  | block hf _ _ _ _ _ ih =>
    intro m hm
    rcases List.mem_cons.1 hm with rfl | hm
    · exact hf
    · exact ih m hm

/-- Every network of a cut is written with its first address. -/
theorem GreedyCut.address_eq_first (h : GreedyCut f stop start ns) :
    ∀ n ∈ ns, n.address = n.first := by
  induction h with
  | done => exact fun n hn => absurd hn List.not_mem_nil
  | block _ haddress hfirst _ _ _ ih =>
    intro m hm
    rcases List.mem_cons.1 hm with rfl | hm
    · exact haddress.trans hfirst.symm
    · exact ih m hm

/-- A cut contains the addresses of the range, and no others. -/
theorem GreedyCut.contains_iff (h : GreedyCut f stop start ns) :
    (∃ n ∈ ns, n.contains f x) ↔ start ≤ x ∧ x < stop := by
  induction h with
  | done =>
    simp only [List.not_mem_nil, false_and, exists_false, false_iff]
    omega
  | @block start n rest hf _ hfirst hlast _ _ ih =>
    have hle := n.first_le_last
    have hn : n.contains f x ↔ start ≤ x ∧ x ≤ n.last := by
      rw [contains, hfirst]
      exact and_iff_right hf
    simp only [List.mem_cons, exists_eq_or_imp, ih, hn]
    omega

/-- The networks of a cut ascend and do not overlap. -/
theorem GreedyCut.ascending (h : GreedyCut f stop start ns) :
    ns.Pairwise fun m n => m.last < n.first := by
  induction h with
  | done => exact .nil
  | block _ _ _ _ _ hrest ih =>
    apply List.Pairwise.cons _ ih
    intro m hm
    have hfirst := hrest.contains_iff.1 ⟨m, hm, hrest.family_eq m hm ▸ m.contains_first⟩
    omega

/-- No network of a cut is part of a larger network inside the range. -/
theorem GreedyCut.length_le (h : GreedyCut f stop start ns) (hn : n ∈ ns) (hx : n.contains f x)
    (hm : m.contains f x) (hfirst : start ≤ m.first) (hlast : m.last < stop) :
    n.length ≤ m.length := by
  induction h with
  | done => cases hn
  | @block start b rest hf _ hb _ hlargest hrest ih =>
    by_cases hbefore : m.first ≤ b.last
    · -- the network overlaps the first block; a larger one would start with it
      have hcommon : b.contains f m.first := ⟨hf, hb ▸ hfirst, hbefore⟩
      have hmf : m.contains f m.first := hm.1 ▸ m.contains_first
      have hle : b.length ≤ m.length := by
        by_contra hlt
        have hstart := contains_of_length_le hmf hcommon (Nat.le_of_lt (Nat.lt_of_not_le hlt))
          (hf ▸ b.contains_first)
        have hsame : m.first = start := Nat.le_antisymm (hb ▸ hstart.2.1) hfirst
        exact hlt (hlargest m hm.1 hsame hlast)
      -- so the network lies in the first block, as does the address that it shares
      have hbx := contains_of_length_le hcommon hmf hle hm
      rcases List.mem_cons.1 hn with rfl | hn
      · exact hle
      · have hafter := hrest.contains_iff.1 ⟨n, hn, hx⟩
        have hin := hbx.2.2
        omega
    · rcases List.mem_cons.1 hn with rfl | hn
      · have h1 := hx.2.2
        have h2 := hm.2.1
        omega
      · exact ih hn (by omega)

/-- Cutting into blocks is a greedy cut. -/
theorem greedyCut_blocks (h : stop ≤ f.size) (hle : start ≤ stop) :
    GreedyCut f stop start (blocks f start stop h) := by
  induction start using blocks.induct f stop with
  | case1 start hlt length ih =>
    have hfirst := firstOf_blockLength (f := f) hlt
    have hfits := blockSize_blockLength_le (f := f) hlt
    have hpos := blockSize_pos f (blockLength f start stop)
    rw [blocks, dif_pos hlt]
    -- where the block starts and ends
    have hlast : lastOf f start (blockLength f start stop) =
        start + (blockSize f (blockLength f start stop) - 1) := by
      rw [lastOf, hfirst]
    refine .block rfl rfl hfirst ?_ (fun m => blockLength_le_length) ?_
    · show lastOf f start (blockLength f start stop) < stop
      omega
    · have hnext : lastOf f start (blockLength f start stop) + 1 =
          start + blockSize f (blockLength f start stop) := by
        omega
      show GreedyCut f stop (lastOf f start (blockLength f start stop) + 1) _
      rw [hnext]
      exact ih hfits
  | case2 start hdone =>
    rw [blocks, dif_neg hdone]
    obtain rfl : start = stop := by omega
    exact .done

end RoutingData.Net
