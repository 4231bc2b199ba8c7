import Mathlib.Data.List.Chain
import Mathlib.Order.WellFoundedSet
import RoutingData.Proofs.Table
import RoutingData.Registry

/-!
# The inclusion graph

The lists of a registry and their inclusions form a finite directed graph. A chain of inclusions is
a list of names, each including the next; its length is the number of inclusions, one less than the
number of names.

A list that reaches no cycle (`ReachesCycle`) is accessible along inclusions
(`acc_of_not_reachesCycle`). So on an acyclic graph inclusion is well founded
(`Acyclic.wellFounded`), which is the induction principle for everything that is gathered along
inclusions. `Shallow k a` says that chains from `a` have fewer than `k` inclusions. A list is
shallow one level further than the lists it includes (`shallow_succ_iff`), and no list that reaches
a cycle is shallow at any level (`Shallow.not_reachesCycle`).
-/

namespace RoutingData.Registry

open Relation

variable {r : Registry} {a b : String}

/-- Every list stands under its own name. -/
def Keyed (r : Registry) : Prop := ∀ a l, r.get? a = some l → l.name = a

/-- The list named `a` includes the one named `b`. -/
def Includes (r : Registry) (a b : String) : Prop := ∃ l, r.get? a = some l ∧ b ∈ l.targets

/-- Every included list exists. -/
def Complete (r : Registry) : Prop := ∀ a b, r.Includes a b → b ∈ r.keys

/-- No list includes itself, directly or through others. -/
def Acyclic (r : Registry) : Prop := ∀ a, ¬ TransGen r.Includes a a

/-- The list named `a` is on a cycle, or following inclusions from it leads to one. -/
def ReachesCycle (r : Registry) (a : String) : Prop :=
  ∃ b, ReflTransGen r.Includes a b ∧ TransGen r.Includes b b

/-- The lengths of the chains of inclusions that start from `a`. -/
def chainLengths (r : Registry) (a : String) : Set ℕ :=
  {k | ∃ c, (a :: c).IsChain r.Includes ∧ c.length = k}

/-- Only lists of the registry include others. -/
theorem Includes.mem_keys (h : r.Includes a b) : a ∈ r.keys := by
  obtain ⟨l, hl, -⟩ := h
  exact Table.mem_keys_iff.2 ⟨l, hl⟩

/-- In a complete registry, following inclusions from a list leads to lists only. -/
theorem Complete.mem_keys_of_reaches (hc : r.Complete) (ha : a ∈ r.keys)
    (hab : ReflTransGen r.Includes a b) : b ∈ r.keys := by
  rcases ReflTransGen.cases_tail hab with rfl | ⟨c, -, hcb⟩
  · exact ha
  · exact hc c b hcb

/-- A list reaches the cycles that the lists it includes reach. -/
theorem ReachesCycle.of_includes (h : r.ReachesCycle b) (hab : r.Includes a b) :
    r.ReachesCycle a := by
  obtain ⟨c, hbc, hcycle⟩ := h
  exact ⟨c, hbc.head hab, hcycle⟩

/-- Only lists of the registry reach cycles. -/
theorem ReachesCycle.mem_keys (h : r.ReachesCycle a) : a ∈ r.keys := by
  obtain ⟨b, hab, hcycle⟩ := h
  rcases ReflTransGen.cases_head hab with rfl | ⟨c, hac, -⟩
  · obtain ⟨c, hac, -⟩ := TransGen.head'_iff.1 hcycle
    exact hac.mem_keys
  · exact hac.mem_keys

/-- What a list includes can be read off the list. -/
theorem includes_iff_mem_targets {l : DomainList} (hl : r.get? a = some l) :
    r.Includes a b ↔ b ∈ l.targets := by
  constructor
  · rintro ⟨l', hl', hb⟩
    rw [hl] at hl'
    cases hl'
    exact hb
  · exact fun hb => ⟨l, hl, hb⟩

/-- The registry without lists. -/
theorem keyed_empty : (∅ : Registry).Keyed := by
  intro a l hl
  cases hl

/-- A list is added under its own name. -/
theorem Keyed.add (hr : r.Keyed) (l : DomainList) : (r.add l).Keyed := by
  intro a l' hl'
  rw [Registry.add, Table.get?_insert] at hl'
  split at hl'
  next h => cases hl'; exact h.symm
  next => exact hr a l' hl'

/-- Following inclusions from a list from which no cycle can be reached comes to an end. -/
theorem acc_of_not_reachesCycle (h : ¬ r.ReachesCycle a) : Acc (fun b a => r.Includes a b) a := by
  have : IsStrictOrder String fun b a => TransGen r.Includes a b ∧ ¬ TransGen r.Includes b b :=
    { irrefl := fun _ hcycle => hcycle.2 hcycle.1
      trans := fun _ _ _ hba hcb => ⟨hcb.1.trans hba.1, hba.2⟩ }
  have hkeys : {a | a ∈ r.keys}.WellFoundedOn
      fun b a => TransGen r.Includes a b ∧ ¬ TransGen r.Includes b b :=
    (List.finite_toSet r.keys).wellFoundedOn
  -- among the finitely many lists reaching one off all cycles is a strict order, and other names
  -- include nothing
  have hnoKey : ∀ a, a ∉ r.keys → Acc (fun b a => r.Includes a b) a :=
    fun a ha => ⟨a, fun b hab => absurd hab.mem_keys ha⟩
  by_cases ha : a ∈ r.keys
  · refine hkeys.induction (P := fun a => ¬ r.ReachesCycle a → Acc (fun b a => r.Includes a b) a)
      ha (fun a _ ih h => ⟨a, fun b hab => ?_⟩) h
    have hb : ¬ r.ReachesCycle b := fun hcycle => h (hcycle.of_includes hab)
    by_cases hkey : b ∈ r.keys
    · exact ih b hkey ⟨.single hab, fun hcycle => hb ⟨b, .refl, hcycle⟩⟩ hb
    · exact hnoKey b hkey
  · exact hnoKey a ha

/-- On an acyclic graph, what holds of a list once it holds of all that it includes holds of every
list. -/
theorem Acyclic.wellFounded (hr : r.Acyclic) : WellFounded fun b a => r.Includes a b :=
  ⟨fun _ => acc_of_not_reachesCycle fun ⟨b, _, hcycle⟩ => hr b hcycle⟩

/-! ### Shallow lists -/

/-- Chains of inclusions from `a` have fewer than `k` inclusions. -/
def Shallow (r : Registry) (k : ℕ) (a : String) : Prop := ∀ n ∈ r.chainLengths a, n < k

/-- The chain without inclusions starts from every name. -/
theorem zero_mem_chainLengths (r : Registry) (a : String) : 0 ∈ r.chainLengths a :=
  ⟨[], .singleton a, rfl⟩

/-- An inclusion puts a chain in front of those of the included list. -/
theorem succ_mem_chainLengths {n : ℕ} :
    n + 1 ∈ r.chainLengths a ↔ ∃ b, r.Includes a b ∧ n ∈ r.chainLengths b := by
  constructor
  · rintro ⟨_ | ⟨b, c⟩, hc, hn⟩
    · cases hn
    · rw [List.isChain_cons_cons] at hc
      exact ⟨b, hc.1, c, hc.2, by simpa using hn⟩
  · rintro ⟨b, hab, c, hc, rfl⟩
    exact ⟨b :: c, List.isChain_cons_cons.2 ⟨hab, hc⟩, rfl⟩

/-- No list is shallow at level zero. -/
theorem not_shallow_zero (r : Registry) (a : String) : ¬ r.Shallow 0 a := fun h =>
  absurd (h 0 (r.zero_mem_chainLengths a)) (Nat.lt_irrefl 0)

/-- A list is shallow one level further than the lists it includes. -/
theorem shallow_succ_iff {k : ℕ} :
    r.Shallow (k + 1) a ↔ ∀ b, r.Includes a b → r.Shallow k b := by
  constructor
  · intro h b hab n hn
    exact Nat.lt_of_succ_lt_succ (h (n + 1) (succ_mem_chainLengths.2 ⟨b, hab, hn⟩))
  · rintro h (_ | n) hn
    · exact Nat.succ_pos k
    · obtain ⟨b, hab, hb⟩ := succ_mem_chainLengths.1 hn
      exact Nat.succ_lt_succ (h b hab n hb)

/-- What is shallow at a level is shallow further on. -/
theorem Shallow.mono {j k : ℕ} (h : r.Shallow j a) (hjk : j ≤ k) : r.Shallow k a :=
  fun n hn => Nat.lt_of_lt_of_le (h n hn) hjk

/-- The longest chain of a list that is shallow for the first time at level `k + 1` has `k`
inclusions. -/
theorem isGreatest_chainLengths_iff {k : ℕ} :
    IsGreatest (r.chainLengths a) k ↔ r.Shallow (k + 1) a ∧ ¬ r.Shallow k a := by
  constructor
  · rintro ⟨hk, hmax⟩
    exact ⟨fun n hn => Nat.lt_succ_of_le (hmax hn), fun h => Nat.lt_irrefl k (h k hk)⟩
  · rintro ⟨hsucc, hnot⟩
    have hle : ∀ n ∈ r.chainLengths a, n ≤ k := fun n hn => Nat.le_of_lt_succ (hsucc n hn)
    simp only [Shallow, not_forall, Nat.not_lt] at hnot
    obtain ⟨n, hn, hkn⟩ := hnot
    have hnk : n = k := Nat.le_antisymm (hle n hn) hkn
    exact ⟨hnk ▸ hn, fun m hm => hle m hm⟩

/-- A list that is reached from a shallow one is shallow at an earlier level. -/
theorem Shallow.of_transGen {k : ℕ} (h : r.Shallow k a) (hab : TransGen r.Includes a b) :
    ∃ j < k, r.Shallow j b := by
  induction hab with
  | single hab =>
    cases k with
    | zero => exact absurd h (r.not_shallow_zero a)
    | succ k => exact ⟨k, Nat.lt_succ_self k, shallow_succ_iff.1 h _ hab⟩
  | tail _ hbc ih =>
    obtain ⟨j, hj, hb⟩ := ih
    cases j with
    | zero => exact absurd hb (r.not_shallow_zero _)
    | succ j => exact ⟨j, by omega, shallow_succ_iff.1 hb _ hbc⟩

/-- No list on a cycle is shallow. -/
theorem Shallow.not_cyclic {k : ℕ} (h : r.Shallow k a) : ¬ TransGen r.Includes a a := by
  induction k using Nat.strong_induction_on with
  | _ k ih =>
    intro hcycle
    obtain ⟨j, hj, ha⟩ := h.of_transGen hcycle
    exact ih j hj ha hcycle

/-- No list from which a cycle can be reached is shallow. -/
theorem Shallow.not_reachesCycle {k : ℕ} (h : r.Shallow k a) : ¬ r.ReachesCycle a := by
  rintro ⟨b, hab, hcycle⟩
  rcases reflTransGen_iff_eq_or_transGen.1 hab with rfl | hab
  · exact h.not_cyclic hcycle
  · obtain ⟨j, -, hb⟩ := h.of_transGen hab
    exact hb.not_cyclic hcycle

end RoutingData.Registry
