import Mathlib.Algebra.BigOperators.Finprod
import RoutingData.Proofs.Inclusion.Graph

/-!
# Sums over chains of inclusions

An inclusion passes on what its filters ask for. The chains along which something is passed on start
from a list and are finitely many when inclusions are acyclic (`finite_chainsFrom`). What the lists
at their ends contribute is summed one inclusion at a time: the chain without inclusions ends at the
list itself, and every other chain goes on from one of the lists that are asked
(`finsum_chainsFrom`).
-/

namespace RoutingData.Registry

variable {r : Registry} {wanted : Filter → Prop} {a b : String} {l : DomainList}

/-- The list named `a` includes the one named `b` with a filter that is wanted. -/
def Requests (r : Registry) (wanted : Filter → Prop) (a b : String) : Prop :=
  ∃ l filters, r.get? a = some l ∧ l.inclusions.get? b = some filters ∧ ∃ f ∈ filters, wanted f

/-- The chains from `a` of inclusions each with a filter that is wanted, as the names after `a`. -/
def chainsFrom (r : Registry) (wanted : Filter → Prop) (a : String) : Set (List String) :=
  {c | (a :: c).IsChain (r.Requests wanted)}

/-- What is asked of a list can be read off the list that asks. -/
theorem requests_iff (hl : r.get? a = some l) :
    r.Requests wanted a b ↔ ∃ filters, (b, filters) ∈ l.inclusions.entries ∧
      ∃ f ∈ filters, wanted f := by
  simp only [Table.mem_entries_iff]
  constructor
  · rintro ⟨l', filters, hl', hfilters, hf⟩
    rw [hl] at hl'
    cases hl'
    exact ⟨filters, hfilters, hf⟩
  · rintro ⟨filters, hfilters, hf⟩
    exact ⟨l, filters, hl, hfilters, hf⟩

/-- Only included lists are asked. -/
theorem Requests.includes (h : r.Requests wanted a b) : r.Includes a b := by
  obtain ⟨l, filters, hl, hfilters, -⟩ := h
  exact ⟨l, hl, Table.mem_keys_iff.2 ⟨filters, hfilters⟩⟩

/-- Finitely many lists are asked. -/
theorem finite_requests (r : Registry) (wanted : Filter → Prop) (a : String) :
    {b | r.Requests wanted a b}.Finite := by
  cases hl : r.get? a with
  | none =>
    refine Set.finite_empty.subset fun b hb => ?_
    obtain ⟨l, -, hl', -⟩ := hb
    rw [hl] at hl'
    cases hl'
  | some l =>
    refine (List.finite_toSet l.targets).subset fun b hb => ?_
    exact (includes_iff_mem_targets hl).1 hb.includes

/-- A chain stops at once or goes on from a list that is asked. -/
theorem chainsFrom_eq (r : Registry) (wanted : Filter → Prop) (a : String) :
    r.chainsFrom wanted a =
      insert [] (⋃ b ∈ {b | r.Requests wanted a b}, (b :: ·) '' r.chainsFrom wanted b) := by
  ext c
  rw [Set.mem_insert_iff, Set.mem_iUnion₂]
  cases c with
  | nil => simp [chainsFrom]
  | cons b c => simp [chainsFrom, List.isChain_cons_cons, and_comm]

/-- On an acyclic graph there are finitely many chains. -/
theorem finite_chainsFrom (hr : r.Acyclic) (wanted : Filter → Prop) (a : String) :
    (r.chainsFrom wanted a).Finite := by
  induction a using hr.wellFounded.induction with
  | _ a ih =>
    rw [chainsFrom_eq]
    refine ((finite_requests r wanted a).biUnion fun b hb => ?_).insert []
    exact (ih b hb.includes).image _

/-- What is summed over chains is the share of the list itself and that of the lists it asks. -/
theorem finsum_chainsFrom (hr : r.Acyclic) (share : String → ℕ) (a : String) :
    ∑ᶠ c ∈ r.chainsFrom wanted a, share (c.getLastD a) =
      share a + ∑ᶠ b ∈ {b | r.Requests wanted a b},
        ∑ᶠ c ∈ r.chainsFrom wanted b, share (c.getLastD b) := by
  have hfinite : ∀ b ∈ {b | r.Requests wanted a b},
      ((b :: ·) '' r.chainsFrom wanted b).Finite :=
    fun b _ => (finite_chainsFrom hr wanted b).image _
  -- chains that go on from different lists differ in their first names
  have hdisjoint : {b | r.Requests wanted a b}.PairwiseDisjoint
      fun b => (b :: ·) '' r.chainsFrom wanted b := by
    intro b _ b' _ hne
    refine Set.disjoint_left.2 ?_
    rintro _ ⟨c, -, rfl⟩ ⟨c', -, heq⟩
    exact hne (List.cons.inj heq).1.symm
  have hnil : [] ∉ ⋃ b ∈ {b | r.Requests wanted a b}, (b :: ·) '' r.chainsFrom wanted b := by
    simp
  rw [chainsFrom_eq, finsum_mem_insert _ hnil ((finite_requests r wanted a).biUnion hfinite),
    finsum_mem_biUnion hdisjoint (finite_requests r wanted a) hfinite]
  congr 1
  refine finsum_mem_congr rfl fun b _ => ?_
  rw [finsum_mem_image (List.cons_injective.injOn)]
  simp only [List.getLastD_cons]

/-- A sum over the lists that are asked, inclusion by inclusion. -/
theorem finsum_requests [DecidablePred wanted] (hl : r.get? a = some l) (share : String → ℕ) :
    ∑ᶠ b ∈ {b | r.Requests wanted a b}, share b =
      (l.inclusions.entries.map fun e => if ∃ f ∈ e.2, wanted f then share e.1 else 0).sum := by
  have hnodup : l.inclusions.entries.Nodup := .of_map _ l.inclusions.keys_nodup
  have himage : {b | r.Requests wanted a b} =
      Prod.fst '' (l.inclusions.entries.toFinset.filter fun e => ∃ f ∈ e.2, wanted f :
        Set (String × List Filter)) := by
    ext b
    simp [requests_iff hl]
  have hinj : Set.InjOn Prod.fst {e | e ∈ l.inclusions.entries} :=
    fun d hd e he => Table.entry_unique hd he
  have hsub : (l.inclusions.entries.toFinset.filter fun e => ∃ f ∈ e.2, wanted f :
      Set (String × List Filter)) ⊆ {e | e ∈ l.inclusions.entries} :=
    fun e he => List.mem_toFinset.1 (Finset.filter_subset _ _ (Finset.mem_coe.1 he))
  rw [himage, finsum_mem_image (hinj.mono hsub), finsum_mem_coe_finset, Finset.sum_filter,
    List.sum_toFinset _ hnodup]

end RoutingData.Registry
