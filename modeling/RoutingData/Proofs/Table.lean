import Mathlib.Data.List.Forall2
import Mathlib.Data.List.Nodup
import Mathlib.Data.List.Sort
import RoutingData.Table

/-!
# Entries and lookups of tables

A table is determined by what its keys hold. The entries of a table are exactly the pairs that a
lookup finds (`mem_entries_iff`), so facts about `keys`, `values` and `entries` become facts about
`get?`, and `get?_erase`, `get?_insert` and `get?_ofList` say what the remaining operations do to
that view.
-/

namespace RoutingData.Table

universe u v

variable {κ : Type u} {α : Type v} [Ord κ]

/-- Keys ascend strictly. -/
theorem keys_ascending (t : Table κ α) : t.keys.Pairwise fun a b => compare a b = .lt :=
  List.pairwise_map.2 t.ascending

/-- A key of a table holds a value. -/
theorem contains_iff {t : Table κ α} {k : κ} : t.contains k = true ↔ ∃ v, t.get? k = some v := by
  rw [contains, Option.isSome_iff_exists]

/-- What a change of all values does to every key. -/
theorem get?_map {β : Type v} (t : Table κ α) (f : α → β) (k : κ) :
    (t.map f).get? k = (t.get? k).map f := by
  rw [get?, get?, map, List.find?_map, Option.map_map, Option.map_map]
  rfl

/-- Tables that are related entry by entry hold what is related. -/
theorem rel_get? {β : Type v} {R : α → β → Prop} {s : Table κ α} {t : Table κ β}
    (h : List.Forall₂ (fun d e => d.1 = e.1 ∧ R d.2 e.2) s.entries t.entries) (k : κ) :
    Option.Rel R (s.get? k) (t.get? k) := by
  unfold get?
  generalize s.entries = ds at h
  generalize t.entries = es at h
  induction h with
  | nil => exact .none
  | @cons d e ds es hentry _ ih =>
    rw [List.find?_cons, List.find?_cons, hentry.1]
    cases compare k e.1 == .eq with
    | true => exact .some hentry.2
    | false => exact ih

variable [Std.LawfulEqOrd κ]

/-- No key is repeated. -/
theorem keys_nodup (t : Table κ α) : t.keys.Nodup := by
  refine t.keys_ascending.imp fun {a b} hlt heq => ?_
  rw [heq, Std.ReflOrd.compare_self] at hlt
  cases hlt

/-- Entries with one key are the same. -/
theorem entry_unique {t : Table κ α} {d e : κ × α} (hd : d ∈ t.entries) (he : e ∈ t.entries)
    (h : d.1 = e.1) : d = e :=
  List.inj_on_of_nodup_map t.keys_nodup hd he h

/-- A search by key stops at an entry with that key. -/
theorem fst_eq_of_find? {es : List (κ × α)} {k : κ} {e : κ × α}
    (h : es.find? (fun e => compare k e.1 == .eq) = some e) : e.1 = k := by
  have hkey := List.find?_some h
  rw [beq_iff_eq] at hkey
  exact (Std.LawfulEqCmp.compare_eq_iff_eq.1 hkey).symm

/-- A lookup finds exactly the entries. -/
theorem mem_entries_iff {t : Table κ α} {k : κ} {v : α} :
    (k, v) ∈ t.entries ↔ t.get? k = some v := by
  rw [get?, Option.map_eq_some_iff]
  constructor
  · intro hmem
    cases hfind : t.entries.find? fun e => compare k e.1 == .eq with
    | none =>
      -- a search that fails would have passed over the entry itself
      have hne := List.find?_eq_none.1 hfind _ hmem
      simp [Std.ReflOrd.compare_self] at hne
    | some e =>
      have heq := entry_unique (List.mem_of_find?_eq_some hfind) hmem (fst_eq_of_find? hfind)
      exact ⟨e, rfl, by rw [heq]⟩
  · rintro ⟨e, hfind, rfl⟩
    rw [← fst_eq_of_find? hfind]
    exact List.mem_of_find?_eq_some hfind

/-- The keys are what holds a value. -/
theorem mem_keys_iff {t : Table κ α} {k : κ} : k ∈ t.keys ↔ ∃ v, t.get? k = some v := by
  simp only [keys, List.mem_map, ← mem_entries_iff]
  constructor
  · rintro ⟨⟨_, v⟩, he, rfl⟩
    exact ⟨v, he⟩
  · rintro ⟨v, he⟩
    exact ⟨(k, v), he, rfl⟩

/-- The values are what keys hold. -/
theorem mem_values_iff {t : Table κ α} {v : α} : v ∈ t.values ↔ ∃ k, t.get? k = some v := by
  simp only [values, List.mem_map, ← mem_entries_iff]
  constructor
  · rintro ⟨⟨k, _⟩, he, rfl⟩
    exact ⟨k, he⟩
  · rintro ⟨k, he⟩
    exact ⟨(k, v), he, rfl⟩

/-- What is no key holds nothing. -/
theorem get?_eq_none_iff {t : Table κ α} {k : κ} : t.get? k = none ↔ k ∉ t.keys := by
  rw [mem_keys_iff, not_exists, Option.eq_none_iff_forall_ne_some]

/-- The entries with one key. -/
theorem filter_entries [DecidableEq κ] (t : Table κ α) (k : κ) :
    t.entries.filter (·.1 == k) = ((t.get? k).map (k, ·)).toList := by
  have hmem : ∀ e, e ∈ t.entries.filter (·.1 == k) ↔ e.1 = k ∧ t.get? k = some e.2 := by
    rintro ⟨j, v⟩
    rw [List.mem_filter, mem_entries_iff, beq_iff_eq]
    constructor
    · rintro ⟨hv, rfl⟩
      exact ⟨rfl, hv⟩
    · rintro ⟨rfl, hv⟩
      exact ⟨hv, rfl⟩
  cases hget : t.get? k with
  | none =>
    refine List.eq_nil_iff_forall_not_mem.2 fun e he => ?_
    rw [hmem, hget] at he
    cases he.2
  | some v =>
    -- no entry is repeated, so the one that a lookup finds stands there once
    have hnodup : (t.entries.filter (·.1 == k)).Nodup :=
      (List.Nodup.of_map _ t.keys_nodup).filter _
    refine List.perm_singleton.1 ((List.perm_ext_iff_of_nodup hnodup (List.nodup_singleton _)).2 ?_)
    rintro ⟨j, w⟩
    rw [hmem, hget, List.mem_singleton, Prod.mk.injEq, Option.some.injEq, eq_comm (a := v)]

/-- Without one key there are all entries but the one with that key. -/
theorem perm_cons_entries_erase [DecidableEq κ] {t : Table κ α} {k : κ} {v : α}
    (h : t.get? k = some v) : t.entries.Perm ((k, v) :: (t.erase k).entries) := by
  have hfilter : t.entries.filter (!·.1 == k) = (t.erase k).entries := by
    refine List.filter_congr fun e _ => congrArg (!·) ?_
    rw [Bool.eq_iff_iff, beq_iff_eq, beq_iff_eq, Std.LawfulEqCmp.compare_eq_iff_eq]
    exact eq_comm
  have hperm := List.filter_append_perm (·.1 == k) t.entries
  rw [filter_entries, h, hfilter] at hperm
  exact hperm.symm

/-- What an erasure does to every key. -/
theorem get?_erase [DecidableEq κ] (t : Table κ α) (k j : κ) :
    (t.erase k).get? j = if j = k then none else t.get? j := by
  have hmem : ∀ v, (t.erase k).get? j = some v ↔ t.get? j = some v ∧ k ≠ j := by
    intro v
    rw [← mem_entries_iff, ← mem_entries_iff, erase, List.mem_filter]
    simp [Std.LawfulEqCmp.compare_eq_iff_eq]
  refine Option.ext fun v => ?_
  rw [hmem v]
  by_cases h : j = k
  · simp [h]
  · simp [h, Ne.symm h]

variable [Std.TransOrd κ]

/-- Tables whose keys hold the same are equal. -/
theorem ext_get? {s t : Table κ α} (h : ∀ k, s.get? k = t.get? k) : s = t := by
  have hirrefl : Std.Irrefl fun a b : κ × α => compare a.1 b.1 = .lt :=
    ⟨fun a hlt => by rw [Std.ReflOrd.compare_self] at hlt; cases hlt⟩
  have hanti : Std.Antisymm fun a b : κ × α => compare a.1 b.1 = .lt :=
    ⟨fun a b hab hba => absurd (Std.OrientedCmp.gt_of_lt hab) (by rw [hba]; simp)⟩
  refine Table.ext (s.ascending.eq_of_mem_iff t.ascending fun ⟨k, v⟩ => ?_)
  rw [mem_entries_iff, mem_entries_iff, h]

/-- Tables with the same keys list them alike. -/
theorem keys_eq_of_mem_iff {β : Type v} {s : Table κ α} {t : Table κ β}
    (h : ∀ k, k ∈ s.keys ↔ k ∈ t.keys) : s.keys = t.keys := by
  have hirrefl : Std.Irrefl fun a b : κ => compare a b = .lt :=
    ⟨fun a hlt => by rw [Std.ReflOrd.compare_self] at hlt; cases hlt⟩
  have hanti : Std.Antisymm fun a b : κ => compare a b = .lt :=
    ⟨fun a b hab hba => absurd (Std.OrientedCmp.gt_of_lt hab) (by rw [hba]; simp)⟩
  exact s.keys_ascending.eq_of_mem_iff t.keys_ascending h

/-- Tables whose keys hold what is related are related entry by entry. -/
theorem forall₂_entries {β : Type v} {R : α → β → Prop} {s : Table κ α} {t : Table κ β}
    (h : ∀ k, Option.Rel R (s.get? k) (t.get? k)) :
    List.Forall₂ (fun d e => d.1 = e.1 ∧ R d.2 e.2) s.entries t.entries := by
  have hkeys : s.keys = t.keys := by
    apply keys_eq_of_mem_iff
    intro k
    rw [mem_keys_iff, mem_keys_iff]
    have hk := h k
    generalize s.get? k = v at hk ⊢
    generalize t.get? k = w at hk ⊢
    cases hk with
    | some _ => simp
    | none => simp
  have hfirst : List.Forall₂ (fun d e => d.1 = e.1) s.entries t.entries := by
    rw [← List.forall₂_map_left_iff (R := fun k (e : κ × β) => k = e.1),
      ← List.forall₂_map_right_iff, List.forall₂_eq_eq_eq]
    exact hkeys
  rw [List.forall₂_iff_zip] at hfirst ⊢
  refine ⟨hfirst.1, fun {d e} hmem => ?_⟩
  have hkey : d.1 = e.1 := hfirst.2 hmem
  have hd : s.get? d.1 = some d.2 := mem_entries_iff.1 (List.of_mem_zip hmem).1
  have he : t.get? d.1 = some e.2 := hkey ▸ mem_entries_iff.1 (List.of_mem_zip hmem).2
  -- the values stand under the same key
  have hrel := h d.1
  rw [hd, he] at hrel
  cases hrel with
  | some hvalues => exact ⟨hkey, hvalues⟩

/-- The values of tables whose keys hold what is related are related in order. -/
theorem forall₂_values {β : Type v} {R : α → β → Prop} {s : Table κ α} {t : Table κ β}
    (h : ∀ k, Option.Rel R (s.get? k) (t.get? k)) : List.Forall₂ R s.values t.values := by
  unfold values
  rw [List.forall₂_map_left_iff, List.forall₂_map_right_iff]
  exact (forall₂_entries h).imp fun _ _ hentries => hentries.2

/-- What an insertion does to every key. -/
theorem get?_insert [DecidableEq κ] (t : Table κ α) (k j : κ) (v : α) :
    (t.insert k v).get? j = if j = k then some v else t.get? j := by
  split
  next h => rw [h, get?_insert_self]
  next h => exact get?_insert_of_ne t v h

/-- An erasure has no effect before an insertion. -/
theorem insert_erase [DecidableEq κ] (t : Table κ α) (k : κ) (v : α) :
    (t.erase k).insert k v = t.insert k v := by
  refine ext_get? fun j => ?_
  rw [get?_insert, get?_insert, get?_erase]
  split
  · rfl
  · rfl

/-- Pairs that are inserted one after the other, their keys distinct, are found with what was there
under other keys. -/
theorem get?_foldl_insert [DecidableEq κ] {pairs : List (κ × α)} (h : (pairs.map (·.1)).Nodup)
    (t : Table κ α) (k : κ) (v : α) :
    (pairs.foldl (fun t e => t.insert e.1 e.2) t).get? k = some v ↔
      (k, v) ∈ pairs ∨ k ∉ pairs.map (·.1) ∧ t.get? k = some v := by
  induction pairs generalizing t with
  | nil => simp
  | cons e pairs ih =>
    rw [List.map_cons, List.nodup_cons] at h
    rw [List.foldl_cons, ih h.2, get?_insert]
    by_cases hk : k = e.1
    · -- the key is not among the others, so its new value stays
      subst hk
      have hpairs : (e.1, v) ∉ pairs := fun hmem => h.1 (List.mem_map.2 ⟨_, hmem, rfl⟩)
      simp only [hpairs, h.1, false_or, not_false_eq_true, true_and, if_true, List.mem_cons,
        List.map_cons, Prod.ext_iff, or_false, not_true, false_and, Option.some.injEq]
      exact eq_comm
    · simp [hk, Prod.ext_iff]

/-- A table of pairs with distinct keys holds each of them. -/
theorem get?_ofList [DecidableEq κ] {pairs : List (κ × α)} (h : (pairs.map (·.1)).Nodup) {k : κ}
    {v : α} : (ofList pairs).get? k = some v ↔ (k, v) ∈ pairs := by
  rw [ofList, get?_foldl_insert h]
  simp

/-- The entries of a table make the table. -/
theorem ofList_entries [DecidableEq κ] (t : Table κ α) : ofList t.entries = t := by
  refine ext_get? fun k => Option.ext fun v => ?_
  rw [get?_ofList t.keys_nodup, mem_entries_iff]

end RoutingData.Table
