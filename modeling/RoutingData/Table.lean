/-!
# Sorted tables

A finite map kept as a list of entries in strictly ascending key order. Because the order is part
of the type, a table is determined by its entries, and listing its keys or values needs no sorting.

The view of a table is `get?`: `get?_upsert_self` and `get?_upsert_of_ne` say what an update does
to it, and `upsert` is the one operation that adds keys.
-/

namespace RoutingData

universe u v w

/-- A finite map whose entries stand in strictly ascending key order. -/
structure Table (κ : Type u) (α : Type v) [Ord κ] where
  /-- The entries, one for each key. -/
  entries : List (κ × α)
  /-- Keys ascend strictly, so none is repeated. -/
  ascending : entries.Pairwise fun a b => compare a.1 b.1 = .lt

namespace Table

variable {κ : Type u} {α : Type v} {β : Type w} [Ord κ]

/-- The table without entries. -/
def empty : Table κ α := ⟨[], .nil⟩

instance : EmptyCollection (Table κ α) := ⟨empty⟩

instance : Inhabited (Table κ α) := ⟨empty⟩

instance [DecidableEq κ] [DecidableEq α] : DecidableEq (Table κ α) := fun s t =>
  decidable_of_iff (s.entries = t.entries) (by cases s; cases t; simp)

/-- The keys, ascending. -/
def keys (t : Table κ α) : List κ := t.entries.map (·.1)

/-- The values in the order of their keys. -/
def values (t : Table κ α) : List α := t.entries.map (·.2)

/-- The number of keys. -/
def size (t : Table κ α) : Nat := t.entries.length

/-- Whether there is no key. -/
def isEmpty (t : Table κ α) : Bool := t.entries.isEmpty

/-- The value under `k`, if there is one. -/
def get? (t : Table κ α) (k : κ) : Option α :=
  (t.entries.find? fun e => compare k e.1 == .eq).map (·.2)

/-- Whether `k` is a key. -/
def contains (t : Table κ α) (k : κ) : Bool := (t.get? k).isSome

/-- The entries after the value under `k` became `f` of the old value, which is `none` for a
new key. -/
def upsertEntries (k : κ) (f : Option α → α) : List (κ × α) → List (κ × α)
  | [] => [(k, f none)]
  | e :: rest =>
    match compare k e.1 with
    | .lt => (k, f none) :: e :: rest
    | .eq => (k, f (some e.2)) :: rest
    | .gt => e :: upsertEntries k f rest

/-- An update adds at most the key `k`. -/
theorem fst_mem_upsertEntries {k : κ} {f : Option α → α} {es : List (κ × α)} {e : κ × α}
    (h : e ∈ upsertEntries k f es) : e.1 = k ∨ e ∈ es := by
  induction es with
  | nil => simp_all [upsertEntries]
  | cons d rest ih =>
    unfold upsertEntries at h
    split at h <;> simp only [List.mem_cons] at h ⊢
    · rcases h with rfl | h | h <;> simp_all
    · rcases h with rfl | h <;> simp_all
    · rcases h with h | h
      · exact .inr (.inl h)
      · rcases ih h with h | h
        · exact .inl h
        · exact .inr (.inr h)

section Updates

variable [Std.TransOrd κ]

/-- An update keeps the keys ascending. -/
theorem upsertEntries_ascending (k : κ) (f : Option α → α) {es : List (κ × α)}
    (h : es.Pairwise fun a b => compare a.1 b.1 = .lt) :
    (upsertEntries k f es).Pairwise fun a b => compare a.1 b.1 = .lt := by
  induction es with
  | nil => simp [upsertEntries]
  | cons d rest ih =>
    rw [List.pairwise_cons] at h
    unfold upsertEntries
    split
    next hlt =>
      refine .cons ?_ (.cons h.1 h.2)
      intro e he
      rcases List.mem_cons.1 he with rfl | he
      · exact hlt
      · exact Std.TransCmp.lt_trans hlt (h.1 e he)
    next heq =>
      exact .cons (fun e he => Std.TransCmp.lt_of_eq_of_lt heq (h.1 e he)) h.2
    next hgt =>
      refine .cons ?_ (ih h.2)
      intro e he
      rcases fst_mem_upsertEntries he with hk | he
      · rw [hk]
        exact Std.OrientedCmp.lt_of_gt hgt
      · exact h.1 e he

/-- The table with the value under `k` set to `f` of the old value, which is `none` for a new
key. -/
def upsert (t : Table κ α) (k : κ) (f : Option α → α) : Table κ α :=
  ⟨upsertEntries k f t.entries, upsertEntries_ascending k f t.ascending⟩

/-- The table with `v` under `k`. -/
def insert (t : Table κ α) (k : κ) (v : α) : Table κ α := t.upsert k fun _ => v

/-- The table of the given pairs, the last one of a key winning. -/
def ofList (pairs : List (κ × α)) : Table κ α :=
  pairs.foldl (fun t e => t.insert e.1 e.2) ∅

end Updates

/-- The table without the key `k`. -/
def erase (t : Table κ α) (k : κ) : Table κ α :=
  ⟨t.entries.filter fun e => compare k e.1 != .eq, t.ascending.filter _⟩

/-- The table with every value replaced by `f` of it. -/
def map (t : Table κ α) (f : α → β) : Table κ β where
  entries := t.entries.map fun e => (e.1, f e.2)
  ascending := List.pairwise_map.2 t.ascending

/-- Two tables with the same entries are equal. -/
@[ext]
theorem ext {s t : Table κ α} (h : s.entries = t.entries) : s = t := by
  cases s; cases t; simpa using h

@[simp]
theorem get?_empty (k : κ) : (∅ : Table κ α).get? k = none := rfl

/-- After an update, `k` holds `f` of what it held before. -/
@[simp]
theorem get?_upsert_self [Std.TransOrd κ] (t : Table κ α) (k : κ) (f : Option α → α) :
    (t.upsert k f).get? k = some (f (t.get? k)) := by
  obtain ⟨es, hes⟩ := t
  simp only [upsert, get?]
  induction es with
  | nil => simp [upsertEntries, Std.ReflOrd.compare_self]
  | cons d rest ih =>
    rw [List.pairwise_cons] at hes
    unfold upsertEntries
    split
    next hlt =>
      have hrest : rest.find? (fun e => compare k e.1 == .eq) = none := by
        rw [List.find?_eq_none]
        intro e he
        simp [Std.TransCmp.lt_trans hlt (hes.1 e he)]
      simp [hlt, hrest, Std.ReflOrd.compare_self]
    next heq => simp [heq, Std.ReflOrd.compare_self]
    next hgt =>
      have := ih hes.2
      simp only [List.find?_cons, hgt] at this ⊢
      simpa using this

/-- An update of `k` leaves every other key alone. -/
theorem get?_upsert_of_ne [Std.TransOrd κ] [Std.LawfulEqOrd κ] (t : Table κ α) {k j : κ}
    (f : Option α → α) (h : j ≠ k) : (t.upsert k f).get? j = t.get? j := by
  obtain ⟨es, hes⟩ := t
  have hjk : (compare j k == Ordering.eq) = false := by
    simpa [Std.LawfulEqCmp.compare_eq_iff_eq] using h
  simp only [upsert, get?]
  congr 1
  induction es with
  | nil => simp [upsertEntries, hjk]
  | cons d rest ih =>
    rw [List.pairwise_cons] at hes
    unfold upsertEntries
    split
    next => simp [List.find?_cons, hjk]
    next heq =>
      have hd : k = d.1 := Std.LawfulEqCmp.compare_eq_iff_eq.1 heq
      simp [hjk, ← hd]
    next => rw [List.find?_cons, List.find?_cons, ih hes.2]

/-- After an insertion, the key holds the new value. -/
@[simp]
theorem get?_insert_self [Std.TransOrd κ] (t : Table κ α) (k : κ) (v : α) :
    (t.insert k v).get? k = some v :=
  get?_upsert_self t k _

/-- An insertion leaves every other key alone. -/
theorem get?_insert_of_ne [Std.TransOrd κ] [Std.LawfulEqOrd κ] (t : Table κ α) {k j : κ} (v : α)
    (h : j ≠ k) : (t.insert k v).get? j = t.get? j :=
  get?_upsert_of_ne t _ h

end Table

end RoutingData
