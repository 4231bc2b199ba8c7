import Mathlib.Data.List.Forall2

/-!
# Steps that succeed

A sequence of steps succeeds when each of them does, on what the steps before it gave. On the
members of a list, it fails as the first of them fails.
-/

namespace RoutingData

universe u v

variable {ε : Type u} {α β : Type v}

/-- Two steps succeed when the second does on what the first gave. -/
theorem bind_eq_ok_iff {x : Except ε α} {f : α → Except ε β} {b : β} :
    x >>= f = .ok b ↔ ∃ a, x = .ok a ∧ f a = .ok b := by
  constructor
  · intro h
    cases x with
    | error e => cases h
    | ok a => exact ⟨a, rfl, h⟩
  · rintro ⟨a, rfl, h⟩
    exact h

/-- A result is there when it is made of one. -/
theorem map_eq_ok_iff {x : Except ε α} {f : α → β} {b : β} :
    x.map f = .ok b ↔ ∃ a, x = .ok a ∧ f a = b := by
  cases x with
  | error e => simp [Except.map]
  | ok a => simp [Except.map]

/-- A failure stays what it is. -/
theorem map_eq_error_iff {x : Except ε α} {f : α → β} {e : ε} :
    x.map f = .error e ↔ x = .error e := by
  cases x with
  | error e => simp [Except.map]
  | ok a => simp [Except.map]

/-- Whether there is one does not depend on what is made of it. -/
theorem exists_map_eq_ok_iff {x : Except ε α} {f : α → β} :
    (∃ b, x.map f = .ok b) ↔ ∃ a, x = .ok a := by
  cases x with
  | error e => simp [Except.map]
  | ok a => simp [Except.map]

/-- How a failure is told does not concern a result. -/
theorem mapError_eq_ok_iff {ε' : Type u} {x : Except ε α} {f : ε → ε'} {a : α} :
    x.mapError f = .ok a ↔ x = .ok a := by
  cases x with
  | error e => simp [Except.mapError]
  | ok b => simp [Except.mapError]

/-- Steps on the members of a list succeed when each of them does. -/
theorem mapM_eq_ok_iff {f : α → Except ε β} {xs : List α} {ys : List β} :
    xs.mapM f = .ok ys ↔ List.Forall₂ (fun a b => f a = .ok b) xs ys := by
  induction xs generalizing ys with
  | nil =>
    rw [List.mapM_nil, List.forall₂_nil_left_iff]
    constructor
    · intro h
      cases h
      rfl
    · rintro rfl
      rfl
  | cons a xs ih =>
    rw [List.mapM_cons, bind_eq_ok_iff, List.forall₂_cons_left_iff]
    constructor
    · rintro ⟨b, hb, h⟩
      obtain ⟨bs, hbs, heq⟩ := bind_eq_ok_iff.1 h
      cases heq
      exact ⟨b, bs, hb, ih.1 hbs, rfl⟩
    · rintro ⟨b, bs, hb, hbs, rfl⟩
      exact ⟨b, hb, bind_eq_ok_iff.2 ⟨bs, ih.2 hbs, rfl⟩⟩

/-- Whether they do depends on each member alone. -/
theorem exists_mapM_eq_ok_iff {f : α → Except ε β} {xs : List α} :
    (∃ ys, xs.mapM f = .ok ys) ↔ ∀ a ∈ xs, ∃ b, f a = .ok b := by
  induction xs with
  | nil => exact ⟨fun _ a ha => absurd ha List.not_mem_nil, fun _ => ⟨[], rfl⟩⟩
  | cons a xs ih =>
    rw [List.forall_mem_cons, ← ih]
    simp only [mapM_eq_ok_iff, List.forall₂_cons_left_iff]
    constructor
    · rintro ⟨_, b, bs, hb, hbs, rfl⟩
      exact ⟨⟨b, hb⟩, bs, hbs⟩
    · rintro ⟨⟨b, hb⟩, bs, hbs⟩
      exact ⟨_, b, bs, hb, hbs, rfl⟩

/-- What is made of each result can be made of all of them afterwards. -/
theorem mapM_map {γ : Type v} {f : α → Except ε β} {g : β → γ} (xs : List α) :
    xs.mapM (fun a => (f a).map g) = (xs.mapM f).map (List.map g) := by
  induction xs with
  | nil => rfl
  | cons a xs ih =>
    rw [List.mapM_cons, List.mapM_cons, ih]
    cases f a with
    | error e => rfl
    | ok b =>
      cases xs.mapM f with
      | error e => rfl
      | ok bs => rfl

/-- Results that are taken in one after the other can be taken in when all are there. -/
theorem foldlM_eq_map_mapM {γ : Type v} {f : α → Except ε β} {g : γ → β → γ} (xs : List α) (c : γ) :
    xs.foldlM (fun c a => return g c (← f a)) c = (xs.mapM f).map (List.foldl g c) := by
  induction xs generalizing c with
  | nil => rfl
  | cons a xs ih =>
    rw [List.foldlM_cons, List.mapM_cons]
    cases f a with
    | error e => rfl
    | ok b =>
      change xs.foldlM (fun c a => return g c (← f a)) (g c b) = _
      rw [ih]
      cases xs.mapM f with
      | error e => rfl
      | ok bs => rfl

/-- Steps on the members of a list fail as the first one does that fails. -/
theorem mapM_eq_error_iff {f : α → Except ε β} {xs : List α} {e : ε} :
    xs.mapM f = .error e ↔ ∃ before a after, xs = before ++ a :: after ∧
      (∀ b ∈ before, ∃ c, f b = .ok c) ∧ f a = .error e := by
  induction xs with
  | nil =>
    rw [List.mapM_nil]
    constructor
    · intro h
      cases h
    · rintro ⟨before, a, after, heq, -⟩
      simp at heq
  | cons a xs ih =>
    rw [List.mapM_cons]
    cases hfa : f a with
    | error e' =>
      constructor
      · intro h
        cases h
        exact ⟨[], a, xs, rfl, by simp, hfa⟩
      · rintro ⟨before, b, after, heq, hbefore, hfb⟩
        cases before with
        | nil =>
          cases heq
          rw [hfa] at hfb
          cases hfb
          rfl
        | cons c before =>
          -- the first member cannot be among those that succeed
          cases heq
          obtain ⟨d, hd⟩ := hbefore a List.mem_cons_self
          rw [hfa] at hd
          cases hd
    | ok b =>
      have hrest : (Except.ok b >>= fun b => xs.mapM f >>= fun bs => pure (b :: bs)) = .error e ↔
          xs.mapM f = .error e := by
        cases xs.mapM f with
        | error e' => exact Iff.rfl
        | ok bs => exact iff_of_false (by rintro ⟨⟩) (by rintro ⟨⟩)
      rw [hrest, ih]
      constructor
      · rintro ⟨before, c, after, rfl, hbefore, hc⟩
        refine ⟨a :: before, c, after, rfl, ?_, hc⟩
        exact List.forall_mem_cons.2 ⟨⟨b, hfa⟩, hbefore⟩
      · rintro ⟨before, c, after, heq, hbefore, hc⟩
        cases before with
        | nil =>
          cases heq
          rw [hfa] at hc
          cases hc
        | cons d before =>
          cases heq
          exact ⟨before, c, after, rfl, (List.forall_mem_cons.1 hbefore).2, hc⟩

/-- What steps on the members of a list give comes from members. -/
theorem exists_of_mem_mapM {f : α → Except ε β} {xs : List α} {ys : List β}
    (h : xs.mapM f = .ok ys) {b : β} (hb : b ∈ ys) : ∃ a ∈ xs, f a = .ok b := by
  have hsteps := mapM_eq_ok_iff.1 h
  clear h
  induction hsteps with
  | nil => cases hb
  | cons hab _ ih =>
    rcases List.mem_cons.1 hb with rfl | hb
    · exact ⟨_, List.mem_cons_self, hab⟩
    · obtain ⟨a, ha, hfa⟩ := ih hb
      exact ⟨a, List.mem_cons_of_mem _ ha, hfa⟩

end RoutingData
