import RoutingData.Proofs.Covering

/-!
# Recording domains in any order

A set is offered texts one after the other, in whatever order. It refuses the empty text, and a
domain that one offered before covers; it need not remember the domains that it refused itself,
because whatever these cover is covered by a recorded one as well. That is the invariant of a run
(`Remembers`), kept by every offer (`Remembers.offer`) and so by all of them
(`Remembers.offerAll`). A domain that is offered before one that covers it is recorded and stays so,
since no offer takes a mark away.
-/

namespace RoutingData.CoverSet

variable {s : CoverSet} {before after : List String} {d : String} {node : List String}

/-- Offers a text to a set: whether it is recorded, or `none` when it is no domain, and the set
afterwards. -/
def offer (s : CoverSet) (d : String) : Option Bool × CoverSet :=
  match s.insertDomain? d with
  | none => (none, s)
  | some (new, t) => (some new, t)

/-- The set after texts were offered one after the other. -/
def offerAll (s : CoverSet) (domains : List String) : CoverSet :=
  domains.foldl (fun s d => (s.offer d).2) s

/-- The set covers what the domains cover that it was offered. -/
def Remembers (s : CoverSet) (before : List String) : Prop :=
  ∀ h, s.Marked (domainLabels h) ↔ ∃ e ∈ before, e ≠ "" ∧ Covers e h

/-! ### One offer -/

/-- The empty text is refused. -/
theorem offer_empty (s : CoverSet) : s.offer "" = (none, s) := rfl

/-- Any other text is inserted by its labels. -/
theorem offer_of_ne (hd : d ≠ "") :
    s.offer d = (some (s.insert (domainLabels d)).1, (s.insert (domainLabels d)).2) := by
  have hne : d.isEmpty = false := by simpa using hd
  simp [offer, insertDomain?, hne]

/-- What an offer does: nothing for the empty text or a covered domain, and otherwise it adds the
mark of the domain. -/
theorem offer_cases (s : CoverSet) (d : String) :
    d = "" ∧ s.offer d = (none, s) ∨
      d ≠ "" ∧ s.Marked (domainLabels d) ∧ s.offer d = (some false, s) ∨
      d ≠ "" ∧ ¬ s.Marked (domainLabels d) ∧ ∃ t, s.offer d = (some true, t) ∧
        ∀ node, t.endsAt node = true ↔ node = domainLabels d ∨ s.endsAt node = true := by
  by_cases hd : d = ""
  · subst hd
    exact .inl ⟨rfl, s.offer_empty⟩
  · right
    rw [offer_of_ne hd]
    by_cases hmarked : s.Marked (domainLabels d)
    · rw [insert_of_marked hmarked]
      exact .inl ⟨hd, hmarked, rfl⟩
    · obtain ⟨t, ht, hmarks⟩ := insert_of_not_marked hmarked
      rw [ht]
      exact .inr ⟨hd, hmarked, t, rfl, hmarks⟩

/-- No offer takes a mark away. -/
theorem endsAt_offer (h : s.endsAt node = true) (d : String) :
    (s.offer d).2.endsAt node = true := by
  rcases s.offer_cases d with ⟨-, heq⟩ | ⟨-, -, heq⟩ | ⟨-, -, t, heq, hmarks⟩
  · rwa [heq]
  · rwa [heq]
  · rw [heq]
    exact (hmarks node).2 (.inr h)

/-- A set remembers a domain that it is offered. -/
theorem Remembers.offer (h : s.Remembers before) (d : String) :
    (s.offer d).2.Remembers (before ++ [d]) := by
  intro host
  -- the domain of this offer comes to those of the offers before it
  have hoffered : (∃ e ∈ before ++ [d], e ≠ "" ∧ Covers e host) ↔
      (∃ e ∈ before, e ≠ "" ∧ Covers e host) ∨ d ≠ "" ∧ Covers d host := by
    simp [or_and_right, exists_or]
  rw [hoffered, ← h host]
  rcases s.offer_cases d with ⟨hd, heq⟩ | ⟨-, hmarked, heq⟩ | ⟨hd, -, t, heq, hmarks⟩
  · rw [heq]
    simp [hd]
  · rw [heq]
    constructor
    · exact .inl
    · rintro (hhost | ⟨-, hcovers⟩)
      · exact hhost
      · -- what a refused domain covers is covered by the one for which it was refused
        obtain ⟨node, hsuffix, hmark⟩ := hmarked
        exact ⟨node, hsuffix.trans (covers_iff_suffix.1 hcovers), hmark⟩
  · rw [heq, covers_iff_suffix]
    constructor
    · rintro ⟨node, hsuffix, hmark⟩
      rcases (hmarks node).1 hmark with rfl | hmark
      · exact .inr ⟨hd, hsuffix⟩
      · exact .inl ⟨node, hsuffix, hmark⟩
    · rintro (⟨node, hsuffix, hmark⟩ | ⟨-, hsuffix⟩)
      · exact ⟨node, hsuffix, (hmarks node).2 (.inr hmark)⟩
      · exact ⟨_, hsuffix, (hmarks _).2 (.inl rfl)⟩

/-! ### All offers -/

/-- At first there is nothing to remember. -/
theorem remembers_empty : (∅ : CoverSet).Remembers [] := by
  intro host
  simp [Marked]

/-- A set remembers all domains that it is offered. -/
theorem Remembers.offerAll (h : s.Remembers before) (after : List String) :
    (s.offerAll after).Remembers (before ++ after) := by
  induction after generalizing s before with
  | nil => simpa [CoverSet.offerAll] using h
  | cons d after ih => simpa [CoverSet.offerAll] using ih (h.offer d)

/-- A domain that was recorded stays so. -/
theorem endsAt_offerAll (h : s.endsAt node = true) (after : List String) :
    (s.offerAll after).endsAt node = true := by
  induction after generalizing s with
  | nil => exact h
  | cons d after ih => exact ih (endsAt_offer h d)

/-- After any texts, the answer to the next one is that it is no domain exactly when it is empty,
and that it is recorded exactly when no domain offered before, recorded or not, equals it or is one
of those above it. Any other answer leaves the set exactly as it was, and what is recorded stays so
whatever is offered later. -/
theorem offer_after_offers (before : List String) (d : String) :
    (((offerAll ∅ before).offer d).1 = none ↔ d = "") ∧
    (((offerAll ∅ before).offer d).1 = some true ↔
      d ≠ "" ∧ ∀ e ∈ before, e ≠ "" → ¬ Covers e d) ∧
    (((offerAll ∅ before).offer d).1 ≠ some true →
      ((offerAll ∅ before).offer d).2 = offerAll ∅ before) ∧
    (((offerAll ∅ before).offer d).1 = some true → ∀ after,
      (((offerAll ∅ before).offer d).2.offerAll after).endsAt (domainLabels d) = true) := by
  have hremembers : (offerAll ∅ before).Remembers before := remembers_empty.offerAll before
  generalize offerAll ∅ before = s at hremembers ⊢
  have hcovered := hremembers d
  rcases s.offer_cases d with ⟨hd, heq⟩ | ⟨hd, hmarked, heq⟩ | ⟨hd, hmarked, t, heq, hmarks⟩
  · rw [heq]
    simp [hd]
  · rw [heq]
    obtain ⟨e, he, hne, hcovers⟩ := hcovered.1 hmarked
    have hsome : ¬ ∀ e ∈ before, e ≠ "" → ¬ Covers e d := fun h => h e he hne hcovers
    simp [hd, hsome]
  · rw [heq]
    have hnone : ∀ e ∈ before, e ≠ "" → ¬ Covers e d :=
      fun e he hne hcovers => hmarked (hcovered.2 ⟨e, he, hne, hcovers⟩)
    refine ⟨by simp [hd], iff_of_true rfl ⟨hd, hnone⟩, fun h => absurd rfl h, fun _ after => ?_⟩
    exact endsAt_offerAll ((hmarks _).2 (.inl rfl)) after

/-- A domain below another one, offered first, is recorded like the other one. -/
example : (["www.a.com", "a.com", "b.a.com", "", ".com"].map
    fun d => ((offerAll ∅ ["www.a.com", "a.com"]).offer d).1) =
      [some false, some false, some false, none, some true] := by
  decide +kernel

end RoutingData.CoverSet
