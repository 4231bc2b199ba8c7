import Mathlib.Data.List.Infix
import Mathlib.Data.List.Nodup
import RoutingData.DomainList
import RoutingData.Proofs.LabelTree
import RoutingData.Proofs.Text.Pieces

/-!
# Covering domain rules

A domain covers a host that equals it or ends with a dot and the domain; in labels, the labels of
the domain end those of the host (`covers_iff_suffix`). Keeping a rule unless a rule kept earlier
covers it is keeping the rules that no earlier rule covers at all (`leaders`), because covering is
transitive. The rules kept of any sequence cover what all of them cover; that none of them covers
another needs the order, in which no rule comes after one that has more labels.
-/

namespace RoutingData

/-- The domain `v` covers the host `h`: the host equals the domain or is below it. -/
def Covers (v h : String) : Prop := h = v ∨ ∃ p, h = p ++ "." ++ v

/-- A domain covers a host when its labels end those of the host. -/
theorem covers_iff_suffix {v h : String} : Covers v h ↔ domainLabels v <:+ domainLabels h := by
  have hdot : "." = String.singleton '.' := by decide
  rw [Covers, hdot, domainLabels, domainLabels, Text.splitAt_suffix_iff]

instance (v h : String) : Decidable (Covers v h) :=
  decidable_of_iff (domainLabels v <:+ domainLabels h) covers_iff_suffix.symm

/-- A domain covers itself. -/
theorem Covers.refl (v : String) : Covers v v := .inl rfl

/-- What is below a covered domain is covered. -/
theorem Covers.trans {u v h : String} (huv : Covers u v) (hvh : Covers v h) : Covers u h :=
  covers_iff_suffix.2 ((covers_iff_suffix.1 huv).trans (covers_iff_suffix.1 hvh))

/-- A domain that covers one without more labels is that domain. -/
theorem Covers.eq_of_length_le {v h : String} (hvh : Covers v h)
    (hle : (domainLabels h).length ≤ (domainLabels v).length) : v = h :=
  Text.splitAt_inj.1 ((covers_iff_suffix.1 hvh).eq_of_length_le hle)

/-- Domains that cover each other are equal. -/
theorem Covers.antisymm {v h : String} (hvh : Covers v h) (hhv : Covers h v) : v = h :=
  hvh.eq_of_length_le (covers_iff_suffix.1 hhv).length_le

/-! ### Recorded domains -/

namespace CoverSet

variable {s : CoverSet} {domains : List String} {v : String}

/-- The domains recorded in a tree are the given ones. -/
def Records (s : CoverSet) (domains : List String) : Prop :=
  ∀ labels, s.endsAt labels = true ↔ ∃ d ∈ domains, domainLabels d = labels

/-- Nothing is recorded at first. -/
theorem records_empty : (∅ : CoverSet).Records [] := fun labels => by simp

/-- The node of a domain is below a mark when a recorded domain covers it. -/
theorem Records.marked_iff (h : s.Records domains) :
    s.Marked (domainLabels v) ↔ ∃ d ∈ domains, Covers d v := by
  constructor
  · rintro ⟨labels, hsuffix, hmark⟩
    obtain ⟨d, hd, rfl⟩ := (h labels).1 hmark
    exact ⟨d, hd, covers_iff_suffix.2 hsuffix⟩
  · rintro ⟨d, hd, hcovers⟩
    exact ⟨domainLabels d, covers_iff_suffix.1 hcovers, (h _).2 ⟨d, hd, rfl⟩⟩

/-- Recording a domain adds it, unless a recorded one covers it. -/
theorem Records.insert (h : s.Records domains) (v : String) :
    (∃ d ∈ domains, Covers d v) ∧ s.insert (domainLabels v) = (false, s) ∨
      (¬ ∃ d ∈ domains, Covers d v) ∧
        ∃ t, s.insert (domainLabels v) = (true, t) ∧ t.Records (v :: domains) := by
  by_cases hcovered : ∃ d ∈ domains, Covers d v
  · left
    exact ⟨hcovered, insert_of_marked (h.marked_iff.2 hcovered)⟩
  · right
    obtain ⟨t, ht, hmarks⟩ := insert_of_not_marked (mt h.marked_iff.1 hcovered)
    refine ⟨hcovered, t, ht, fun labels => ?_⟩
    rw [hmarks, h labels, eq_comm]
    simp

end CoverSet

/-! ### Rules that no earlier rule covers -/

namespace DomainList

/-- The rules that no rule before them covers, given the rules before the first. -/
def leaders (seen : List Rule) : List Rule → List Rule
  | [] => []
  | r :: rest =>
    if ∃ x ∈ seen, Covers x.value r.value then leaders (r :: seen) rest
    else r :: leaders (r :: seen) rest

variable {seen rules : List Rule} {x : Rule} {h : String}

/-- The leaders stand in the order of the rules. -/
theorem leaders_sublist (seen rules : List Rule) : (leaders seen rules).Sublist rules := by
  induction rules generalizing seen with
  | nil => exact List.Sublist.refl _
  | cons r rest ih =>
    rw [leaders]
    split
    · exact (ih _).cons r
    · exact (ih _).cons_cons r

/-- No rule before the first covers a leader. -/
theorem not_covers_of_mem_leaders (hx : x ∈ leaders seen rules) :
    ∀ y ∈ seen, ¬ Covers y.value x.value := by
  induction rules generalizing seen with
  | nil => cases hx
  | cons r rest ih =>
    intro y hy
    rw [leaders] at hx
    split at hx
    · exact ih hx y (List.mem_cons_of_mem r hy)
    next hnone =>
      rcases List.mem_cons.1 hx with rfl | hx
      · exact fun hcovers => hnone ⟨y, hy, hcovers⟩
      · exact ih hx y (List.mem_cons_of_mem r hy)

/-- No leader covers a later one. -/
theorem leaders_pairwise (seen rules : List Rule) :
    (leaders seen rules).Pairwise fun x y => ¬ Covers x.value y.value := by
  induction rules generalizing seen with
  | nil => exact .nil
  | cons r rest ih =>
    rw [leaders]
    split
    · exact ih _
    · exact .cons (fun y hy => not_covers_of_mem_leaders hy r List.mem_cons_self) (ih _)

/-- A leader is the first rule with its value. -/
theorem find?_eq_of_mem_leaders (hx : x ∈ leaders seen rules) :
    rules.find? (fun y => y.value == x.value) = some x := by
  induction rules generalizing seen with
  | nil => cases hx
  | cons r rest ih =>
    have hrest : x ∈ leaders (r :: seen) rest → r.value ≠ x.value := fun hx heq =>
      not_covers_of_mem_leaders hx r List.mem_cons_self (heq ▸ Covers.refl r.value)
    rw [leaders] at hx
    split at hx
    · rw [List.find?_cons_of_neg (by simpa using hrest hx)]
      exact ih hx
    · rcases List.mem_cons.1 hx with rfl | hx
      · exact List.find?_cons_of_pos (by simp)
      · rw [List.find?_cons_of_neg (by simpa using hrest hx)]
        exact ih hx

/-- A leader, or a rule before the first, covers each rule. -/
theorem exists_covers_of_mem (hx : x ∈ rules) :
    ∃ y ∈ seen ++ leaders seen rules, Covers y.value x.value := by
  induction rules generalizing seen with
  | nil => cases hx
  | cons r rest ih =>
    have hr : ∃ y ∈ seen ++ leaders seen (r :: rest), Covers y.value r.value := by
      by_cases hcovered : ∃ y ∈ seen, Covers y.value r.value
      · obtain ⟨y, hy, hyr⟩ := hcovered
        exact ⟨y, List.mem_append_left _ hy, hyr⟩
      · exact ⟨r, by simp [leaders, hcovered], Covers.refl _⟩
    -- what covers the first rule also covers what that rule covers
    have hrest : leaders (r :: seen) rest ⊆ leaders seen (r :: rest) := by
      rw [leaders]
      split
      · exact List.Subset.refl _
      · exact List.subset_cons_self _ _
    rcases List.mem_cons.1 hx with rfl | hx
    · exact hr
    · obtain ⟨y, hy, hyx⟩ := @ih (r :: seen) hx
      simp only [List.cons_append, List.mem_cons, List.mem_append] at hy
      rcases hy with rfl | hy | hy
      · obtain ⟨z, hz, hzy⟩ := hr
        exact ⟨z, hz, hzy.trans hyx⟩
      · exact ⟨y, List.mem_append_left _ hy, hyx⟩
      · exact ⟨y, List.mem_append_right _ (hrest hy), hyx⟩

/-- A rule with a value is kept, and recorded, unless a rule kept before covers it. -/
theorem keepCovering?_eq {s : CoverSet} {kept : List Rule} (hs : s.Records (kept.map (·.value)))
    {r : Rule} (hvalue : r.value ≠ "") :
    ∃ s', keepCovering? (s, kept) r =
        some (s', if ∃ x ∈ kept, Covers x.value r.value then kept else r :: kept) ∧
      s'.Records
        ((if ∃ x ∈ kept, Covers x.value r.value then kept else r :: kept).map (·.value)) := by
  have hne : r.value.isEmpty = false := by simpa using hvalue
  have hcases := hs.insert r.value
  simp only [List.mem_map, exists_exists_and_eq_and] at hcases
  rcases hcases with ⟨hcovered, hinsert⟩ | ⟨hcovered, s', hinsert, hs'⟩
  · refine ⟨s, ?_, ?_⟩
    · simp [keepCovering?, CoverSet.insertDomain?, hne, hinsert, if_pos hcovered]
    · rwa [if_pos hcovered]
  · refine ⟨s', ?_, ?_⟩
    · simp [keepCovering?, CoverSet.insertDomain?, hne, hinsert, if_neg hcovered]
    · rwa [if_neg hcovered]

/-- Keeping rules by recording their domains keeps the leaders. -/
theorem foldlM_keepCovering? (hvalues : ∀ r ∈ rules, r.value ≠ "") :
    ∀ {s : CoverSet} {kept : List Rule}, s.Records (kept.map (·.value)) →
      (∀ h, (∃ x ∈ kept, Covers x.value h) ↔ ∃ x ∈ seen, Covers x.value h) →
      ∃ s', rules.foldlM keepCovering? (s, kept) =
        some (s', (leaders seen rules).reverse ++ kept) := by
  induction rules generalizing seen with
  | nil => exact fun _ _ => ⟨_, rfl⟩
  | cons r rest ih =>
    intro s kept hs hseen
    obtain ⟨s', hkeep, hs'⟩ := keepCovering?_eq hs (hvalues r List.mem_cons_self)
    have hrest : ∀ x ∈ rest, x.value ≠ "" := fun x hx => hvalues x (List.mem_cons_of_mem r hx)
    rw [List.foldlM_cons, hkeep]
    -- with the rule before the others, the kept rules still cover what those before them cover
    by_cases hcovered : ∃ x ∈ kept, Covers x.value r.value
    · rw [if_pos hcovered] at hs' ⊢
      obtain ⟨s'', hfold⟩ := @ih (r :: seen) hrest s' kept hs' (by
        intro h
        simp only [List.mem_cons, exists_eq_or_imp, ← hseen h]
        refine ⟨.inr, fun hh => hh.elim (fun hrh => ?_) id⟩
        obtain ⟨x, hx, hxr⟩ := hcovered
        exact ⟨x, hx, hxr.trans hrh⟩)
      refine ⟨s'', ?_⟩
      rw [leaders, if_pos ((hseen _).1 hcovered)]
      exact hfold
    · rw [if_neg hcovered] at hs' ⊢
      obtain ⟨s'', hfold⟩ := @ih (r :: seen) hrest s' (r :: kept) hs' (by
        intro h
        simp only [List.mem_cons, exists_eq_or_imp, hseen h])
      refine ⟨s'', ?_⟩
      rw [leaders, if_neg (mt (hseen _).2 hcovered), List.reverse_cons, List.append_assoc]
      exact hfold

/-- A rule without a value stops the keeping of rules. -/
theorem foldlM_keepCovering?_eq_none {state : CoverSet × List Rule}
    (hempty : ∃ r ∈ rules, r.value = "") : rules.foldlM keepCovering? state = none := by
  induction rules generalizing state with
  | nil => simp at hempty
  | cons r rest ih =>
    rw [List.foldlM_cons]
    by_cases hr : r.value = ""
    · simp [keepCovering?, CoverSet.insertDomain?, hr]
    · obtain ⟨x, hx, hvalue⟩ := hempty
      have hrest : x ∈ rest := (List.mem_cons.1 hx).resolve_left (by rintro rfl; exact hr hvalue)
      cases keepCovering? state r with
      | none => rfl
      | some state' => exact ih ⟨x, hrest, hvalue⟩

/-- The covering rules are the leaders, provided that every rule has a value. -/
theorem coveringRules?_eq (rules : List Rule) :
    coveringRules? rules =
      if ∃ r ∈ rules, r.value = "" then none else some (leaders [] rules) := by
  rw [coveringRules?]
  split
  next hempty => rw [foldlM_keepCovering?_eq_none hempty, Option.map_none]
  next hvalues =>
    obtain ⟨s, hfold⟩ := @foldlM_keepCovering? [] rules
      (fun r hr hvalue => hvalues ⟨r, hr, hvalue⟩) ∅ [] CoverSet.records_empty fun _ => Iff.rfl
    rw [hfold, Option.map_some]
    simp

end DomainList

end RoutingData
