import Mathlib.Data.List.Infix
import RoutingData.CoverSet

/-!
# Marks in the tree of labels

Recording a domain goes down the tree towards its node and makes the nodes that are missing. The way
down passes through the ends of the labels of the domain, the shortest first. The walk stops at the
first mark. A marked node was there before the walk, and with it all the nodes above it; so a walk
that stops has made no node, and the tree is as it was (`insert_of_marked`). A walk that meets no
mark adds one mark, at the node of the domain, and keeps the others (`insert_of_not_marked`).
-/

namespace RoutingData.CoverSet

variable {s t : CoverSet} {node other labels : List String} {label : String}

/-- Trees with the same nodes and the same marks are equal. -/
theorem ext_nodes (h : s.nodes = t.nodes) : s = t := by
  cases s
  cases t
  simpa using h

/-- The nodes above a node are nodes. -/
theorem mem_nodes_of_suffix (h : node ∈ s.nodes) (hsuffix : other <:+ node) : other ∈ s.nodes := by
  induction node with
  | nil => rwa [List.suffix_nil.1 hsuffix]
  | cons label above ih =>
    rcases List.suffix_cons_iff.1 hsuffix with rfl | hsuffix
    · exact h
    · exact ih (s.above_mem label above h) hsuffix

/-- Only nodes are marked. -/
theorem mem_nodes_of_endsAt (h : s.endsAt node = true) : node ∈ s.nodes := by
  by_contra hnot
  rw [endsAt, Std.ExtTreeMap.getD_eq_fallback hnot] at h
  cases h

/-- The tree of the root alone has no mark. -/
@[simp]
theorem endsAt_empty (node : List String) : (∅ : CoverSet).endsAt node = false := by
  show ((∅ : Std.ExtTreeMap (List String) Bool).insert [] false).getD node false = false
  simp [Std.ExtTreeMap.getD_insert]

/-- A node that is there already is not made again. -/
theorem grow_eq_self (h : node ∈ s.nodes) (hmem : label :: node ∈ s.nodes) :
    s.grow h label = s := by
  apply ext_nodes
  show s.nodes.insertIfNew (label :: node) false = s.nodes
  ext k : 1
  simp [Std.ExtTreeMap.getElem?_insertIfNew, hmem]

/-- A new node is not marked. -/
@[simp]
theorem endsAt_grow (h : node ∈ s.nodes) (label : String) (other : List String) :
    (s.grow h label).endsAt other = s.endsAt other := by
  unfold endsAt grow
  rw [Std.ExtTreeMap.getD_insertIfNew]
  split
  next hnew =>
    -- the node was not there, so it was not marked either
    obtain ⟨hcompare, hnot⟩ := hnew
    rw [← Std.LawfulEqCmp.compare_eq_iff_eq.1 hcompare, Std.ExtTreeMap.getD_eq_fallback hnot]
  next => rfl

/-- A mark is added to the others. -/
@[simp]
theorem endsAt_mark (h : node ∈ s.nodes) (other : List String) :
    (s.mark h).endsAt other = true ↔ other = node ∨ s.endsAt other = true := by
  unfold endsAt mark
  rw [Std.ExtTreeMap.getD_insert]
  split
  next heq => simp [Std.LawfulEqCmp.compare_eq_iff_eq.1 heq]
  next hne =>
    rw [Std.LawfulEqCmp.compare_eq_iff_eq] at hne
    simp [Ne.symm hne]

/-! ### Walks -/

/-- A walk towards a mark that is already there leaves the tree as it is. -/
theorem insertBelow_of_marked (hbelow : node <:+ other) (hother : other <:+ labels.reverse ++ node)
    (hmark : s.endsAt other = true) (h : node ∈ s.nodes) :
    insertBelow labels s h = (false, s) := by
  -- by induction on the labels that are left; the tree stays the same along the way
  induction labels generalizing s node with
  | nil =>
    have heq : node = other := hbelow.eq_of_length_le (by simpa using hother.length_le)
    rw [insertBelow, if_pos (heq ▸ hmark)]
  | cons label below ih =>
    rw [insertBelow]
    split
    · rfl
    next hnot =>
      -- the mark is further down, so the next node is on the way to it and was there before
      have hnext : label :: node <:+ other := by
        have hway : label :: node <:+ below.reverse ++ label :: node := List.suffix_append _ _
        rw [List.reverse_cons, List.append_assoc, List.singleton_append] at hother
        rcases List.suffix_or_suffix_of_suffix hway hother with hnext | hback
        · exact hnext
        · rcases List.suffix_cons_iff.1 hback with rfl | hback
          · exact List.suffix_refl _
          · have heq : other = node := hback.eq_of_length_le hbelow.length_le
            exact absurd (heq ▸ hmark) hnot
      have hmem : label :: node ∈ s.nodes :=
        mem_nodes_of_suffix (mem_nodes_of_endsAt hmark) hnext
      have hsame := grow_eq_self h hmem
      simp only [hsame]
      exact ih hnext (by simpa using hother) hmark hmem

/-- A walk that meets no mark makes one where it ends. -/
theorem insertBelow_of_not_marked
    (hnone : ∀ other, node <:+ other → other <:+ labels.reverse ++ node → s.endsAt other = false)
    (h : node ∈ s.nodes) :
    ∃ t, insertBelow labels s h = (true, t) ∧
      ∀ other, t.endsAt other = true ↔ other = labels.reverse ++ node ∨ s.endsAt other = true := by
  induction labels generalizing s node with
  | nil =>
    have hnode := hnone node (List.suffix_refl _) (List.suffix_append _ _)
    refine ⟨s.mark h, ?_, by simp⟩
    rw [insertBelow, if_neg (by simp [hnode])]
  | cons label below ih =>
    have hnode := hnone node (List.suffix_refl _) (List.suffix_append _ _)
    rw [insertBelow, if_neg (by simp [hnode])]
    have hrest : ∀ other, label :: node <:+ other → other <:+ below.reverse ++ label :: node →
        (s.grow h label).endsAt other = false := by
      intro other hbelow hother
      rw [endsAt_grow]
      exact hnone other ((List.suffix_cons label node).trans hbelow) (by simpa using hother)
    obtain ⟨t, ht, hmarks⟩ := ih hrest (s.mem_grow h label)
    refine ⟨t, ht, fun other => ?_⟩
    simpa using hmarks other

/-! ### Recording -/

/-- The domain of the labels, or one above it, has been recorded. -/
def Marked (s : CoverSet) (labels : List String) : Prop :=
  ∃ node, node <:+ labels ∧ s.endsAt node = true

/-- Recording a domain that is covered leaves the tree as it is. -/
theorem insert_of_marked (h : s.Marked labels) : s.insert labels = (false, s) := by
  obtain ⟨node, hsuffix, hmark⟩ := h
  exact insertBelow_of_marked (List.nil_suffix) (by simpa using hsuffix) hmark s.root_mem

/-- Recording another domain marks its node. -/
theorem insert_of_not_marked (h : ¬ s.Marked labels) :
    ∃ t, s.insert labels = (true, t) ∧
      ∀ node, t.endsAt node = true ↔ node = labels ∨ s.endsAt node = true := by
  have hnone : ∀ node, [] <:+ node → node <:+ labels.reverse.reverse ++ [] →
      s.endsAt node = false := by
    intro node _ hsuffix
    by_contra hmark
    exact h ⟨node, by simpa using hsuffix, by simpa using hmark⟩
  simpa [insert] using insertBelow_of_not_marked hnone s.root_mem

end RoutingData.CoverSet
