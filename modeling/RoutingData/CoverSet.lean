import Std.Data.ExtTreeMap
import RoutingData.Text.Pieces

/-!
# Covering domains

A domain covers itself and every domain below it. A `CoverSet` records domains that no earlier one
covers; whether a domain is accepted therefore depends on the order in which domains are recorded.

The recorded domains are marks in a tree of labels, in which the top-level label is next to the
root: the nodes on the way to the node of a domain are the domains above it. A node is the list of
the labels from it up to the root, the labels of its domain in the order in which they are written.
-/

namespace RoutingData

/-- The labels of a domain, which dots separate. -/
def domainLabels (domain : String) : List String := Text.splitAt '.' domain

/-- A tree of labels, with marks where recorded domains end. -/
structure CoverSet where
  /-- The nodes, each with whether a recorded domain ends there. -/
  nodes : Std.ExtTreeMap (List String) Bool
  /-- The root is always there. -/
  root_mem : [] ∈ nodes
  /-- So is the node above each other one. -/
  above_mem : ∀ label above, label :: above ∈ nodes → above ∈ nodes

namespace CoverSet

/-- The tree of the root alone. -/
def empty : CoverSet where
  nodes := (∅ : Std.ExtTreeMap (List String) Bool).insert [] false
  root_mem := by simp
  above_mem := by simp

instance : EmptyCollection CoverSet := ⟨empty⟩

/-- Whether a recorded domain ends at a node. -/
def endsAt (s : CoverSet) (node : List String) : Bool := s.nodes.getD node false

variable {node : List String}

/-- The tree with a node below another one, which is made if it is not there. -/
def grow (s : CoverSet) (h : node ∈ s.nodes) (label : String) : CoverSet where
  nodes := s.nodes.insertIfNew (label :: node) false
  root_mem := by simp [s.root_mem]
  above_mem := by
    intro label' above hmem
    simp only [Std.ExtTreeMap.mem_insertIfNew, Std.LawfulEqCmp.compare_eq_iff_eq,
      List.cons.injEq] at hmem ⊢
    rcases hmem with ⟨-, rfl⟩ | hmem
    · exact .inr h
    · exact .inr (s.above_mem label' above hmem)

/-- The node that was wanted is there. -/
theorem mem_grow (s : CoverSet) (h : node ∈ s.nodes) (label : String) :
    label :: node ∈ (s.grow h label).nodes := by
  simp [grow]

/-- The tree with a domain that ends at a node. -/
def mark (s : CoverSet) (h : node ∈ s.nodes) : CoverSet where
  nodes := s.nodes.insert node true
  root_mem := by simp [s.root_mem]
  above_mem := by
    intro label above hmem
    simp only [Std.ExtTreeMap.mem_insert, Std.LawfulEqCmp.compare_eq_iff_eq] at hmem ⊢
    rcases hmem with rfl | hmem
    · exact .inr (s.above_mem label above h)
    · exact .inr (s.above_mem label above hmem)

/-- Goes down from a node by labels, the nearest first, and marks the last node; tells whether it
did. A mark on the way, or at the end, covers the domain, which is then not recorded. -/
def insertBelow : List String → (s : CoverSet) → {node : List String} → node ∈ s.nodes →
    Bool × CoverSet
  | [], s, node, h => if s.endsAt node then (false, s) else (true, s.mark h)
  | label :: below, s, node, h =>
    if s.endsAt node then (false, s) else insertBelow below (s.grow h label) (s.mem_grow h label)

/-- Records a domain, unless it is covered already; tells whether it was recorded. -/
def insert (s : CoverSet) (labels : List String) : Bool × CoverSet :=
  insertBelow labels.reverse s s.root_mem

/-- Records a domain by its text. The empty text is no domain. -/
def insertDomain? (s : CoverSet) (domain : String) : Option (Bool × CoverSet) :=
  if domain.isEmpty then none else some (s.insert (domainLabels domain))

end CoverSet

end RoutingData
