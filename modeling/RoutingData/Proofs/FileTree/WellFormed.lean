import RoutingData.Proofs.FileTree.Rooted

/-!
# Trees that directories and files can make

In such a tree whatever there is lies in a directory, and it has a name there that a path can have
as one of its parts. What is new is put into a directory under the last part of a path, so trees
stay like that (`FileTree.WellFormed.setNode`).
-/

namespace RoutingData

namespace Path

variable {path name : String}

/-- What something in a directory can be called: one part of a path that means neither the directory
nor the one above it. -/
structure IsName (name : String) : Prop where
  /-- It is a part. -/
  ne_empty : name ≠ ""
  /-- A dot means the directory. -/
  ne_dot : name ≠ "."
  /-- Two dots mean the one above it. -/
  ne_dots : name ≠ ".."
  /-- It is no more than one part. -/
  slash_not_mem : '/' ∉ name.toList

instance (name : String) : Decidable (IsName name) :=
  decidable_of_iff (name ≠ "" ∧ name ≠ "." ∧ name ≠ ".." ∧ '/' ∉ name.toList)
    ⟨fun ⟨h, hdot, hdots, hslash⟩ => ⟨h, hdot, hdots, hslash⟩,
      fun ⟨h, hdot, hdots, hslash⟩ => ⟨h, hdot, hdots, hslash⟩⟩

/-- The parts of a path are names unless they are dots. -/
theorem isName_of_mem_parts (h : name ∈ parts path) (hdot : name ≠ ".") (hdots : name ≠ "..") :
    IsName name := by
  obtain ⟨hpiece, hempty⟩ := List.mem_filter.1 h
  refine ⟨by simpa using hempty, hdot, hdots, fun hslash => ?_⟩
  obtain ⟨piece, hmem, rfl⟩ := List.mem_map.1 hpiece
  rw [String.toList_ofList] at hslash
  simpa using Text.of_mem_allPieces hmem '/' hslash

end Path

namespace FileTree

variable {t t' : FileTree} {a : Address} {path name : String} {contents : Bytes}

/-- A tree that directories and files can make. -/
structure WellFormed (t : FileTree) : Prop where
  /-- Whatever there is lies in a directory. -/
  rooted : t.Rooted
  /-- It is there under a name, and so are the directories on the way to it. -/
  isName : ∀ e ∈ t.nodes.entries, e.1 ≠ [] ∧ ∀ name ∈ e.1, Path.IsName name

instance (t : FileTree) : Decidable t.WellFormed :=
  decidable_of_iff
    (t.Rooted ∧ ∀ e ∈ t.nodes.entries, e.1 ≠ [] ∧ ∀ name ∈ e.1, Path.IsName name)
    ⟨fun ⟨hrooted, hname⟩ => ⟨hrooted, hname⟩, fun ⟨hrooted, hname⟩ => ⟨hrooted, hname⟩⟩

namespace WellFormed

/-- What there is at an address is there under names. -/
theorem isName_of_mem (h : t.WellFormed) (hsome : (t.node? a).isSome = true) :
    ∀ name ∈ a, Path.IsName name := by
  by_cases ha : a = []
  · simp [ha]
  · rw [node?, if_neg ha] at hsome
    obtain ⟨node, hnode⟩ := Option.isSome_iff_exists.1 hsome
    exact (h.isName _ (Table.mem_entries_iff.2 hnode)).2

/-- The last of these is a name. -/
theorem isName_of_concat (h : t.WellFormed) (hsome : (t.node? (a ++ [name])).isSome = true) :
    Path.IsName name :=
  h.isName_of_mem hsome name (by simp)

/-- Something new in its place lies in a directory under a name, unless it takes the place of a
directory. -/
theorem setNode (h : t.WellFormed) (hplace : t.place path = .ok (some a)) (node : Node)
    (hnode : t.node? a ≠ some .directory) : (t.setNode a node).WellFormed := by
  refine ⟨h.rooted.setNode hplace node hnode, ?_⟩
  rintro ⟨b, other⟩ hmem
  rw [Table.mem_entries_iff, FileTree.setNode, Table.get?_insert] at hmem
  split at hmem
  next hb =>
    obtain ⟨-, directory, name, hlast, hdot, hdots, -, hdirectory, rfl⟩ :=
      place_eq_some_iff.1 hplace
    have hname := Path.isName_of_mem_parts (List.mem_of_getLast? hlast) hdot hdots
    have hfront := h.isName_of_mem (a := directory) (by rw [hdirectory]; rfl)
    subst hb
    refine ⟨by simp, fun part hpart => ?_⟩
    rcases List.mem_append.1 hpart with hpart | hpart
    · exact hfront part hpart
    · rwa [List.mem_singleton.1 hpart]
  next => exact h.isName _ (Table.mem_entries_iff.2 hmem)

end WellFormed

/-- A file is written into a directory, under a name. -/
theorem Written.wellFormed (h : Written path contents a t t') (ht : t.WellFormed) :
    t'.WellFormed := by
  rw [h.eq_setNode]
  exact ht.setNode h.place_eq _ h.node?_ne

/-- A directory is made in another one, under a name. -/
theorem wellFormed_of_makeDirectory (h : t.makeDirectory path = .ok t') (ht : t.WellFormed) :
    t'.WellFormed := by
  obtain ⟨a, hplace, hfree, rfl⟩ := makeDirectory_eq_ok_iff.1 h
  exact ht.setNode hplace _ (by simp [hfree])

end FileTree

end RoutingData
