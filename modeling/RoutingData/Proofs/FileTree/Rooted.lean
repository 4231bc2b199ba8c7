import RoutingData.Proofs.FileTree.Changes
import RoutingData.Proofs.Table

/-!
# Trees where everything lies in a directory

What a tree is made of is not checked: an address may be in it without the directory that it names
before its last part. Trees where this does not happen are `FileTree.Rooted`. What is new is put
into a directory that was walked to, and no directory is replaced, so trees stay like that whatever
is done with them (`FileTree.KeepsRooted`), whether it succeeds or not.
-/

namespace RoutingData

namespace FileTree

variable {t t' t'' : FileTree} {a : Address} {path : String} {contents : Bytes}

/-- Whatever there is lies in a directory. -/
def Rooted (t : FileTree) : Prop :=
  ∀ (a : Address) (part : String), (t.node? (a ++ [part])).isSome = true →
    t.node? a = some .directory

/-- The directory of something is there. -/
theorem Rooted.dropLast (h : t.Rooted) (ha : (t.node? a).isSome = true) :
    t.node? a.dropLast = some .directory := by
  rcases List.eq_nil_or_concat a with rfl | ⟨front, last, rfl⟩
  · rfl
  · rw [List.concat_eq_append] at ha ⊢
    rw [List.dropLast_concat]
    exact h front last ha

/-- Whether everything lies in a directory can be seen from the entries. -/
theorem rooted_iff :
    t.Rooted ↔ ∀ e ∈ t.nodes.entries, t.node? e.1.dropLast = some .directory := by
  constructor
  · intro h e he
    apply h.dropLast
    rw [node?, Table.mem_entries_iff.1 he]
    split
    · rfl
    · rfl
  · intro h a part hsome
    rw [node?, if_neg (by simp)] at hsome
    obtain ⟨node, hnode⟩ := Option.isSome_iff_exists.1 hsome
    have hdirectory := h _ (Table.mem_entries_iff.2 hnode)
    rwa [List.dropLast_concat] at hdirectory

instance (t : FileTree) : Decidable t.Rooted := decidable_of_iff _ rooted_iff.symm

/-- Something new in its place lies in a directory, and if it takes the place of something, that was
no directory with other things in it. -/
theorem Rooted.setNode (ht : t.Rooted) (hplace : t.place path = .ok (some a)) (node : Node)
    (hnode : t.node? a ≠ some .directory) : (t.setNode a node).Rooted := by
  have ha := ne_nil_of_place hplace
  obtain ⟨-, directory, name, -, -, -, -, hdirectory, heq⟩ := place_eq_some_iff.1 hplace
  intro b part hsome
  have hb : t.node? b = some .directory := by
    rw [node?_setNode t node ha] at hsome
    split at hsome
    next hpart =>
      rw [heq] at hpart
      rw [(List.append_inj' hpart rfl).1, hdirectory]
    next => exact ht b part hsome
  have hba : b ≠ a := by
    rintro rfl
    exact hnode hb
  rw [node?_setNode_of_ne t node hba, hb]

/-! ### Steps -/

/-- If everything lay in a directory before, it does so afterwards. -/
def KeepsRooted (t t' : FileTree) : Prop := t.Rooted → t'.Rooted

/-- Nothing is done. -/
theorem KeepsRooted.refl (t : FileTree) : t.KeepsRooted t := id

/-- One thing is done after the other. -/
theorem KeepsRooted.trans (h : t.KeepsRooted t') (h' : t'.KeepsRooted t'') : t.KeepsRooted t'' :=
  h' ∘ h

/-- A file is written into a directory. -/
theorem Written.keepsRooted (h : Written path contents a t t') : t.KeepsRooted t' := by
  intro ht
  rw [h.eq_setNode]
  exact ht.setNode h.place_eq _ h.node?_ne

/-- A directory is made in another one. -/
theorem keepsRooted_of_makeDirectory (h : t.makeDirectory path = .ok t') : t.KeepsRooted t' := by
  obtain ⟨a, hplace, hfree, rfl⟩ := makeDirectory_eq_ok_iff.1 h
  intro ht
  exact ht.setNode hplace _ (by simp [hfree])

end FileTree

end RoutingData
