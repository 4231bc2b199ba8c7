import Mathlib.Data.List.Induction
import RoutingData.FileTree.Basic
import RoutingData.Proofs.Success
import RoutingData.Proofs.Text.Pieces

/-!
# Where paths lead

A path leads from directory to directory, so it leads to the same address in every tree that has the
same directories and has something wherever there was something (`Grows.locate_eq`). Writing asks
for the address of something new, reading for one of something that is there; `locate_eq_of_place`
says that these are the same address. What is added at the end of a path belongs to its last part
(`Path.exists_parts_append`), so a file whose name is longer has an address of its own.
-/

namespace RoutingData

namespace Path

variable {path name : String}

/-- What is added at the end of a path that is no directory belongs to its last part. -/
theorem exists_parts_append (hpath : path ≠ "") (hslash : endsWithSlash path = false) :
    ∃ front name, parts path = front ++ [name] ∧
      ∀ ending : String, '/' ∉ ending.toList →
        parts (path ++ ending) = front ++ [name ++ ending] := by
  obtain ⟨front, last, hsplit, hempty, happend⟩ := Text.exists_splitAt_append '/' path
  have hlast : last ≠ "" := by
    rw [Ne, hempty, not_or]
    exact ⟨hpath, by simpa [endsWithSlash] using hslash⟩
  refine ⟨front.filter (· ≠ ""), last, ?_, fun ending hending => ?_⟩
  · simp [parts, hsplit, hlast]
  · simp [parts, happend ending hending, hlast]

/-- The file name is the last part, unless that is made of dots. -/
theorem fileName_eq (hlast : (parts path).getLast? = some name) (hdot : name ≠ ".")
    (hdots : name ≠ "..") : fileName path = name := by
  obtain ⟨front, hfront⟩ := List.getLast?_eq_some_iff.1 hlast
  rw [fileName, hfront, List.filter_append]
  simp [hdot]

/-- A file whose name is longer is another file. -/
theorem getLast?_parts_append_ne {ending : String} (hpath : path ≠ "")
    (hslash : endsWithSlash path = false) (hending : '/' ∉ ending.toList) (hne : ending ≠ "") :
    (parts (path ++ ending)).getLast? ≠ (parts path).getLast? := by
  obtain ⟨front, name, hparts, happend⟩ := exists_parts_append hpath hslash
  rw [hparts, happend ending hending, List.getLast?_concat, List.getLast?_concat]
  intro h
  have hlength := congrArg String.length (Option.some.inj h)
  rw [String.length_append] at hlength
  exact hne (String.length_eq_zero_iff.1 (by omega))

end Path

namespace FileTree

variable {t t' : FileTree} {a b : Address} {path part : String}
  {parts : List String}

/-- What a tree holds after a node was set. -/
theorem node?_setNode (t : FileTree) (node : Node) (h : a ≠ []) (b : Address) :
    (t.setNode a node).node? b = if b = a then some node else t.node? b := by
  split
  next hb => rw [hb, node?_setNode_self t node h]
  next hb => exact node?_setNode_of_ne t node hb

/-! ### Steps and walks -/

/-- A part leads on from a directory: nowhere else, up, or down to something that is there. -/
theorem step_eq_ok_iff : t.step a part = .ok b ↔ t.node? a = some .directory ∧
    (part = "." ∧ b = a ∨ part = ".." ∧ b = a.dropLast ∨
      part ≠ "." ∧ part ≠ ".." ∧ b = a ++ [part] ∧ (t.node? b).isSome = true) := by
  rw [step]
  split
  next h => simp [h]
  next h => simp [h]
  next h =>
    rw [h]
    by_cases hdot : part = "."
    · subst hdot
      simpa using eq_comm
    · by_cases hdots : part = ".."
      · subst hdots
        simpa using eq_comm
      · rw [if_neg hdot, if_neg hdots]
        constructor
        · intro hstep
          split at hstep
          next hsome =>
            cases hstep
            exact ⟨rfl, .inr (.inr ⟨hdot, hdots, rfl, hsome⟩)⟩
          next => cases hstep
        · rintro ⟨-, ⟨hpart, -⟩ | ⟨hpart, -⟩ | ⟨-, -, rfl, hsome⟩⟩
          · exact absurd hpart hdot
          · exact absurd hpart hdots
          · rw [if_pos hsome]

/-- A walk of one more part. -/
theorem walk_concat_eq_ok_iff : t.walk path (parts ++ [part]) = .ok b ↔
    ∃ a, t.walk path parts = .ok a ∧ t.step a part = .ok b := by
  rw [walk, List.foldlM_append, bind_eq_ok_iff]
  refine exists_congr fun a => and_congr_right fun _ => ?_
  rw [List.foldlM_cons, bind_eq_ok_iff]
  simp [pure, Except.pure]

/-- The address for something new lies in the directory that all parts but the last lead to. -/
theorem place_eq_some_iff : t.place path = .ok (some a) ↔
    path ≠ "" ∧ ∃ directory name, (Path.parts path).getLast? = some name ∧ name ≠ "." ∧
      name ≠ ".." ∧ t.walk path (Path.parts path).dropLast = .ok directory ∧
      t.node? directory = some .directory ∧ a = directory ++ [name] := by
  rw [place]
  by_cases hpath : path = ""
  · simp [hpath, bind, Except.bind, throw, throwThe, MonadExceptOf.throw]
  · simp only [hpath, if_false, ne_eq, not_false_eq_true, true_and]
    rw [bind_eq_ok_iff]
    -- the dot at the end of the walk only checks that there is a directory
    simp only [walk_concat_eq_ok_iff]
    constructor
    · rintro ⟨directory, ⟨d, hwalk, hstep⟩, h⟩
      obtain ⟨hdirectory, hd⟩ := step_eq_ok_iff.1 hstep
      split at h
      next => cases h
      next => cases h
      next => cases h
      next name hdot hdots hlast =>
        cases h
        obtain rfl : directory = d := by simpa using hd
        exact ⟨directory, name, hlast, hdot, hdots, hwalk, hdirectory, rfl⟩
    · rintro ⟨directory, name, hlast, hdot, hdots, hwalk, hdirectory, rfl⟩
      refine ⟨directory, ⟨directory, hwalk, step_eq_ok_iff.2 ⟨hdirectory, .inl ⟨rfl, rfl⟩⟩⟩, ?_⟩
      rw [hlast]
      split
      next heq => cases heq
      next heq => exact absurd (Option.some.inj heq) hdot
      next heq => exact absurd (Option.some.inj heq) hdots
      next heq => rw [← Option.some.inj heq]; rfl

/-- Something new does not take the place of the root. -/
theorem ne_nil_of_place (h : t.place path = .ok (some a)) : a ≠ [] := by
  obtain ⟨-, directory, name, -, -, -, -, -, rfl⟩ := place_eq_some_iff.1 h
  simp

/-- Something new is called by the last part of the path. -/
theorem getLast?_of_place (h : t.place path = .ok (some a)) :
    a.getLast? = (Path.parts path).getLast? := by
  obtain ⟨-, directory, name, hlast, -, -, -, -, rfl⟩ := place_eq_some_iff.1 h
  rw [hlast, List.getLast?_concat]

/-- This part is the file name of the path. -/
theorem getLast?_eq_fileName_of_place (h : t.place path = .ok (some a)) :
    a.getLast? = some (Path.fileName path) := by
  obtain ⟨-, directory, name, hlast, hdot, hdots, -, -, rfl⟩ := place_eq_some_iff.1 h
  rw [Path.fileName_eq hlast hdot hdots, List.getLast?_concat]

/-- The address for something new is where the path leads once something is there. -/
theorem locate_eq_of_place (h : t.place path = .ok (some a))
    (hslash : Path.endsWithSlash path = false) :
    t.locate path = .ok b ↔ b = a ∧ (t.node? a).isSome = true := by
  obtain ⟨hpath, directory, name, hlast, hdot, hdots, hwalk, hdirectory, rfl⟩ :=
    place_eq_some_iff.1 h
  obtain ⟨front, hfront⟩ := List.getLast?_eq_some_iff.1 hlast
  rw [hfront, List.dropLast_concat] at hwalk
  -- without a slash at the end, the last part is the only one that `place` does not walk
  have hlocate : t.locate path = t.walk path (front ++ [name]) := by
    simp [locate, hpath, hslash, hfront]
  rw [hlocate, walk_concat_eq_ok_iff, hwalk]
  simp only [Except.ok.injEq, exists_eq_left', step_eq_ok_iff, hdirectory, hdot, hdots, false_and,
    false_or, ne_eq, not_false_eq_true, true_and]
  exact and_congr_right fun hb => by rw [hb]

/-! ### Trees that grow -/

/-- Where there was a directory there is one, and where there was something there is something. -/
structure Grows (t t' : FileTree) : Prop where
  /-- Relative paths start from the same directory. -/
  current_eq : t'.current = t.current
  /-- Directories stay. -/
  directory : ∀ a, t.node? a = some .directory → t'.node? a = some .directory
  /-- Nothing is taken away. -/
  isSome : ∀ a, (t.node? a).isSome = true → (t'.node? a).isSome = true

/-- A tree grows when what has changed was no directory and has not gone away. -/
theorem grows_of_forall (hcurrent : t'.current = t.current)
    (h : ∀ a, t'.node? a = t.node? a ∨
      t.node? a ≠ some .directory ∧ (t'.node? a).isSome = true) : t.Grows t' where
  current_eq := hcurrent
  directory := by
    intro a ha
    rcases h a with heq | ⟨hne, -⟩
    · rw [heq, ha]
    · exact absurd ha hne
  isSome := by
    intro a ha
    rcases h a with heq | ⟨-, hsome⟩
    · rw [heq, ha]
    · exact hsome

/-- A step that is possible stays possible. -/
theorem Grows.step_eq (h : t.Grows t') (hstep : t.step a part = .ok b) :
    t'.step a part = .ok b := by
  rw [step_eq_ok_iff] at hstep ⊢
  obtain ⟨hdirectory, hb⟩ := hstep
  refine ⟨h.directory a hdirectory, hb.imp_right (.imp_right ?_)⟩
  rintro ⟨hdot, hdots, rfl, hsome⟩
  exact ⟨hdot, hdots, rfl, h.isSome _ hsome⟩

/-- A walk leads to the same address. -/
theorem Grows.walk_eq (h : t.Grows t') (hwalk : t.walk path parts = .ok a) :
    t'.walk path parts = .ok a := by
  induction parts using List.reverseRecOn generalizing a with
  | nil =>
    rw [walk, h.current_eq]
    exact hwalk
  | append_singleton parts part ih =>
    obtain ⟨b, hb, hstep⟩ := walk_concat_eq_ok_iff.1 hwalk
    exact walk_concat_eq_ok_iff.2 ⟨b, ih hb, h.step_eq hstep⟩

/-- A path leads to the same address. -/
theorem Grows.locate_eq (h : t.Grows t') (hlocate : t.locate path = .ok a) :
    t'.locate path = .ok a := by
  rw [locate] at hlocate ⊢
  split at hlocate
  next => cases hlocate
  next hpath =>
    rw [if_neg hpath]
    exact h.walk_eq hlocate

/-- The place for something new stays the same. -/
theorem Grows.place_eq (h : t.Grows t') (hplace : t.place path = .ok (some a)) :
    t'.place path = .ok (some a) := by
  rw [place_eq_some_iff] at hplace ⊢
  obtain ⟨hpath, directory, name, hlast, hdot, hdots, hwalk, hdirectory, ha⟩ := hplace
  exact ⟨hpath, directory, name, hlast, hdot, hdots, h.walk_eq hwalk,
    h.directory directory hdirectory, ha⟩

end FileTree

end RoutingData
