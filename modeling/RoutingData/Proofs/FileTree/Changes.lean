import RoutingData.FileTree.Action
import RoutingData.Proofs.FileTree.Walks

/-!
# What actions change

What a sequence of actions does to a tree is put together from its steps: what comes out of it
(`FileAction.run_bind_eq_ok_iff`), and a relation between the trees before and after, whether the
sequence succeeds or not (`FileAction.along_bind`). Three relations describe the steps:

* `FileTree.Written`: one file is new or has new contents; the path leads to it afterwards, so what
  was written is what is read (`Written.contentsOf_eq`).
* `FileTree.Furnished`: there are new directories where nothing was.
* `FileTree.Edited`: files that some paths lead to have other contents, and nothing was added, so
  that every path leads where it led before.
-/

namespace RoutingData

namespace FileTree

variable {t t' t'' : FileTree} {a : Address} {path : String} {contents : Bytes}

/-! ### Writing -/

/-- A file is written, new or in the place of another one. -/
structure Written (path : String) (contents : Bytes) (a : Address) (t t' : FileTree) : Prop where
  /-- The path has a place for something new. -/
  place_eq : t.place path = .ok (some a)
  /-- The path does not ask for a directory. -/
  endsWithSlash_eq : Path.endsWithSlash path = false
  /-- No directory is in the way. -/
  node?_ne : t.node? a ≠ some .directory
  /-- The file is the only change. -/
  eq_setNode : t' = t.setNode a (.file contents)

/-- Writing does what it says, or fails. -/
theorem write_eq_ok_iff :
    t.write path contents = .ok t' ↔ ∃ a, Written path contents a t t' := by
  rw [write, bind_eq_ok_iff]
  constructor
  · rintro ⟨place, hplace, h⟩
    cases place with
    | none => cases h
    | some a =>
      dsimp only at h
      split at h
      next => cases h
      next hfree =>
        rw [not_or, Bool.not_eq_true] at hfree
        cases h
        exact ⟨a, hplace, hfree.1, hfree.2, rfl⟩
  · rintro ⟨a, hplace, hslash, hnode, rfl⟩
    refine ⟨some a, hplace, ?_⟩
    simp [hslash, hnode, pure, Except.pure]

namespace Written

/-- The contents are there. -/
theorem node?_eq (h : Written path contents a t t') : t'.node? a = some (.file contents) := by
  rw [h.eq_setNode]
  exact node?_setNode_self t _ (ne_nil_of_place h.place_eq)

/-- Everything else is as it was. -/
theorem frame (h : Written path contents a t t') {c : Address} (hc : c ≠ a) :
    t'.node? c = t.node? c := by
  rw [h.eq_setNode]
  exact node?_setNode_of_ne t _ hc

/-- No directory has become a file. -/
theorem grows (h : Written path contents a t t') : t.Grows t' := by
  refine grows_of_forall (by rw [h.eq_setNode]; rfl) fun c => ?_
  by_cases hc : c = a
  · subst hc
    exact .inr ⟨h.node?_ne, by rw [h.node?_eq]; rfl⟩
  · exact .inl (h.frame hc)

/-- The path leads to the file. -/
theorem locate_eq (h : Written path contents a t t') : t'.locate path = .ok a := by
  -- the place is still the same, and now something is there
  have hplace := h.grows.place_eq h.place_eq
  rw [locate_eq_of_place hplace h.endsWithSlash_eq, h.node?_eq]
  exact ⟨rfl, rfl⟩

end Written

/-- A file can be read when the path leads to it. -/
theorem contentsOf_eq_ok_iff : t.contentsOf path = .ok contents ↔
    ∃ a, t.locate path = .ok a ∧ t.node? a = some (.file contents) := by
  rw [contentsOf, mapError_eq_ok_iff, read, RoutingData.bind_eq_ok_iff]
  refine exists_congr fun a => and_congr_right fun _ => ?_
  split
  next heq => simp [heq, pure, Except.pure]
  next heq => simp [heq, throw, throwThe, MonadExceptOf.throw]
  next heq => simp [heq, throw, throwThe, MonadExceptOf.throw]

/-- What was written is read. -/
theorem Written.contentsOf_eq (h : Written path contents a t t') :
    t'.contentsOf path = .ok contents :=
  contentsOf_eq_ok_iff.2 ⟨a, h.locate_eq, h.node?_eq⟩

/-- A text can be read when the contents of a file are one. -/
theorem textOf_eq_ok_iff {text : String} : t.textOf path = .ok text ↔
    ∃ contents, t.contentsOf path = .ok contents ∧ contents.text? = some text := by
  rw [textOf, mapError_eq_ok_iff, readText, RoutingData.bind_eq_ok_iff]
  simp only [contentsOf, mapError_eq_ok_iff]
  refine exists_congr fun contents => and_congr_right fun _ => ?_
  cases contents.text? with
  | none => simp [throw, throwThe, MonadExceptOf.throw]
  | some found => simp [pure, Except.pure]

/-! ### New directories -/

/-- There are new directories where nothing was, and everything else is as it was. -/
structure Furnished (t t' : FileTree) : Prop where
  /-- Relative paths start from the same directory. -/
  current_eq : t'.current = t.current
  /-- What is new is a directory. -/
  node?_eq : ∀ a, t'.node? a = t.node? a ∨ t.node? a = none ∧ t'.node? a = some .directory

/-- No new directory is needed. -/
theorem Furnished.refl (t : FileTree) : t.Furnished t := ⟨rfl, fun _ => .inl rfl⟩

/-- New directories are made one after the other. -/
theorem Furnished.trans (h : t.Furnished t') (h' : t'.Furnished t'') : t.Furnished t'' := by
  refine ⟨h'.current_eq.trans h.current_eq, fun a => ?_⟩
  rcases h.node?_eq a with ha | ⟨ha, hnew⟩
  · rcases h'.node?_eq a with ha' | ⟨ha', hnew'⟩
    · exact .inl (ha'.trans ha)
    · exact .inr ⟨ha ▸ ha', hnew'⟩
  · rcases h'.node?_eq a with ha' | ⟨ha', -⟩
    · exact .inr ⟨ha, ha'.trans hnew⟩
    · rw [hnew] at ha'
      cases ha'

/-- Making a directory does what it says, or fails. -/
theorem makeDirectory_eq_ok_iff : t.makeDirectory path = .ok t' ↔
    ∃ a, t.place path = .ok (some a) ∧ t.node? a = none ∧ t' = t.setNode a .directory := by
  rw [makeDirectory, RoutingData.bind_eq_ok_iff]
  constructor
  · rintro ⟨place, hplace, h⟩
    cases place with
    | none => cases h
    | some a =>
      dsimp only at h
      split at h
      next => cases h
      next hfree =>
        cases h
        exact ⟨a, hplace, by simpa using hfree, rfl⟩
  · rintro ⟨a, hplace, hfree, rfl⟩
    refine ⟨some a, hplace, ?_⟩
    simp [hfree, pure, Except.pure]

/-- Making a directory makes this directory only. -/
theorem furnished_of_makeDirectory (h : t.makeDirectory path = .ok t') : t.Furnished t' := by
  obtain ⟨a, hplace, hfree, rfl⟩ := makeDirectory_eq_ok_iff.1 h
  refine ⟨rfl, fun c => ?_⟩
  rw [node?_setNode t _ (ne_nil_of_place hplace)]
  split
  next hc => exact .inr ⟨by rw [hc, hfree], rfl⟩
  next => exact .inl rfl

/-- One attempt at a directory, which may be there already. -/
def attempt (path : String) (t : FileTree) : Except FileFault Unit × FileTree :=
  match t.makeDirectory path with
  | .ok t => (.ok (), t)
  | .error e => (if e = .alreadyExists ∧ t.isDirectory path then .ok () else .error e, t)

/-- The outer directories are made between two attempts at the first one. -/
theorem makeNested_cons (path : String) (outer : List String) (t : FileTree) :
    makeNested (path :: outer) t = match attempt path t with
      | (.error .notFound, t) =>
        match makeNested outer t with
        | (.ok (), t) => attempt path t
        | failed => failed
      | done => done := rfl

section Nested

variable {R : FileTree → FileTree → Prop} (hrefl : ∀ t, R t t)
  (htrans : ∀ {t t' t''}, R t t' → R t' t'' → R t t'')
  (hmake : ∀ {t t' path}, t.makeDirectory path = .ok t' → R t t')

include hrefl hmake

/-- An attempt makes this directory or nothing. -/
theorem rel_attempt (path : String) (t : FileTree) : R t (attempt path t).2 := by
  unfold attempt
  split
  next h => exact hmake h
  next => exact hrefl t

include htrans

/-- Making directories on the way to each other makes one after the other, also when it fails. -/
theorem rel_makeNested (paths : List String) (t : FileTree) : R t (makeNested paths t).2 := by
  induction paths generalizing t with
  | nil => exact hrefl t
  | cons path outer ih =>
    have hfirst := rel_attempt hrefl hmake path t
    rw [makeNested_cons]
    split
    next t₁ heq =>
      -- an outer directory was missing: these are made, and then the first one is tried again
      rw [heq] at hfirst
      have houter := ih t₁
      split
      next t₂ heq =>
        rw [heq] at houter
        exact htrans (htrans hfirst houter) (rel_attempt hrefl hmake path t₂)
      next => exact htrans hfirst houter
    next => exact hfirst

end Nested

/-! ### Edited files -/

/-- Files that the paths lead to have other contents, and everything else is as it was. -/
structure Edited (paths : List String) (t t' : FileTree) : Prop where
  /-- Relative paths start from the same directory. -/
  current_eq : t'.current = t.current
  /-- What has changed was and is a file, and one of the paths leads to it. -/
  node?_eq : ∀ a, t'.node? a = t.node? a ∨ (∃ path ∈ paths, t.locate path = .ok a) ∧
    ∃ old new, t.node? a = some (.file old) ∧ t'.node? a = some (.file new)

variable {paths : List String}

/-- Nothing needs to be edited. -/
theorem Edited.refl (paths : List String) (t : FileTree) : Edited paths t t :=
  ⟨rfl, fun _ => .inl rfl⟩

/-- Files were files before, so nothing is added. -/
theorem Edited.grows_symm (h : Edited paths t t') : t'.Grows t := by
  refine grows_of_forall h.current_eq.symm fun a => (h.node?_eq a).imp Eq.symm ?_
  rintro ⟨-, old, new, hold, hnew⟩
  simp [hold, hnew]

/-- Files are edited one after the other. -/
theorem Edited.trans (h : Edited paths t t') (h' : Edited paths t' t'') : Edited paths t t'' := by
  refine ⟨h'.current_eq.trans h.current_eq, fun a => ?_⟩
  rcases h.node?_eq a with ha | ⟨hpath, old, new, hold, hnew⟩
  · rcases h'.node?_eq a with ha' | ⟨⟨path, hpath, hlocate⟩, old, new, hold, hnew⟩
    · exact .inl (ha'.trans ha)
    · -- the path led there before the first edit too
      exact .inr ⟨⟨path, hpath, h.grows_symm.locate_eq hlocate⟩, old, new, ha ▸ hold, hnew⟩
  · rcases h'.node?_eq a with ha' | ⟨-, -, new', -, hnew'⟩
    · exact .inr ⟨hpath, old, new, hold, ha'.trans hnew⟩
    · exact .inr ⟨hpath, old, new', hold, hnew'⟩

/-- A file that is there and is written anew is edited. -/
theorem Edited.of_write (hpath : path ∈ paths) {old : Bytes} (hread : t.contentsOf path = .ok old)
    (hwrite : t.write path contents = .ok t') : Edited paths t t' := by
  obtain ⟨a, hwritten⟩ := write_eq_ok_iff.1 hwrite
  obtain ⟨b, hlocate, hold⟩ := contentsOf_eq_ok_iff.1 hread
  -- what is there has the place that something new would get
  obtain ⟨rfl, -⟩ :=
    (locate_eq_of_place hwritten.place_eq hwritten.endsWithSlash_eq).1 hlocate
  refine ⟨hwritten.grows.current_eq, fun c => ?_⟩
  by_cases hc : c = b
  · subst hc
    exact .inr ⟨⟨path, hpath, hlocate⟩, old, contents, hold, hwritten.node?_eq⟩
  · exact .inl (hwritten.frame hc)

end FileTree

namespace FileAction

variable {α β : Type} {x : FileAction α} {f : α → FileAction β} {b : β} {t t' : FileTree}
  {R : FileTree → FileTree → Prop}

/-- The second action goes on where the first one ends, unless that fails. -/
theorem run_bind (x : FileAction α) (f : α → FileAction β) (t : FileTree) :
    (x >>= f).run.run t = match x.run.run t with
      | (.ok a, t') => (f a).run.run t'
      | (.error e, t') => (.error e, t') := by
  rcases hx : x.run.run t with ⟨result, t'⟩
  rw [ExceptT.run_bind, StateT.run_bind, hx]
  cases result with
  | error e => rfl
  | ok a => rfl

/-- Two actions succeed when the second does where the first one ends. -/
theorem run_bind_eq_ok_iff : (x >>= f).run.run t = (.ok b, t') ↔
    ∃ a t₁, x.run.run t = (.ok a, t₁) ∧ (f a).run.run t₁ = (.ok b, t') := by
  rw [run_bind]
  constructor
  · intro h
    split at h
    next a t₁ hx => exact ⟨a, t₁, hx, h⟩
    next => cases h
  · rintro ⟨a, t₁, hx, hf⟩
    rw [hx]
    exact hf

/-- A result changes nothing. -/
theorem run_pure_eq_ok_iff {a b : α} :
    (pure a : FileAction α).run.run t = (.ok b, t') ↔ b = a ∧ t' = t := by
  change (Except.ok a, t) = (Except.ok b, t') ↔ _
  rw [Prod.mk.injEq, Except.ok.injEq, eq_comm (a := a), eq_comm (a := t)]

/-- Looking succeeds when what is looked for is there. -/
theorem run_look_eq_ok_iff {g : FileTree → Except BuildError α} {a : α} :
    (look g).run.run t = (.ok a, t') ↔ g t = .ok a ∧ t' = t := by
  change (g t, t) = (.ok a, t') ↔ _
  rw [Prod.mk.injEq, eq_comm (a := t)]

/-- What follows goes on with what was looked for. -/
theorem run_look_bind_of_ok {g : FileTree → Except BuildError α} {a : α} (h : g t = .ok a) :
    (look g >>= f).run.run t = (f a).run.run t := by
  have hlook : (look g).run.run t = (g t, t) := rfl
  rw [run_bind, hlook, h]

/-- What follows is not done when there is nothing to look at. -/
theorem run_look_bind_of_error {g : FileTree → Except BuildError α} {e : BuildError}
    (h : g t = .error e) : (look g >>= f).run.run t = (.error e, t) := by
  have hlook : (look g).run.run t = (g t, t) := rfl
  rw [run_bind, hlook, h]

/-- Writing succeeds when the tree can be written to. -/
theorem run_write_eq_ok_iff {path : String} {contents : Bytes} {u : Unit} :
    (write path contents).run.run t = (.ok u, t') ↔ t.write path contents = .ok t' := by
  change write path contents t = (.ok u, t') ↔ _
  unfold write
  split
  next t₁ hwrite =>
    rw [hwrite]
    constructor
    · rintro ⟨⟩
      rfl
    · rintro ⟨⟩
      rfl
  next e hwrite =>
    rw [hwrite]
    constructor
    · rintro ⟨⟩
    · rintro ⟨⟩

/-- The trees before and after the action are related, whether it succeeds or not. -/
def Along (R : FileTree → FileTree → Prop) (x : FileAction α) : Prop := ∀ t, R t (x.run.run t).2

/-- What relates the trees of two actions relates those of the sequence. -/
theorem along_bind (htrans : ∀ {t t' t''}, R t t' → R t' t'' → R t t'') (hx : Along R x)
    (hf : ∀ a, Along R (f a)) : Along R (x >>= f) := by
  intro t
  rw [run_bind]
  have ht := hx t
  split
  next a t₁ heq =>
    rw [heq] at ht
    exact htrans ht (hf a t₁)
  next heq => rwa [heq] at ht

/-- A result changes nothing. -/
theorem along_pure (hrefl : ∀ t, R t t) (a : α) : Along R (pure a) := hrefl

/-- Looking changes nothing. -/
theorem along_look (hrefl : ∀ t, R t t) (g : FileTree → Except BuildError α) :
    Along R (look g) := hrefl

/-- Writing writes one file, or nothing. -/
theorem along_write {path : String} {contents : Bytes} (hrefl : ∀ t, R t t)
    (hwrite : ∀ {t t' a}, FileTree.Written path contents a t t' → R t t') :
    Along R (write path contents) := by
  intro t
  change R t (write path contents t).2
  unfold write
  split
  next h =>
    obtain ⟨a, hwritten⟩ := FileTree.write_eq_ok_iff.1 h
    exact hwrite hwritten
  next => exact hrefl t

/-- Making directories makes one directory after the other, also when it fails. -/
theorem along_makeDirectories (hrefl : ∀ t, R t t)
    (htrans : ∀ {t t' t''}, R t t' → R t' t'' → R t t'')
    (hmake : ∀ {t t' path}, t.makeDirectory path = .ok t' → R t t') (path : String) :
    Along R (makeDirectories path) := by
  intro t
  have hnested := FileTree.rel_makeNested hrefl htrans hmake (Path.ancestors path) t
  have hrun : (makeDirectories path).run.run t = makeDirectories path t := rfl
  rw [hrun, makeDirectories]
  -- what is made does not matter, so its evaluation is kept out of the way
  generalize FileTree.makeNested (Path.ancestors path) t = made at hnested ⊢
  exact hnested

end FileAction

end RoutingData
