import RoutingData.Proofs.FileTree.WellFormed

/-!
# Files below a directory

Going down from a directory, one comes to the files in it and to those below the directories in it
(`FileTree.LeadsTo`). In a tree that directories and files can make, the listing of a directory has
the paths of exactly these files, in their order (`FileTree.WellFormed.exists_filesUnder`), and by
each path the file is read that one came to (`FileTree.LeadsTo.contentsOf_eq`).

Paths are compared component by component, so a directory comes, with all that is below it, before
another one whose name goes on where its own ends.
-/

namespace RoutingData

namespace Path

variable {path name : String} {names : List String}

/-- A path comes before another one when its components do. -/
def Before (path other : String) : Prop := compare (components path) (components other) = .lt

instance (path other : String) : Decidable (Before path other) :=
  inferInstanceAs (Decidable (_ = _))

-- as texts they stand the other way round, since a point comes before a slash
example : Before "a/x" "a.b/x" ∧ "a.b/x" < "a/x" := by decide

/-! ### Names at the end of a path -/

/-- A name is put after a path, with a slash between them if there is none yet. -/
theorem IsName.join_eq (h : IsName name) (path : String) :
    join path name =
      if path = "" ∨ endsWithSlash path then path ++ name else path ++ "/" ++ name := by
  have hrelative : ¬ isAbsolute name = true := by
    intro habsolute
    exact h.slash_not_mem (List.mem_of_head? (by simpa [isAbsolute] using habsolute))
  rw [join, if_neg hrelative]

/-- The name is the last part. -/
theorem IsName.parts_join (h : IsName name) (path : String) :
    parts (join path name) = parts path ++ [name] := by
  have hname := h.ne_empty
  rw [h.join_eq]
  split
  next hpath =>
    -- the last piece of the path is empty, so the name takes its place
    obtain ⟨front, last, hsplit, hempty, happend⟩ := Text.exists_splitAt_append '/' path
    have hlast : last = "" := by
      rw [hempty]
      exact hpath.imp_right fun hslash => by simpa [endsWithSlash] using hslash
    simp [parts, happend name h.slash_not_mem, hsplit, hlast, hname]
  next =>
    have hsplit := Text.splitAt_append '/' path name
    rw [Text.splitAt_of_not_mem h.slash_not_mem] at hsplit
    have hparts : parts (path ++ "/" ++ name) = (Text.splitAt '/' path ++ [name]).filter (· ≠ "") :=
      congrArg (List.filter (· ≠ "")) hsplit
    rw [hparts, List.filter_append, ← parts]
    simp [hname]

/-- There is no slash after the name. -/
theorem IsName.endsWithSlash_join (h : IsName name) (path : String) :
    endsWithSlash (join path name) = false := by
  have hname : name.toList ≠ [] := by simpa using h.ne_empty
  have hlast : (join path name).toList.getLast? = name.toList.getLast? := by
    rw [h.join_eq]
    split
    · rw [String.toList_append, List.getLast?_append_of_ne_nil _ hname]
    · rw [String.toList_append, List.getLast?_append_of_ne_nil _ hname]
  have hslash : name.toList.getLast? ≠ some '/' :=
    fun hlast => h.slash_not_mem (List.mem_of_getLast? hlast)
  rw [endsWithSlash, hlast]
  simpa using hslash

/-- The longer path is not empty. -/
theorem IsName.join_ne_empty (h : IsName name) (path : String) : join path name ≠ "" := by
  intro hempty
  have hparts := h.parts_join path
  rw [hempty] at hparts
  have hnil : parts "" = [] := by decide
  rw [hnil] at hparts
  simp at hparts

/-- The longer path starts where the path does. -/
theorem IsName.isAbsolute_join (h : IsName name) (hpath : path ≠ "") :
    isAbsolute (join path name) = isAbsolute path := by
  have hlist : path.toList ≠ [] := by simpa using hpath
  have hhead : (join path name).toList.head? = path.toList.head? := by
    rw [h.join_eq]
    split
    · rw [String.toList_append, List.head?_append_of_ne_nil _ hlist]
    · rw [String.toList_append, String.toList_append, List.append_assoc,
        List.head?_append_of_ne_nil _ hlist]
  rw [isAbsolute, isAbsolute, hhead]

/-- In the order of paths, the name is the last component. -/
theorem IsName.components_join (h : IsName name) (hpath : path ≠ "") :
    components (join path name) = components path ++ [name] := by
  have hdot := h.ne_dot
  rw [components, components, h.parts_join, h.isAbsolute_join hpath]
  cases parts path with
  | nil => simp [hdot]
  | cons first rest =>
    simp only [List.cons_append, List.filter_append]
    split
    · simp [hdot]
    · simp [hdot]

/-- So are several names, one after the other. -/
theorem components_foldl_join (hnames : ∀ name ∈ names, IsName name) (hpath : path ≠ "") :
    components (names.foldl join path) = components path ++ names := by
  induction names generalizing path with
  | nil => simp
  | cons name names ih =>
    obtain ⟨hname, hnames⟩ := List.forall_mem_cons.1 hnames
    rw [List.foldl_cons, ih hnames (hname.join_ne_empty path), hname.components_join hpath,
      List.append_assoc, List.singleton_append]

/-! ### Order -/

/-- What two paths begin with does not decide which one comes first. -/
theorem compare_append_left (front names others : List String) :
    compare (front ++ names) (front ++ others) = compare names others := by
  induction front with
  | nil => rfl
  | cons first front ih =>
    rw [List.cons_append, List.cons_append, List.compare_cons_cons, Std.ReflOrd.compare_self, ih]
    rfl

/-- Of two paths, only one comes before the other. -/
theorem Before.asymm {other : String} (h : Before path other) : ¬ Before other path := by
  intro hother
  rw [Before, Std.OrientedCmp.gt_of_lt h] at hother
  cases hother

/-- In a list in this order, what stands before a path comes before it, and nothing else does. -/
theorem before_iff_mem_front {other : String} {front back : List String}
    (h : (front ++ path :: back).Pairwise Before) (hother : other ∈ front ++ path :: back) :
    Before other path ↔ other ∈ front := by
  obtain ⟨-, hback, hfront⟩ := List.pairwise_append.1 h
  constructor
  · intro hbefore
    rcases List.mem_append.1 hother with hmem | hmem
    · exact hmem
    · rcases List.mem_cons.1 hmem with rfl | hmem
      · exact absurd hbefore hbefore.asymm
      · exact absurd hbefore ((List.pairwise_cons.1 hback).1 other hmem).asymm
  · exact fun hmem => hfront other hmem path List.mem_cons_self

end Path

namespace FileTree

variable {t : FileTree} {a : Address} {directory name path : String} {contents : Bytes}

/-- Going down from the directory at an address, which a path leads to, one comes to a file: its
path, and its contents. -/
inductive LeadsTo (t : FileTree) : Address → String → String → Bytes → Prop
  /-- The file is in the directory. -/
  | file {a : Address} {directory name : String} {contents : Bytes}
      (hfile : t.node? (a ++ [name]) = some (.file contents)) :
      LeadsTo t a directory (Path.join directory name) contents
  /-- The file is below a directory in the directory. -/
  | directory {a : Address} {directory name path : String} {contents : Bytes}
      (hdirectory : t.node? (a ++ [name]) = some .directory)
      (hrest : LeadsTo t (a ++ [name]) (Path.join directory name) path contents) :
      LeadsTo t a directory path contents

/-- There is a file with the path below the directory. -/
def FileBelow (t : FileTree) (directory path : String) (contents : Bytes) : Prop :=
  ∃ a, t.locate directory = .ok a ∧ t.LeadsTo a directory path contents

/-! ### Addresses of files -/

/-- What lies below an address lies below a directory. -/
theorem Rooted.directory_of_append (h : t.Rooted) {names : List String} (hnames : names ≠ [])
    (hsome : (t.node? (a ++ names)).isSome = true) : t.node? a = some .directory := by
  induction names using List.reverseRecOn with
  | nil => exact absurd rfl hnames
  | append_singleton front name ih =>
    rw [← List.append_assoc] at hsome
    have hfront := h _ _ hsome
    by_cases hnil : front = []
    · rwa [hnil, List.append_nil] at hfront
    · exact ih hnil (by rw [hfront]; rfl)

/-- The files below a directory are those at longer addresses. The names that are added to the
address are added to the path. -/
theorem Rooted.leadsTo_iff (h : t.Rooted) :
    t.LeadsTo a directory path contents ↔ ∃ names, names ≠ [] ∧
      t.node? (a ++ names) = some (.file contents) ∧ path = names.foldl Path.join directory := by
  constructor
  · intro hpath
    induction hpath with
    | @file a directory name contents hfile => exact ⟨[name], by simp, hfile, rfl⟩
    | @directory a directory name path contents hdirectory hrest ih =>
      obtain ⟨names, -, hfile, rfl⟩ := ih
      rw [List.append_assoc] at hfile
      exact ⟨name :: names, by simp, hfile, rfl⟩
  · rintro ⟨names, hnames, hfile, rfl⟩
    induction names generalizing a directory with
    | nil => exact absurd rfl hnames
    | cons name names ih =>
      rw [List.foldl_cons]
      by_cases hnil : names = []
      · subst hnil
        exact .file hfile
      · -- there is more below this name, so it is that of a directory
        rw [List.append_cons] at hfile
        have hdirectory := h.directory_of_append hnil (by rw [hfile]; rfl)
        exact .directory hdirectory (ih hnil hfile)

/-! ### Reading files -/

/-- A path means a directory when it leads to one. -/
theorem isDirectory_iff :
    t.isDirectory path = true ↔ ∃ a, t.locate path = .ok a ∧ t.node? a = some .directory := by
  rw [isDirectory]
  cases t.locate path with
  | error e => simp
  | ok a => simp

/-- The parts of a path lead to what the path does: a slash at its end asks for no more than a
directory. -/
theorem walk_parts_of_locate (h : t.locate path = .ok a) :
    path ≠ "" ∧ t.walk path (Path.parts path) = .ok a := by
  rw [locate] at h
  split at h
  next => cases h
  next hpath =>
    refine ⟨hpath, ?_⟩
    split at h
    next =>
      obtain ⟨b, hwalk, hstep⟩ := walk_concat_eq_ok_iff.1 h
      obtain ⟨-, hb⟩ := step_eq_ok_iff.1 hstep
      obtain rfl : a = b := by simpa using hb
      exact hwalk
    next => rwa [List.append_nil] at h

/-- With a name after it, the path of a directory leads to what has this name in the directory. -/
theorem WellFormed.locate_join (h : t.WellFormed) (hlocate : t.locate directory = .ok a)
    (hdirectory : t.node? a = some .directory) (hsome : (t.node? (a ++ [name])).isSome = true) :
    t.locate (Path.join directory name) = .ok (a ++ [name]) := by
  have hname := h.isName_of_concat hsome
  obtain ⟨hpath, hwalk⟩ := walk_parts_of_locate hlocate
  rw [locate, if_neg (hname.join_ne_empty directory), hname.endsWithSlash_join, if_neg (by simp),
    List.append_nil, hname.parts_join, walk_concat_eq_ok_iff]
  refine ⟨a, ?_, ?_⟩
  · rw [walk, hname.isAbsolute_join hpath]
    exact hwalk
  · exact step_eq_ok_iff.2
      ⟨hdirectory, .inr (.inr ⟨hname.ne_dot, hname.ne_dots, rfl, hsome⟩)⟩

/-- By its path, the file is read that one comes to. -/
theorem LeadsTo.contentsOf_eq (hpath : t.LeadsTo a directory path contents) (h : t.WellFormed)
    (hlocate : t.locate directory = .ok a) (hdirectory : t.node? a = some .directory) :
    t.contentsOf path = .ok contents := by
  induction hpath with
  | file hfile =>
    have hjoin := h.locate_join hlocate hdirectory (by rw [hfile]; rfl)
    exact contentsOf_eq_ok_iff.2 ⟨_, hjoin, hfile⟩
  | directory hnext _ ih =>
    exact ih (h.locate_join hlocate hdirectory (by rw [hnext]; rfl)) hnext

/-! ### Listing files -/

/-- The files that are listed from a directory are those at longer addresses. -/
theorem WellFormed.mem_filesFrom_iff (h : t.WellFormed) (hdirectory : t.node? a = some .directory)
    {b : Address} : (b, contents) ∈ t.filesFrom a ↔
      ∃ names, names ≠ [] ∧ t.node? (a ++ names) = some (.file contents) ∧ b = a ++ names := by
  rw [filesFrom, List.mem_filterMap]
  constructor
  · rintro ⟨⟨c, node⟩, hmem, hfile⟩
    cases node with
    | directory => cases hfile
    | file found =>
      obtain ⟨hbegins, heq⟩ := Option.ite_none_right_eq_some.1 hfile
      cases heq
      obtain ⟨names, rfl⟩ := List.isPrefixOf_iff_prefix.1 hbegins
      have hnode : t.node? (a ++ names) = some (.file contents) := by
        rw [node?, if_neg (h.isName _ hmem).1, Table.mem_entries_iff.1 hmem]
      refine ⟨names, ?_, hnode, rfl⟩
      rintro rfl
      rw [List.append_nil, hdirectory] at hnode
      cases hnode
  · rintro ⟨names, hnames, hfile, rfl⟩
    rw [node?, if_neg (by simp [hnames])] at hfile
    refine ⟨(a ++ names, .file contents), Table.mem_entries_iff.2 hfile, ?_⟩
    exact if_pos (List.isPrefixOf_iff_prefix.2 (List.prefix_append a names))

/-- They are listed in the order of their addresses. -/
theorem filesFrom_ascending (t : FileTree) (a : Address) :
    (t.filesFrom a).Pairwise fun d e => compare d.1 e.1 = .lt := by
  refine t.nodes.ascending.filterMap _ ?_
  rintro ⟨b, node⟩ ⟨b', node'⟩ hlt d hd d' hd'
  cases node with
  | directory => cases hd
  | file found =>
    cases node' with
    | directory => cases hd'
    | file found' =>
      -- files are listed under their addresses
      obtain ⟨-, heq⟩ := Option.ite_none_right_eq_some.1 hd
      obtain ⟨-, heq'⟩ := Option.ite_none_right_eq_some.1 hd'
      cases heq
      cases heq'
      exact hlt

/-- The listing of a directory has the paths of the files that one comes to from there, in the order
of their parts. -/
theorem WellFormed.exists_filesUnder (h : t.WellFormed) (hlocate : t.locate directory = .ok a)
    (hdirectory : t.node? a = some .directory) :
    ∃ paths, t.filesUnder directory = .ok paths ∧ paths.Pairwise Path.Before ∧
      ∀ path, path ∈ paths ↔ ∃ contents, t.LeadsTo a directory path contents := by
  have hpath := (walk_parts_of_locate hlocate).1
  have hnames : ∀ {names contents}, t.node? (a ++ names) = some (.file contents) →
      ∀ name ∈ names, Path.IsName name := fun hfile name hname =>
    h.isName_of_mem (by rw [hfile]; rfl) name (List.mem_append_right a hname)
  refine ⟨(t.filesFrom a).map fun e => (e.1.drop a.length).foldl Path.join directory, ?_, ?_, ?_⟩
  · rw [filesUnder, filesBelow, hlocate]
    change (if t.node? a ≠ some .directory then _ else _ : Except FileFault _).mapError _ = _
    rw [if_neg (not_not.2 hdirectory)]
    rfl
  · refine List.pairwise_map.2 ((filesFrom_ascending t a).imp_of_mem ?_)
    rintro ⟨b, found⟩ ⟨b', found'⟩ hb hb' hlt
    obtain ⟨names, -, hfile, rfl⟩ := (h.mem_filesFrom_iff hdirectory).1 hb
    obtain ⟨names', -, hfile', rfl⟩ := (h.mem_filesFrom_iff hdirectory).1 hb'
    -- addresses and paths only differ in what comes before the names
    rw [Path.compare_append_left] at hlt
    rw [List.drop_left, List.drop_left, Path.Before,
      Path.components_foldl_join (hnames hfile) hpath,
      Path.components_foldl_join (hnames hfile') hpath, Path.compare_append_left]
    exact hlt
  · intro path
    simp only [h.rooted.leadsTo_iff, List.mem_map, Prod.exists, h.mem_filesFrom_iff hdirectory]
    constructor
    · rintro ⟨_, contents, ⟨names, hnames, hfile, rfl⟩, rfl⟩
      exact ⟨contents, names, hnames, hfile, by rw [List.drop_left]⟩
    · rintro ⟨contents, names, hnames, hfile, rfl⟩
      exact ⟨_, contents, ⟨names, hnames, hfile, rfl⟩, by rw [List.drop_left]⟩

end FileTree

end RoutingData
