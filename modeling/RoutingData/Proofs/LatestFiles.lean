import RoutingData.AddressLists
import RoutingData.Proofs.FileTree.Descent
import RoutingData.Proofs.Reading

/-!
# The last file of each name

Domain lists and address lists are loaded in the same way, which a `FileKind` describes: by its path
a file has a name, its text says something, and some names are taken by what is built in. All files
below a directory are read in the order of their paths, so the first one that cannot be read decides
the failure. What a file says takes the place of what an earlier one of the same name said: each
file is one step (`FileKind.isLatest_concat`), and after all of them the last one of each name is
left (`FileKind.get?_of_loadEach`).

## Main results

* `FileKind.loadsLast_load`: what is loaded from a listing of files;
* `FileKind.last_of_each_name`: what is loaded from a directory, for both kinds of lists.
-/

namespace RoutingData

/-- How files are loaded. -/
structure FileKind (α : Type) where
  /-- The name of what a file with the path is for. -/
  name (path : String) : String
  /-- What the text of the file says. A failure tells the path. -/
  parse (path text : String) : Except BuildError α
  /-- What is there without a file. Files with these names are not read. -/
  builtIn : Table String α := ∅

namespace FileKind

/-- Files with domain lists. -/
def domainLists : FileKind DomainList where
  name := DomainList.nameOfFile
  parse path := DomainList.parseFrom path (DomainList.nameOfFile path)

/-- Files with address lists. -/
def addressLists : FileKind (List Net) where
  name := AddressLists.nameOfFile
  parse _ text := .ok (AddressLists.readNets text)
  builtIn := (∅ : AddressLists).insert Net.reservedName Net.reserved

variable {α : Type} {k : FileKind α} {t : FileTree} {directory path a : String} {x : α}
  {contents : Bytes} {paths : List String} {table : Table String α} {e : BuildError}

/-! ### What is loaded -/

/-- A file with the path is read. -/
def Reads (k : FileKind α) (path : String) : Prop := k.name path ∉ k.builtIn.keys

/-- What is read from a file with the contents. -/
def read (k : FileKind α) (path : String) (contents : Bytes) : Except BuildError α :=
  match contents.text? with
  | some text => k.parse path text
  | none => .error (.io path .notText)

/-- Of some files, the one with the path is the last one with the name. -/
structure IsLatest (k : FileKind α) (among : String → Prop) (a path : String) : Prop where
  /-- It is one of them. -/
  mem : among path
  /-- It has the name. -/
  name_eq : k.name path = a
  /-- The others with the name come before it. -/
  before : ∀ other, among other → k.name other = a → other = path ∨ Path.Before other path

/-- Files are loaded: each of them that is not for something built in is read, and the last one of
each name counts. -/
structure LoadsLast (k : FileKind α) (isFile : String → Bytes → Prop)
    (loaded : Except BuildError (Table String α)) : Prop where
  /-- Loading succeeds when every file that is read can be read. -/
  exists_iff : (∃ table, loaded = .ok table) ↔
    ∀ path contents, isFile path contents → k.Reads path → ∃ x, k.read path contents = .ok x
  /-- Otherwise it fails as the first file does that cannot be read. -/
  error_iff : ∀ e, loaded = .error e ↔
    ∃ path contents, isFile path contents ∧ k.Reads path ∧ k.read path contents = .error e ∧
      ∀ earlier contents, isFile earlier contents → k.Reads earlier → Path.Before earlier path →
        ∃ x, k.read earlier contents = .ok x
  /-- The names are those of the files and of what is built in. -/
  mem_keys_iff : ∀ table, loaded = .ok table → ∀ a, a ∈ table.keys ↔
    a ∈ k.builtIn.keys ∨ ∃ path contents, isFile path contents ∧ k.name path = a
  /-- Under a name stands what is built in, or else what the last file of the name says. -/
  get?_iff : ∀ table, loaded = .ok table → ∀ a x, table.get? a = some x ↔
    k.builtIn.get? a = some x ∨ a ∉ k.builtIn.keys ∧ ∃ path contents,
      isFile path contents ∧ k.read path contents = .ok x ∧
        k.IsLatest (fun other => ∃ contents, isFile other contents) a path

/-! ### Loading -/

/-- What the file with the path says. -/
def loadFile (k : FileKind α) (t : FileTree) (path : String) : Except BuildError α := do
  k.parse path (← t.textOf path)

/-- What files say, under their names; later files win. -/
def loadEach (k : FileKind α) (t : FileTree) (paths : List String) :
    Except BuildError (Table String α) :=
  (paths.mapM fun path => (k.loadFile t path).map (k.name path, ·)).map .ofList

/-- What files say, and what is built in. -/
def withBuiltIn (k : FileKind α) (found : Table String α) : Table String α :=
  k.builtIn.entries.foldl (fun table e => table.insert e.1 e.2) found

/-- What the files below a directory say, and what is built in. -/
def load (k : FileKind α) (t : FileTree) (directory : String) :
    Except BuildError (Table String α) := do
  let paths ← t.filesUnder directory
  (k.loadEach t (paths.filter fun path => k.name path ∉ k.builtIn.keys)).map k.withBuiltIn

/-- What is built in stands under its names. -/
theorem get?_withBuiltIn : (k.withBuiltIn table).get? a = some x ↔
    k.builtIn.get? a = some x ∨ a ∉ k.builtIn.keys ∧ table.get? a = some x := by
  rw [withBuiltIn, Table.get?_foldl_insert k.builtIn.keys_nodup, Table.mem_entries_iff, Table.keys]

/-- The names are those of the files and of what is built in. -/
theorem mem_keys_withBuiltIn :
    a ∈ (k.withBuiltIn table).keys ↔ a ∈ k.builtIn.keys ∨ a ∈ table.keys := by
  simp only [Table.mem_keys_iff, get?_withBuiltIn, exists_or, exists_and_left]
  exact or_and_left.trans (and_iff_right (Classical.em _))

/-- What a file says depends on its contents. -/
theorem loadFile_eq (h : t.contentsOf path = .ok contents) :
    k.loadFile t path = k.read path contents := by
  have htext : t.textOf path =
      (match contents.text? with
        | some text => pure text
        | none => throw .notText : Except FileFault String).mapError (.io path) := by
    rw [FileTree.textOf, FileTree.readText, mapError_eq_ok_iff.1 h]
    rfl
  rw [loadFile, htext, read]
  cases contents.text? with
  | none => rfl
  | some text => rfl

/-- Files can be loaded when each of them can. -/
theorem exists_loadEach_eq_ok_iff :
    (∃ table, k.loadEach t paths = .ok table) ↔
      ∀ path ∈ paths, ∃ x, k.loadFile t path = .ok x := by
  rw [loadEach, exists_map_eq_ok_iff, exists_mapM_eq_ok_iff]
  simp only [exists_map_eq_ok_iff]

/-- Otherwise the first one that cannot be loaded decides the failure. -/
theorem loadEach_eq_error_iff (hsorted : paths.Pairwise Path.Before) :
    k.loadEach t paths = .error e ↔ ∃ path ∈ paths, k.loadFile t path = .error e ∧
      ∀ earlier ∈ paths, Path.Before earlier path → ∃ x, k.loadFile t earlier = .ok x := by
  rw [loadEach, map_eq_error_iff, mapM_eq_error_iff]
  simp only [exists_map_eq_ok_iff, map_eq_error_iff]
  constructor
  · rintro ⟨front, path, back, rfl, hfront, hpath⟩
    refine ⟨path, by simp, hpath, fun earlier hearlier hbefore => ?_⟩
    exact hfront earlier ((Path.before_iff_mem_front hsorted hearlier).1 hbefore)
  · rintro ⟨path, hmem, hpath, hearlier⟩
    obtain ⟨front, back, rfl⟩ := List.append_of_mem hmem
    refine ⟨front, path, back, rfl, fun earlier hfront => ?_, hpath⟩
    have hmem := List.mem_append_left (path :: back) hfront
    exact hearlier earlier hmem ((Path.before_iff_mem_front hsorted hmem).2 hfront)

/-! ### One file after the other -/

/-- One more file takes its place in the table. -/
theorem loadEach_concat_eq_ok_iff :
    k.loadEach t (paths ++ [path]) = .ok table ↔ ∃ earlier x, k.loadEach t paths = .ok earlier ∧
      k.loadFile t path = .ok x ∧ table = earlier.insert (k.name path) x := by
  rw [loadEach, loadEach, List.mapM_append]
  cases paths.mapM fun path => (k.loadFile t path).map (k.name path, ·) with
  | error e => simp [Except.map, bind, Except.bind]
  | ok pairs =>
    cases hpath : k.loadFile t path with
    | error e => simp [Except.map, bind, Except.bind, hpath]
    | ok x =>
      simp [Except.map, bind, Except.bind, pure, Except.pure, hpath, Table.ofList, eq_comm]

/-- One more file, which comes after the others, is the last one with its name. For other names it
does not matter. -/
theorem isLatest_concat (hpath : ∀ other ∈ paths, Path.Before other path) {latest : String} :
    k.IsLatest (· ∈ paths ++ [path]) a latest ↔
      if k.name path = a then latest = path else k.IsLatest (· ∈ paths) a latest := by
  have hmem : ∀ other, other ∈ paths ++ [path] ↔ other ∈ paths ∨ other = path := by simp
  split
  next hname =>
    constructor
    · intro h
      rcases (hmem latest).1 h.mem with hlatest | rfl
      · rcases h.before path ((hmem path).2 (.inr rfl)) hname with rfl | hbefore
        · rfl
        · exact absurd hbefore (hpath latest hlatest).asymm
      · rfl
    · rintro rfl
      refine ⟨(hmem latest).2 (.inr rfl), hname, fun other hother _ => ?_⟩
      exact ((hmem other).1 hother).symm.imp_right (hpath other)
  next hname =>
    constructor
    · intro h
      refine ⟨?_, h.name_eq, fun other hother => h.before other ((hmem other).2 (.inl hother))⟩
      rcases (hmem latest).1 h.mem with hlatest | rfl
      · exact hlatest
      · exact absurd h.name_eq hname
    · intro h
      refine ⟨(hmem latest).2 (.inl h.mem), h.name_eq, fun other hother hother_name => ?_⟩
      rcases (hmem other).1 hother with hother | rfl
      · exact h.before other hother hother_name
      · exact absurd hother_name hname

/-- Of the files with a name, one is the last. -/
theorem exists_isLatest_iff (hsorted : paths.Pairwise Path.Before) :
    (∃ latest, k.IsLatest (· ∈ paths) a latest) ↔ ∃ path ∈ paths, k.name path = a := by
  constructor
  · exact fun ⟨latest, h⟩ => ⟨latest, h.mem, h.name_eq⟩
  · rintro ⟨path, hmem, hname⟩
    induction paths using List.reverseRecOn with
    | nil => cases hmem
    | append_singleton front last ih =>
      obtain ⟨hfront, -, hlast⟩ := List.pairwise_append.1 hsorted
      simp only [isLatest_concat fun other hother => hlast other hother last (by simp)]
      split
      next => exact ⟨last, rfl⟩
      next hne =>
        refine ih hfront ?_
        rcases List.mem_append.1 hmem with hmem | hmem
        · exact hmem
        · rw [List.mem_singleton.1 hmem] at hname
          exact absurd hname hne

/-- After all files, each name has what the last file with the name says. -/
theorem get?_of_loadEach (hsorted : paths.Pairwise Path.Before)
    (h : k.loadEach t paths = .ok table) :
    table.get? a = some x ↔
      ∃ path, k.IsLatest (· ∈ paths) a path ∧ k.loadFile t path = .ok x := by
  induction paths using List.reverseRecOn generalizing table with
  | nil =>
    cases h
    exact iff_of_false nofun fun ⟨path, hlatest, _⟩ => absurd hlatest.mem List.not_mem_nil
  | append_singleton front last ih =>
    obtain ⟨earlier, y, hearlier, hlast, rfl⟩ := loadEach_concat_eq_ok_iff.1 h
    obtain ⟨hfront, -, hbefore⟩ := List.pairwise_append.1 hsorted
    simp only [isLatest_concat fun other hother => hbefore other hother last (by simp)]
    rw [Table.get?_insert]
    by_cases hname : k.name last = a
    · rw [if_pos hname.symm]
      simp [hname, hlast]
    · rw [if_neg (Ne.symm hname), ih hfront hearlier]
      simp [hname]

/-- The names are those of the files. -/
theorem mem_keys_of_loadEach (hsorted : paths.Pairwise Path.Before)
    (h : k.loadEach t paths = .ok table) :
    a ∈ table.keys ↔ ∃ path ∈ paths, k.name path = a := by
  have hall := exists_loadEach_eq_ok_iff.1 ⟨table, h⟩
  simp only [Table.mem_keys_iff, get?_of_loadEach hsorted h, ← exists_isLatest_iff hsorted]
  constructor
  · exact fun ⟨_, latest, hlatest, _⟩ => ⟨latest, hlatest⟩
  · rintro ⟨latest, hlatest⟩
    obtain ⟨x, hx⟩ := hall latest hlatest.mem
    exact ⟨x, latest, hlatest, hx⟩

/-- Which of some files is the last one with a name depends on the files with this name. -/
theorem isLatest_congr {among among' : String → Prop}
    (h : ∀ path, k.name path = a → (among path ↔ among' path)) :
    k.IsLatest among a path ↔ k.IsLatest among' a path := by
  have himp : ∀ {among among' : String → Prop},
      (∀ path, k.name path = a → (among path ↔ among' path)) →
        k.IsLatest among a path → k.IsLatest among' a path := fun h hlatest =>
    ⟨(h path hlatest.name_eq).1 hlatest.mem, hlatest.name_eq, fun other hother hname =>
      hlatest.before other ((h other hname).2 hother) hname⟩
  exact ⟨himp h, himp fun path hname => (h path hname).symm⟩

/-! ### Listings -/

/-- The files that are read are listed by their paths and in their order. -/
structure Listing (k : FileKind α) (t : FileTree) (isFile : String → Bytes → Prop)
    (paths : List String) : Prop where
  /-- The order is that of paths. -/
  sorted : paths.Pairwise Path.Before
  /-- All files are listed that are read. -/
  mem_iff : ∀ path, path ∈ paths ↔ (∃ contents, isFile path contents) ∧ k.Reads path
  /-- By the path of a file its contents are read. -/
  loadFile_eq : ∀ path contents, isFile path contents →
    k.loadFile t path = k.read path contents

namespace Listing

variable {isFile : String → Bytes → Prop}

/-- What holds of all files that are listed holds of all that are read. -/
theorem forall_iff (h : k.Listing t isFile paths)
    (P : String → Except BuildError α → Prop) :
    (∀ path ∈ paths, P path (k.loadFile t path)) ↔
      ∀ path contents, isFile path contents → k.Reads path → P path (k.read path contents) := by
  constructor
  · intro hall path contents hpath hreads
    rw [← h.loadFile_eq path contents hpath]
    exact hall path ((h.mem_iff path).2 ⟨⟨contents, hpath⟩, hreads⟩)
  · intro hall path hmem
    obtain ⟨⟨contents, hpath⟩, hreads⟩ := (h.mem_iff path).1 hmem
    rw [h.loadFile_eq path contents hpath]
    exact hall path contents hpath hreads

/-- What holds of a file that is listed holds of one that is read. -/
theorem exists_iff (h : k.Listing t isFile paths)
    (P : String → Except BuildError α → Prop) :
    (∃ path ∈ paths, P path (k.loadFile t path)) ↔
      ∃ path contents, isFile path contents ∧ k.Reads path ∧ P path (k.read path contents) := by
  constructor
  · rintro ⟨path, hmem, hP⟩
    obtain ⟨⟨contents, hpath⟩, hreads⟩ := (h.mem_iff path).1 hmem
    rw [h.loadFile_eq path contents hpath] at hP
    exact ⟨path, contents, hpath, hreads, hP⟩
  · rintro ⟨path, contents, hpath, hreads, hP⟩
    rw [← h.loadFile_eq path contents hpath] at hP
    exact ⟨path, (h.mem_iff path).2 ⟨⟨contents, hpath⟩, hreads⟩, hP⟩

/-- If the name is not built in, the last file with it is the last one that is listed. -/
theorem isLatest_iff (h : k.Listing t isFile paths) (ha : a ∉ k.builtIn.keys) :
    k.IsLatest (· ∈ paths) a path ↔
      k.IsLatest (fun other => ∃ contents, isFile other contents) a path := by
  refine isLatest_congr fun other hname => ?_
  rw [h.mem_iff, Reads, hname]
  exact and_iff_left ha

/-- From a listing, the last file of each name is loaded. -/
theorem loadsLast (h : k.Listing t isFile paths) :
    k.LoadsLast isFile ((k.loadEach t paths).map k.withBuiltIn) := by
  constructor
  · rw [exists_map_eq_ok_iff, exists_loadEach_eq_ok_iff]
    exact h.forall_iff fun _ result => ∃ x, result = .ok x
  · intro e
    rw [map_eq_error_iff, loadEach_eq_error_iff h.sorted]
    have hearlier := fun path => h.forall_iff fun earlier result =>
      Path.Before earlier path → ∃ x, result = .ok x
    simp only [hearlier]
    exact h.exists_iff fun path result => result = .error e ∧ _
  · intro table htable a
    obtain ⟨found, hfound, rfl⟩ := map_eq_ok_iff.1 htable
    have hfiles := h.exists_iff fun path _ => k.name path = a
    rw [mem_keys_withBuiltIn, mem_keys_of_loadEach h.sorted hfound, hfiles]
    -- a file that is not read has a name that is built in
    by_cases ha : a ∈ k.builtIn.keys
    · simp only [ha, true_or]
    · refine or_congr_right (exists₂_congr fun path contents => and_congr_right fun _ => ?_)
      exact and_iff_right_of_imp fun hname => by rwa [Reads, hname]
  · intro table htable a x
    obtain ⟨found, hfound, rfl⟩ := map_eq_ok_iff.1 htable
    rw [get?_withBuiltIn]
    refine or_congr_right (and_congr_right fun ha => ?_)
    rw [get?_of_loadEach h.sorted hfound]
    simp only [h.isLatest_iff ha]
    constructor
    · rintro ⟨path, hlatest, hx⟩
      obtain ⟨contents, hcontents⟩ := hlatest.mem
      rw [h.loadFile_eq path contents hcontents] at hx
      exact ⟨path, contents, hcontents, hx, hlatest⟩
    · rintro ⟨path, contents, hcontents, hx, hlatest⟩
      rw [← h.loadFile_eq path contents hcontents] at hx
      exact ⟨path, hlatest, hx⟩

end Listing

/-! ### Directories -/

/-- From the files below a directory, the last one of each name is loaded. -/
theorem loadsLast_load (k : FileKind α) (ht : t.WellFormed)
    (hdirectory : t.isDirectory directory = true) :
    k.LoadsLast (t.FileBelow directory) (k.load t directory) := by
  obtain ⟨a, hlocate, hnode⟩ := FileTree.isDirectory_iff.1 hdirectory
  obtain ⟨paths, hlisted, hsorted, hmem⟩ := ht.exists_filesUnder hlocate hnode
  have hbelow : ∀ path contents,
      t.FileBelow directory path contents ↔ t.LeadsTo a directory path contents := by
    intro path contents
    simp only [FileTree.FileBelow, hlocate, Except.ok.injEq, exists_eq_left']
  have hload : k.load t directory =
      (k.loadEach t (paths.filter fun path => k.name path ∉ k.builtIn.keys)).map k.withBuiltIn := by
    rw [load, hlisted]
    rfl
  rw [hload]
  refine Listing.loadsLast ⟨hsorted.filter _, fun path => ?_, fun path contents hpath => ?_⟩
  · simp only [List.mem_filter, hmem, hbelow, decide_eq_true_iff, Reads]
  · exact loadFile_eq (((hbelow path contents).1 hpath).contentsOf_eq ht hlocate hnode)

/-- A list that was loaded has the name of its file. -/
theorem name_of_load {l : DomainList} (h : DomainList.load t path = .ok l) :
    l.name = DomainList.nameOfFile path := by
  obtain ⟨text, -, hparse⟩ := bind_eq_ok_iff.1 h
  rw [(DomainList.fresh_of_parseFrom hparse).2, DomainList.nameOfFile, Text.upper_upper]

/-- Lists that are added to a registry under their names are put under those of their files. -/
theorem loadEach_domainLists (t : FileTree) (paths : List String) :
    domainLists.loadEach t paths =
      (paths.mapM (DomainList.load t)).map (List.foldl Registry.add ∅) := by
  have hname : ∀ path, (domainLists.loadFile t path).map (domainLists.name path, ·) =
      (DomainList.load t path).map fun l => (l.name, l) := by
    intro path
    change (DomainList.load t path).map (DomainList.nameOfFile path, ·) = _
    cases hload : DomainList.load t path with
    | error e => simp only [Except.map]
    | ok l =>
      rw [← name_of_load hload]
      rfl
  simp only [loadEach, hname, mapM_map]
  cases paths.mapM (DomainList.load t) with
  | error e => rfl
  | ok lists => exact congrArg Except.ok List.foldl_map

/-- A directory of domain lists is loaded as one of files with domain lists. -/
theorem load_domainLists (t : FileTree) (directory : String) :
    domainLists.load t directory = Registry.load t directory := by
  -- nothing is built in, so every file is read
  have hall : ∀ paths : List String,
      paths.filter (fun path => domainLists.name path ∉ domainLists.builtIn.keys) = paths :=
    fun paths => List.filter_eq_self.2 fun path _ => rfl
  have hlists : ∀ paths : List String,
      (domainLists.loadEach t
          (paths.filter fun path => domainLists.name path ∉ domainLists.builtIn.keys)).map
            domainLists.withBuiltIn =
        (do return (← paths.mapM (DomainList.load t)).foldl Registry.add ∅) := by
    intro paths
    rw [hall, loadEach_domainLists]
    cases paths.mapM (DomainList.load t) with
    | error e => rfl
    | ok lists => rfl
  rw [Registry.load, load]
  exact congrArg (t.filesUnder directory >>= ·) (funext hlists)

/-- Files of networks are read unless they have the name of the reserved ones. -/
theorem filter_reads_addressLists (paths : List String) :
    paths.filter (fun path => addressLists.name path ∉ addressLists.builtIn.keys) =
      paths.filter fun path => AddressLists.nameOfFile path ≠ Net.reservedName := by
  have hname : addressLists.name = AddressLists.nameOfFile := rfl
  have hkeys : addressLists.builtIn.keys = [Net.reservedName] := rfl
  refine List.filter_congr fun path _ => ?_
  rw [hname, hkeys, decide_eq_decide, List.mem_singleton]

/-- A directory of address lists is loaded as one of files with address lists. -/
theorem load_addressLists (t : FileTree) (directory : String) :
    addressLists.load t directory = AddressLists.load t directory := by
  have hname : addressLists.name = AddressLists.nameOfFile := rfl
  have hfile : (fun path => (addressLists.loadFile t path).map (AddressLists.nameOfFile path, ·)) =
      fun path => do return (AddressLists.nameOfFile path, ← AddressLists.loadNets t path) := by
    ext1 path
    rw [loadFile, AddressLists.loadNets]
    cases t.textOf path with
    | error e => rfl
    | ok text => rfl
  have hlists : ∀ paths : List String,
      (addressLists.loadEach t
          (paths.filter fun path => addressLists.name path ∉ addressLists.builtIn.keys)).map
            addressLists.withBuiltIn =
        (do
          let lists ← ((paths.map fun path => (AddressLists.nameOfFile path, path)).filter
            (·.1 ≠ Net.reservedName)).mapM fun file =>
              return (file.1, ← AddressLists.loadNets t file.2)
          return (Table.ofList lists).insert Net.reservedName Net.reserved) := by
    intro paths
    rw [List.filter_map, List.mapM_map, filter_reads_addressLists, loadEach, hname, hfile]
    simp only [Function.comp_def]
    -- from here on it does not matter what was read
    generalize List.mapM (m := Except BuildError) _ _ = pairs
    cases pairs with
    | error e => rfl
    | ok pairs => rfl
  rw [AddressLists.load, load]
  exact congrArg (t.filesUnder directory >>= ·) (funext hlists)

/-- From a directory, the last file of each name is loaded: of the files below it that have the
name, the one whose path comes last. If a file cannot be read, the first such file in the order of
paths decides the failure, also when a later one has its name. The reserved networks are always
there, and files with their name are not read. -/
theorem last_of_each_name (t : FileTree) (directory : String) (ht : t.WellFormed)
    (hdirectory : t.isDirectory directory = true) :
    domainLists.LoadsLast (t.FileBelow directory) (Registry.load t directory) ∧
    (∀ r, Registry.load t directory = .ok r → r.Keyed) ∧
    addressLists.LoadsLast (t.FileBelow directory) (AddressLists.load t directory) ∧
    ∀ lists, AddressLists.load t directory = .ok lists →
      lists.get? Net.reservedName = some Net.reserved := by
  have hdomains := domainLists.loadsLast_load ht hdirectory
  have haddresses := addressLists.loadsLast_load ht hdirectory
  rw [load_domainLists] at hdomains
  rw [load_addressLists] at haddresses
  refine ⟨hdomains, fun r hr => (Registry.parsed_of_load hr).keyed, haddresses, ?_⟩
  intro lists hlists
  rw [haddresses.get?_iff lists hlists]
  exact .inl (Table.get?_insert_self _ _ _)

/-- Two files of one name, of which only the later one is a domain list, and one for the reserved
networks that is no text. -/
def shelf : FileTree where
  nodes := .ofList [
    (["data"], .directory),
    (["data", "a"], .directory),
    (["data", "a", "cn"], .file (.ofText "foo:x\n10.0.0.0/8\n")),
    (["data", "a.b"], .directory),
    (["data", "a.b", "Cn"], .file (.ofText "192.0.2.7/24")),
    (["data", "private.txt"], .file [0xFF])]

/-- Both kinds of lists are loaded from the shelf in this way. -/
theorem last_of_each_name_shelf :
    shelf.WellFormed ∧ shelf.isDirectory "data" = true ∧
      shelf.FileBelow "data" "data/a.b/Cn" (.ofText "192.0.2.7/24") ∧
      domainLists.LoadsLast (shelf.FileBelow "data") (Registry.load shelf "data") ∧
      (∀ r, Registry.load shelf "data" = .ok r → r.Keyed) ∧
      addressLists.LoadsLast (shelf.FileBelow "data") (AddressLists.load shelf "data") ∧
      ∀ lists, AddressLists.load shelf "data" = .ok lists →
        lists.get? Net.reservedName = some Net.reserved := by
  have hshelf : shelf.WellFormed := by decide +kernel
  have hdirectory : shelf.isDirectory "data" = true := by decide +kernel
  have hlocate : shelf.locate "data" = .ok ["data"] := by decide +kernel
  have hinner : shelf.node? (["data"] ++ ["a.b"]) = some .directory := by decide +kernel
  have hfile : shelf.node? (["data", "a.b"] ++ ["Cn"]) = some (.file (.ofText "192.0.2.7/24")) := by
    decide +kernel
  exact ⟨hshelf, hdirectory, ⟨["data"], hlocate, .directory hinner (.file hfile)⟩,
    last_of_each_name shelf "data" hshelf hdirectory⟩

-- the first file decides the failure, though the second one has its name
example : Registry.load shelf "data" = .error (.line "data/a/cn" 1 (.unknownKind "foo")) := by
  decide +kernel

-- the second one is the last, though a point comes before a slash
example : AddressLists.load shelf "data" =
    .ok (.ofList [("CN", [Net.dotted 192 0 2 0 24]), (Net.reservedName, Net.reserved)]) := by
  decide +kernel

end FileKind

end RoutingData
