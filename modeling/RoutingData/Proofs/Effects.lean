import RoutingData.Build
import RoutingData.Proofs.FileTree.WellFormed
import RoutingData.Proofs.RoundTrip

/-!
# What a build changes

Overrides only edit the two rule files (`Settings.edited_applyOverrides`). Then the lists are
compiled, which changes nothing, and only after that a build writes. It writes two files
(`Settings.exists_of_writeDataset`) and reads the first of them twice: for the checksum and for the
check at the end. Both times it reads what was written, since the checksum file is called otherwise
and so lies at an address of its own (`Settings.checksum_ne`). So what is checked is a dataset that
was encoded, and such a dataset can be loaded (`Settings.buildWith_of_ok`). What each of these steps
keeps is kept by a whole run, also when it fails (`Settings.along_run`). So trees that directories
and files can make stay like that (`Settings.wellFormed_run`).
-/

namespace RoutingData

/-! ### Overrides -/

section Overrides

open FileAction FileTree

variable {paths : List String} {path : String} {R : FileTree → FileTree → Prop}

/-- Editing a file edits no other one, whether it succeeds or not. -/
theorem FileAction.along_edit (hpath : path ∈ paths) (change : String → String) :
    Along (Edited paths) (edit path change) := by
  intro t
  have hlook : (look (·.textOf path)).run.run t = (t.textOf path, t) := rfl
  unfold edit
  rw [run_bind, hlook]
  cases htext : t.textOf path with
  | error e => exact .refl paths t
  | ok text =>
    -- the file can be read, so what is written takes its place
    obtain ⟨old, hold, -⟩ := textOf_eq_ok_iff.1 htext
    change Edited paths t (write path (.ofText (change text)) t).2
    unfold write
    split
    next hwrite => exact .of_write hpath hold hwrite
    next => exact .refl paths t

/-- Overrides edit the two rule files, a few times each or not at all. -/
theorem Settings.along_applyOverrides (s : Settings) (hrefl : ∀ t, R t t)
    (htrans : ∀ {t t' t''}, R t t' → R t' t'' → R t t'')
    (hedit : ∀ path ∈ [s.directPath, s.proxyPath], ∀ change, Along R (edit path change)) :
    Along R s.applyOverrides := by
  have hedits : ∀ (edits : LineEdits), ∀ path ∈ [s.directPath, s.proxyPath],
      Along R (edits.apply path) := fun edits path hpath =>
    along_bind htrans (hedit path hpath _) fun _ => hedit path hpath _
  refine along_bind htrans (along_look hrefl _) fun o => ?_
  cases o with
  | none => exact along_pure hrefl ()
  | some o =>
    show Along R (o.apply s.directPath s.proxyPath)
    exact along_bind htrans (hedits o.direct _ (by simp)) fun _ => hedits o.proxy _ (by simp)

/-- Overrides change the two rule files and nothing else, whether they succeed or not. -/
theorem Settings.edited_applyOverrides (s : Settings) :
    Along (Edited [s.directPath, s.proxyPath]) s.applyOverrides :=
  s.along_applyOverrides (.refl _) .trans fun _ hpath => along_edit hpath

/-- What has changed after the overrides is one of the two rule files. -/
theorem Settings.locate_of_node?_ne {s : Settings} {t t' : FileTree} {c : Address}
    {result : Except BuildError Unit} (h : s.applyOverrides.run.run t = (result, t'))
    (hc : t'.node? c ≠ t.node? c) :
    t.locate s.directPath = .ok c ∨ t.locate s.proxyPath = .ok c := by
  have hedited := s.edited_applyOverrides t
  rw [h] at hedited
  rcases hedited.node?_eq c with heq | ⟨⟨path, hpath, hlocate⟩, -⟩
  · exact absurd heq hc
  · simp only [List.mem_cons, List.not_mem_nil, or_false] at hpath
    rcases hpath with rfl | rfl
    · exact .inl hlocate
    · exact .inr hlocate

end Overrides

namespace Settings

open FileAction FileTree

variable {s : Settings} {t t' : FileTree} {kind : DatasetKind} {bytes : Bytes} {path : String}

/-! ### Writing a dataset -/

/-- The checksum file lies beside the dataset. -/
theorem checksum_ne {t₁ t₂ : FileTree} {a b : Address} {contents contents' : Bytes}
    (ha : Written path contents a t t₁)
    (hb : Written (checksumPath path) contents' b t₁ t₂) : a ≠ b := by
  have hpath : path ≠ "" := (place_eq_some_iff.1 ha.place_eq).1
  -- equal addresses would have equal last names
  have hparts : (Path.parts (checksumPath path)).getLast? ≠ (Path.parts path).getLast? :=
    Path.getLast?_parts_append_ne hpath ha.endsWithSlash_eq (by decide) (by decide)
  rintro rfl
  exact hparts ((getLast?_of_place hb.place_eq).symm.trans (getLast?_of_place ha.place_eq))

/-- The checksum file beside a file is made of the contents of the file. -/
theorem exists_of_writeChecksum {result : String}
    (h : (FileAction.writeChecksum path).run.run t = (.ok result, t'))
    (hread : t.contentsOf path = .ok bytes) :
    ∃ b, Written (checksumPath path) (.ofText (checksumText bytes path)) b t t' := by
  obtain ⟨contents, t₁, hlook, hwrites⟩ := run_bind_eq_ok_iff.1 h
  obtain ⟨hcontents, rfl⟩ := run_look_eq_ok_iff.1 hlook
  obtain ⟨_, t₂, hwrite, hreturn⟩ := run_bind_eq_ok_iff.1 hwrites
  obtain ⟨-, rfl⟩ := run_pure_eq_ok_iff.1 hreturn
  rw [hread] at hcontents
  cases hcontents
  exact write_eq_ok_iff.1 (run_write_eq_ok_iff.1 hwrite)

/-- Writing a dataset makes the missing directories and writes two files. -/
theorem exists_of_writeDataset (h : (s.writeDataset bytes).run.run t = (.ok path, t')) :
    path = s.outputPath ∧ ∃ t₁ t₂ a b, t.Furnished t₁ ∧ Written path bytes a t₁ t₂ ∧
      Written (checksumPath path) (.ofText (checksumText bytes path)) b t₂ t' := by
  obtain ⟨_, t₁, hdirectories, hfiles⟩ := run_bind_eq_ok_iff.1 h
  obtain ⟨_, t₂, hdataset, hrest⟩ := run_bind_eq_ok_iff.1 hfiles
  obtain ⟨_, t₃, hchecksum, hreturn⟩ := run_bind_eq_ok_iff.1 hrest
  obtain ⟨rfl, rfl⟩ := run_pure_eq_ok_iff.1 hreturn
  have hfurnished :=
    along_makeDirectories .refl .trans furnished_of_makeDirectory s.outputDirectory t
  rw [hdirectories] at hfurnished
  obtain ⟨a, ha⟩ := write_eq_ok_iff.1 (run_write_eq_ok_iff.1 hdataset)
  obtain ⟨b, hb⟩ := exists_of_writeChecksum hchecksum ha.contentsOf_eq
  exact ⟨rfl, t₁, t₂, a, b, hfurnished, ha, hb⟩

/-! ### Building -/

section Building

variable {α β : Type} {compile : FileTree → Except BuildError α} {encode : α → Bytes}
  {load : FileTree → String → Except BuildError β}

/-- Compiles something, writes what it is encoded as, and loads that. -/
def buildWith (s : Settings) (compile : FileTree → Except BuildError α) (encode : α → Bytes)
    (load : FileTree → String → Except BuildError β) : FileAction String := do
  let entries ← look compile
  let path ← s.writeDataset (encode entries)
  let _ ← look (load · path)
  return path

/-- When compiling fails, so does the build, before anything is written. -/
theorem buildWith_of_error {e : BuildError} (h : (compile t).map encode = .error e) :
    (s.buildWith compile encode load).run.run t = (.error e, t) := by
  exact run_look_bind_of_error (map_eq_error_iff.1 h)

/-- A build that succeeds has compiled something and written it. -/
theorem exists_of_buildWith (h : (s.buildWith compile encode load).run.run t = (.ok path, t')) :
    ∃ bytes, (compile t).map encode = .ok bytes ∧
      (s.writeDataset bytes).run.run t = (.ok path, t') := by
  obtain ⟨entries, t₁, hlook, hrest⟩ := run_bind_eq_ok_iff.1 h
  obtain ⟨hcompile, rfl⟩ := run_look_eq_ok_iff.1 hlook
  obtain ⟨written, t₂, hwrite, hcheck⟩ := run_bind_eq_ok_iff.1 hrest
  obtain ⟨_, t₃, hload, hreturn⟩ := run_bind_eq_ok_iff.1 hcheck
  obtain ⟨-, rfl⟩ := run_look_eq_ok_iff.1 hload
  obtain ⟨rfl, rfl⟩ := run_pure_eq_ok_iff.1 hreturn
  exact ⟨encode entries, map_eq_ok_iff.2 ⟨entries, hcompile, rfl⟩, hwrite⟩

/-- When what is encoded can be loaded, a build does what writing the dataset does. -/
theorem buildWith_of_ok (h : (compile t).map encode = .ok bytes)
    (hload : ∀ entries t' path, encode entries = bytes → t'.contentsOf path = .ok bytes →
      ∃ loaded, load t' path = .ok loaded) :
    (s.buildWith compile encode load).run.run t = (s.writeDataset bytes).run.run t := by
  obtain ⟨entries, hcompile, rfl⟩ := map_eq_ok_iff.1 h
  rw [buildWith, run_look_bind_of_ok hcompile, run_bind]
  split
  next path t₁ hwrite =>
    -- the dataset is still as it was written when it is loaded
    obtain ⟨-, _, t₂, a, b, -, ha, hb⟩ := exists_of_writeDataset hwrite
    have hread : t₁.contentsOf path = .ok (encode entries) :=
      contentsOf_eq_ok_iff.2
        ⟨a, hb.grows.locate_eq ha.locate_eq, by rw [hb.frame (checksum_ne ha hb), ha.node?_eq]⟩
    obtain ⟨loaded, hloaded⟩ := hload entries t₁ path rfl hread
    rw [run_look_bind_of_ok hloaded, hwrite]
    rfl
  next e t₁ hwrite => rw [hwrite]

end Building

/-- A dataset of domain lists that was encoded can be loaded. -/
theorem exists_loadSitesFile {entries : List SiteEntry}
    (h : (Dataset.encodeSites entries).Addressable)
    (hread : t.contentsOf path = .ok (Dataset.encodeSites entries)) :
    ∃ rules, Dataset.loadSitesFile t path = .ok rules := by
  refine ⟨Dataset.rulesByCode entries, RoutingData.bind_eq_ok_iff.2 ⟨_, hread, ?_⟩⟩
  rw [Dataset.loadSites, Dataset.decodeSites_encodeSites h]
  rfl

/-- A dataset of address lists that was encoded can be loaded. -/
theorem exists_loadAddressesFile {entries : List AddressEntry}
    (h : (Dataset.encodeAddresses entries).Addressable)
    (hread : t.contentsOf path = .ok (Dataset.encodeAddresses entries)) :
    ∃ nets, Dataset.loadAddressesFile t path = .ok nets := by
  refine ⟨Dataset.netsByCode entries, RoutingData.bind_eq_ok_iff.2 ⟨_, hread, ?_⟩⟩
  rw [Dataset.loadAddresses, Dataset.decodeAddresses_encodeAddresses h]
  rfl

/-- The bytes of the dataset that the lists in the data directory make. -/
def compiledBytes (s : Settings) (t : FileTree) : DatasetKind → Except BuildError Bytes
  | .sites => (s.compileSites t).map Dataset.encodeSites
  | .addresses => (s.compileAddresses t).map Dataset.encodeAddresses

/-- Builds a dataset of the kind, whatever kind the settings name. -/
def build (s : Settings) : DatasetKind → FileAction String
  | .sites => s.buildSites
  | .addresses => s.buildAddresses

/-- When the lists cannot be compiled, nothing is written. -/
theorem build_of_error {e : BuildError} (h : s.compiledBytes t kind = .error e) :
    (s.build kind).run.run t = (.error e, t) := by
  cases kind with
  | sites => exact buildWith_of_error h
  | addresses => exact buildWith_of_error h

/-- A build that succeeds has compiled the lists and written the dataset. -/
theorem exists_of_build (h : (s.build kind).run.run t = (.ok path, t')) :
    ∃ bytes, s.compiledBytes t kind = .ok bytes ∧
      (s.writeDataset bytes).run.run t = (.ok path, t') := by
  cases kind with
  | sites => exact exists_of_buildWith h
  | addresses => exact exists_of_buildWith h

/-- Once the lists are compiled, a build does what writing the dataset does. -/
theorem build_eq_writeDataset (h : s.compiledBytes t kind = .ok bytes)
    (haddressable : bytes.Addressable) :
    (s.build kind).run.run t = (s.writeDataset bytes).run.run t := by
  cases kind with
  | sites =>
    apply buildWith_of_ok h
    rintro entries t' path rfl hread
    exact exists_loadSitesFile haddressable hread
  | addresses =>
    apply buildWith_of_ok h
    rintro entries t' path rfl hread
    exact exists_loadAddressesFile haddressable hread

/-- A run applies the overrides and builds the dataset of its kind. -/
theorem run_eq (s : Settings) : s.run = s.applyOverrides >>= fun _ => s.build s.kind := by
  unfold run build
  cases s.kind with
  | sites => rfl
  | addresses => rfl

/-- What there is after a dataset was built: the dataset at one address, its checksum at another,
and apart from these no other change than new directories where nothing was. -/
structure Published (path : String) (bytes : Bytes) (a b : Address) (t t' : FileTree) : Prop where
  /-- The path leads to the dataset. -/
  locate_eq : t'.locate path = .ok a
  /-- The dataset is called by the file name of the path. -/
  getLast?_eq : a.getLast? = some (Path.fileName path)
  /-- The dataset has these bytes. -/
  node?_eq : t'.node? a = some (.file bytes)
  /-- The longer path leads to the checksum. -/
  locate_checksum : t'.locate (path ++ ".sha256sum") = .ok b
  /-- The checksum is that of the bytes and goes with the name of the dataset. -/
  node?_checksum : t'.node? b =
    some (.file (.ofText (Sha256.hexDigest bytes ++ "  " ++ Path.fileName path)))
  /-- Nothing else has changed, except for directories that were missing. -/
  frame : ∀ c, c ≠ a → c ≠ b →
    t'.node? c = t.node? c ∨ t.node? c = none ∧ t'.node? c = some .directory

/-- Writing a dataset publishes it. -/
theorem exists_published (h : (s.writeDataset bytes).run.run t = (.ok path, t')) :
    path = s.outputPath ∧ ∃ a b, Published path bytes a b t t' := by
  obtain ⟨hpath, t₁, t₂, a, b, hfurnished, ha, hb⟩ := exists_of_writeDataset h
  refine ⟨hpath, a, b, ?_⟩
  constructor
  · exact hb.grows.locate_eq ha.locate_eq
  · exact getLast?_eq_fileName_of_place ha.place_eq
  · rw [hb.frame (checksum_ne ha hb), ha.node?_eq]
  · exact hb.locate_eq
  · exact hb.node?_eq
  · intro c hca hcb
    rw [hb.frame hcb, ha.frame hca]
    exact hfurnished.node?_eq c

/-! ### What every step keeps -/

section Steps

variable {R : FileTree → FileTree → Prop} (hrefl : ∀ t, R t t)
  (htrans : ∀ {t t' t''}, R t t' → R t' t'' → R t t'')
  (hwrite : ∀ {t t' path contents a}, Written path contents a t t' → R t t')
  (hmake : ∀ {t t' path}, t.makeDirectory path = .ok t' → R t t')

include hrefl htrans hwrite hmake

/-- Writing a dataset makes directories and writes files. -/
theorem along_writeDataset (s : Settings) (bytes : Bytes) : Along R (s.writeDataset bytes) := by
  have hchecksum : Along R (FileAction.writeChecksum s.outputPath) :=
    along_bind htrans (along_look hrefl _) fun contents =>
      along_bind htrans (along_write hrefl hwrite) fun _ => along_pure hrefl _
  exact along_bind htrans (along_makeDirectories hrefl htrans hmake _) fun _ =>
    along_bind htrans (along_write hrefl hwrite) fun _ =>
      along_bind htrans hchecksum fun _ => along_pure hrefl _

/-- So does building it. -/
theorem along_buildWith {α β : Type} (s : Settings)
    (compile : FileTree → Except BuildError α) (encode : α → Bytes)
    (load : FileTree → String → Except BuildError β) :
    Along R (s.buildWith compile encode load) :=
  along_bind htrans (along_look hrefl _) fun _ =>
    along_bind htrans (s.along_writeDataset hrefl htrans hwrite hmake _) fun path =>
      along_bind htrans (along_look hrefl _) fun _ => along_pure hrefl path

/-- So does a whole run, whether it succeeds or not. -/
theorem along_run (s : Settings) : Along R s.run := by
  have hoverrides : Along R s.applyOverrides :=
    s.along_applyOverrides hrefl htrans fun path _ change =>
      along_bind htrans (along_look hrefl _) fun _ => along_write hrefl hwrite
  have hbuild : Along R (s.build s.kind) := by
    cases s.kind with
    | sites => exact s.along_buildWith hrefl htrans hwrite hmake _ _ _
    | addresses => exact s.along_buildWith hrefl htrans hwrite hmake _ _ _
  rw [run_eq]
  exact along_bind htrans hoverrides fun _ => hbuild

end Steps

/-- When everything lies in a directory before a run, it does so afterwards, whether the run
succeeds or not. -/
theorem rooted_run (s : Settings) (h : t.Rooted) : (s.run.run.run t).2.Rooted :=
  s.along_run .refl .trans Written.keepsRooted keepsRooted_of_makeDirectory t h

/-- A tree that directories and files can make is one after a run, too. -/
theorem wellFormed_run (s : Settings) (h : t.WellFormed) : (s.run.run.run t).2.WellFormed :=
  s.along_run (R := fun t t' => t.WellFormed → t'.WellFormed) (fun _ => id)
    (fun hfirst hsecond => hsecond ∘ hfirst) Written.wellFormed wellFormed_of_makeDirectory t h

/-! ### Effects -/

/-- When the lists cannot be compiled, a build fails with that failure and leaves the tree as it
was, and a run, which compiles them after the overrides, has changed at most the two rule files. A
build that succeeds publishes what was compiled on the tree before it. The check at the end decides
nothing: once the lists are compiled, a build does what writing the dataset does, of whatever size a
file can have. -/
theorem build_effects (s : Settings) (t : FileTree) (kind : DatasetKind) :
    (∀ e, s.compiledBytes t kind = .error e → (s.build kind).run.run t = (.error e, t)) ∧
    (∀ result t₁ e, s.applyOverrides.run.run t = (result, t₁) →
      s.compiledBytes t₁ s.kind = .error e →
      s.run.run.run t = (result >>= fun _ => .error e, t₁) ∧
      ∀ c, t₁.node? c ≠ t.node? c →
        t.locate s.directPath = .ok c ∨ t.locate s.proxyPath = .ok c) ∧
    (∀ path t', (s.build kind).run.run t = (.ok path, t') → path = s.outputPath ∧
      ∃ bytes a b, s.compiledBytes t kind = .ok bytes ∧ Published path bytes a b t t') ∧
    ∀ bytes, s.compiledBytes t kind = .ok bytes → bytes.Addressable →
      (s.build kind).run.run t = (s.writeDataset bytes).run.run t := by
  refine ⟨fun e => build_of_error, ?_, ?_, fun bytes => build_eq_writeDataset⟩
  · intro result t₁ e hoverrides hcompile
    refine ⟨?_, fun c => locate_of_node?_ne hoverrides⟩
    rw [run_eq, run_bind, hoverrides]
    -- if the overrides fail, the lists are not compiled at all
    cases result with
    | error e' => rfl
    | ok u => exact build_of_error hcompile
  · intro path t' h
    obtain ⟨bytes, hcompile, hwrite⟩ := exists_of_build h
    obtain ⟨hpath, a, b, hpublished⟩ := exists_published hwrite
    exact ⟨hpath, bytes, a, b, hcompile, hpublished⟩

/-- A list of one rule, an empty one, and overrides by which the first includes a missing list. -/
def workshop : FileTree where
  nodes := .ofList [
    (["custom.toml"], .file (.ofText "[direct]\nadd = [\"include:nowhere\"]\n")),
    (["lists"], .directory),
    (["lists", "cn"], .file (.ofText "full:baidu.com\n")),
    (["lists", "gfw"], .file [])]

/-- Settings with both rule files among the lists. -/
def workshopSettings : Settings where
  kind := .sites
  dataDirectory := "lists"
  directPath := "lists/cn"
  proxyPath := "lists/gfw"

/-- The dataset of the lists in the workshop. -/
def workshopDataset : Bytes :=
  Dataset.encodeSites [⟨"CN", [⟨3, "baidu.com", []⟩]⟩, ⟨"GFW", []⟩]

/-- In the workshop a build of lists that are not there fails, and so does a run, because of its
overrides; a build without overrides succeeds. -/
theorem build_effects_workshop :
    ({ workshopSettings with dataDirectory := "nowhere" }.build .addresses).run.run workshop =
      (.error (.io "nowhere" .notFound), workshop) ∧
    (∃ t₁, workshopSettings.run.run.run workshop = (.error (.unknownInclude "CN" "NOWHERE"), t₁) ∧
      ∀ c, t₁.node? c ≠ workshop.node? c →
        workshop.locate "lists/cn" = .ok c ∨ workshop.locate "lists/gfw" = .ok c) ∧
    ∃ a b t', (workshopSettings.build .sites).run.run workshop = (.ok "./publish/geosite.dat", t') ∧
      Published "./publish/geosite.dat" workshopDataset a b workshop t' ∧
      workshopDataset.Addressable ∧ (workshopSettings.build .sites).run.run workshop =
        (workshopSettings.writeDataset workshopDataset).run.run workshop := by
  refine ⟨?_, ⟨(workshopSettings.applyOverrides.run.run workshop).2, ?_⟩, ?_⟩
  · exact (build_effects _ workshop .addresses).1 _ (by decide +kernel)
  · have hoverrides : (workshopSettings.applyOverrides.run.run workshop).1 = .ok () := by
      decide +kernel
    have hcompile : workshopSettings.compiledBytes
        (workshopSettings.applyOverrides.run.run workshop).2 .sites =
          .error (.unknownInclude "CN" "NOWHERE") := by
      decide +kernel
    exact (build_effects workshopSettings workshop .sites).2.1 (.ok ()) _ _
      (Prod.ext hoverrides rfl) hcompile
  · obtain ⟨-, -, hpublished, hcheck⟩ := build_effects workshopSettings workshop .sites
    have hbuild : (workshopSettings.build .sites).run.run workshop =
        (.ok "./publish/geosite.dat", ((workshopSettings.build .sites).run.run workshop).2) :=
      Prod.ext (by decide +kernel) rfl
    have hcompile : workshopSettings.compiledBytes workshop .sites = .ok workshopDataset := by
      decide +kernel
    have haddressable : workshopDataset.Addressable := by decide +kernel
    obtain ⟨-, bytes, a, b, hbytes, hfiles⟩ := hpublished _ _ hbuild
    obtain rfl : workshopDataset = bytes := Except.ok.inj (hcompile.symm.trans hbytes)
    exact ⟨a, b, _, hbuild, hfiles, haddressable, hcheck _ hcompile haddressable⟩

end Settings

end RoutingData
