import RoutingData.Build
import RoutingData.Proofs.Inclusion.Resolution
import RoutingData.Proofs.Reading
import RoutingData.Proofs.Text.Trim

/-!
# What exclusions leave out

Exclusions are written as items between commas, and an item as parts between at signs. A text can be
read when each item that is not blank names a list and an attribute (`Readable`). What it then
leaves out is said by the text alone (`LeavesOut`): it does not matter in which item an attribute of
a list stands, nor how often, so texts that leave out the same make the same table
(`Tight.eq_of_excludes_iff`).

In a dataset that is exported under the table each list lacks the rules that have an attribute left
out of it, and nothing else changes (`toEntries_of_excludes`). This needs no more of the lists than
that rules with attributes do not stand among the others, as in every registry that was read,
resolved or not.
-/

namespace RoutingData.Exclusions

variable {text item list key : String} {e e' : Exclusions}

/-- The items of a text: what stands between commas and is not blank. -/
def items (text : String) : List String :=
  (Text.splitAt ',' text).filter (!Text.isBlankText ·)

/-- The part of an item before its first at sign. -/
def listPart (item : String) : String := (Text.splitAt '@' item).headD ""

/-- The parts of an item after its first at sign. -/
def attributeParts (item : String) : List String := (Text.splitAt '@' item).tail

/-- The item names a list and an attribute of it. -/
def Readable (item : String) : Prop :=
  Text.isBlankText (listPart item) = false ∧
    ∃ part ∈ attributeParts item, Text.isBlankText part = false

/-- What is wrong with an item that is not readable. -/
def fault (item : String) : SettingsFault :=
  if Text.isBlankText (listPart item) then .missingListName (Text.trim item)
  else .noAttributes (Text.trim item)

/-- The text leaves the attribute of the list out: some item for the list has it. An empty part
names no attribute. -/
def LeavesOut (text list key : String) : Prop :=
  key ≠ "" ∧ ∃ item ∈ items text, Text.upper (Text.trim (listPart item)) = list ∧
    ∃ part ∈ attributeParts item, Text.lower (Text.trim part) = key

instance (item : String) : Decidable (Readable item) := inferInstanceAs (Decidable (_ ∧ _))

instance (text list key : String) : Decidable (LeavesOut text list key) :=
  inferInstanceAs (Decidable (_ ∧ _))

/-- The entry of a list without the rules that have an attribute left out of the list. -/
def withoutLeftOut (text : String) (entry : SiteEntry) : SiteEntry :=
  { entry with
    domains := entry.domains.filter fun d =>
      d.attributes.all fun a => ¬ LeavesOut text entry.code a.key }

/-! ### Items -/

/-- The list that an item is for. -/
def listOf (item : String) : String := Text.upper (Text.trim (listPart item))

/-- The attributes of an item. -/
def attributesOf (item : String) : List String :=
  ((attributeParts item).map fun part => Text.lower (Text.trim part)).filter (· ≠ "")

/-- What is left out is said item by item. -/
theorem leavesOut_iff :
    LeavesOut text list key ↔ ∃ item ∈ items text, listOf item = list ∧ key ∈ attributesOf item := by
  simp only [LeavesOut, listOf, attributesOf, List.mem_filter, List.mem_map, decide_eq_true_eq]
  constructor
  · rintro ⟨hne, item, hitem, hlist, hpart⟩
    exact ⟨item, hitem, hlist, hpart, hne⟩
  · rintro ⟨item, hitem, hlist, hpart, hne⟩
    exact ⟨hne, item, hitem, hlist, hpart⟩

/-- No list is named when its part is blank. -/
theorem listOf_eq_empty_iff : listOf item = "" ↔ Text.isBlankText (listPart item) = true := by
  rw [listOf, Text.upper_eq_empty_iff, Text.trim_eq_empty_iff]

/-- No attribute is named when all parts for them are blank. -/
theorem attributesOf_eq_nil_iff :
    attributesOf item = [] ↔ ∀ part ∈ attributeParts item, Text.isBlankText part = true := by
  simp [attributesOf, List.filter_eq_nil_iff, Text.lower_eq_empty_iff, Text.trim_eq_empty_iff]

/-- Trimming an item does not change what it says. -/
theorem listOf_attributesOf_trim (item : String) :
    listOf (Text.trim item) = listOf item ∧ attributesOf (Text.trim item) = attributesOf item := by
  -- an item is read through its trimmed parts only
  have hpieces := Text.map_trim_splitAt_trim (c := '@') rfl item
  have hlist : ∀ s, Text.trim (listPart s) = ((Text.splitAt '@' s).map Text.trim).headD "" := by
    intro s
    unfold listPart
    cases Text.splitAt '@' s with
    | nil => rfl
    | cons first more => rfl
  have hattributes : ∀ s, attributesOf s =
      (((Text.splitAt '@' s).map Text.trim).tail.map Text.lower).filter (· ≠ "") := by
    intro s
    rw [attributesOf, attributeParts, ← List.map_tail, List.map_map]
    rfl
  constructor
  · rw [listOf, listOf, hlist, hlist, hpieces]
  · rw [hattributes, hattributes, hpieces]

/-- How an item is read. -/
theorem parseItem_eq (item : String) :
    parseItem item =
      if listOf item = "" then .error (.settings (.missingListName item))
      else if attributesOf item = [] then .error (.settings (.noAttributes item))
      else .ok (listOf item, attributesOf item) := by
  obtain ⟨first, more, hpieces⟩ : ∃ first more, Text.pieces (· == '@') item.toList = (first, more) :=
    ⟨_, _, rfl⟩
  have hsplit : Text.splitAt '@' item = .ofList first :: more.map .ofList := by
    rw [Text.splitAt, Text.allPieces, hpieces, List.map_cons]
  have hlist : listOf item = .ofList (Text.upperChars (Text.trimChars first)) := by
    simp [listOf, listPart, hsplit, Text.upper, Text.trim]
  have hattributes : attributesOf item =
      ((more.map fun part => Text.lowerChars (Text.trimChars part)).filter (!·.isEmpty)).map
        .ofList := by
    -- the parts are folded and dropped as lists of characters, and here as texts
    have hfold : (fun part => Text.lower (Text.trim part)) ∘ String.ofList =
        String.ofList ∘ fun part => Text.lowerChars (Text.trimChars part) := by
      ext part : 1
      simp [Text.lower, Text.trim]
    have hempty : (fun s : String => decide (s ≠ "")) ∘ String.ofList = (!List.isEmpty ·) := by
      ext part : 1
      cases part with
      | nil => rfl
      | cons c part => simp
    rw [attributesOf, attributeParts, hsplit, List.tail_cons, List.map_map, hfold, ← List.map_map,
      List.filter_map, hempty]
  unfold parseItem
  rw [hpieces, hlist, hattributes]
  simp

/-- An item is read when it is readable, and otherwise its fault is the failure. -/
theorem parseItem_trim (item : String) :
    parseItem (Text.trim item) =
      if Readable item then .ok (listOf item, attributesOf item)
      else .error (.settings (fault item)) := by
  have hreadable : Readable item ↔ listOf item ≠ "" ∧ attributesOf item ≠ [] := by
    rw [Ne, Ne, listOf_eq_empty_iff, attributesOf_eq_nil_iff, Readable]
    simp
  rw [parseItem_eq, (listOf_attributesOf_trim item).1, (listOf_attributesOf_trim item).2]
  by_cases hlist : listOf item = ""
  · rw [if_pos hlist, if_neg fun h => (hreadable.1 h).1 hlist, fault,
      if_pos (listOf_eq_empty_iff.1 hlist)]
  · rw [if_neg hlist, fault, if_neg (mt listOf_eq_empty_iff.2 hlist)]
    by_cases hattributes : attributesOf item = []
    · rw [if_pos hattributes, if_neg fun h => (hreadable.1 h).2 hattributes]
    · rw [if_neg hattributes, if_pos (hreadable.2 ⟨hlist, hattributes⟩)]

/-! ### Reading -/

/-- A text is read item by item. -/
theorem parse_eq (text : String) :
    parse text =
      ((items text).mapM fun item => parseItem (Text.trim item)).map (·.foldl extend ∅) := by
  -- items are trimmed before the empty ones are dropped, which drops those that are blank
  have hitems : ((Text.splitAt ',' text).map Text.trim).filter (· ≠ "") =
      (items text).map Text.trim := by
    rw [List.filter_map, items]
    refine congrArg (List.map _) (List.filter_congr fun item _ => ?_)
    rw [Function.comp_apply]
    simp [Text.trim_eq_empty_iff]
  simp only [parse, hitems, List.mapM_map, Function.comp_def]
  cases (items text).mapM fun item => parseItem (Text.trim item) with
  | error failure => rfl
  | ok pairs => rfl

/-- The table of some items. -/
def tableOf (items : List String) : Exclusions :=
  (items.map fun item => (listOf item, attributesOf item)).foldl extend ∅

/-- An item that is read gives its list and its attributes. -/
theorem parseItem_trim_eq_ok_iff {pair : String × List String} :
    parseItem (Text.trim item) = .ok pair ↔
      Readable item ∧ (listOf item, attributesOf item) = pair := by
  rw [parseItem_trim]
  split
  next h => simp [h]
  next h => simp [h]

/-- A text is read when each of its items is readable. -/
theorem parse_eq_ok_iff :
    parse text = .ok e ↔ (∀ item ∈ items text, Readable item) ∧ e = tableOf (items text) := by
  -- what each item gives does not depend on the others
  have hread : ∀ pairs, (items text).mapM (fun item => parseItem (Text.trim item)) = .ok pairs ↔
      (∀ item ∈ items text, Readable item) ∧
        pairs = (items text).map fun item => (listOf item, attributesOf item) := by
    intro pairs
    simp only [mapM_eq_ok_iff, parseItem_trim_eq_ok_iff]
    rw [List.forall₂_and_left, ← List.forall₂_map_left_iff, List.forall₂_eq_eq_eq]
    exact and_congr_right fun _ => eq_comm
  rw [parse_eq, map_eq_ok_iff]
  constructor
  · rintro ⟨pairs, hpairs, he⟩
    obtain ⟨hreadable, heq⟩ := (hread pairs).1 hpairs
    rw [heq] at he
    exact ⟨hreadable, he.symm⟩
  · rintro ⟨hreadable, he⟩
    exact ⟨_, (hread _).2 ⟨hreadable, rfl⟩, he.symm⟩

/-- A text is not read when an item is not readable. The first such item is the failure. -/
theorem parse_eq_error_iff {failure : BuildError} :
    parse text = .error failure ↔ ∃ before item after, items text = before ++ item :: after ∧
      (∀ i ∈ before, Readable i) ∧ ¬ Readable item ∧ failure = .settings (fault item) := by
  have hok : ∀ item, (∃ pair, parseItem (Text.trim item) = .ok pair) ↔ Readable item := by
    intro item
    simp [parseItem_trim_eq_ok_iff]
  have herror : ∀ item, parseItem (Text.trim item) = .error failure ↔
      ¬ Readable item ∧ failure = .settings (fault item) := by
    intro item
    rw [parseItem_trim]
    split
    next h => simp [h]
    next h => simp [h, eq_comm]
  rw [parse_eq, map_eq_error_iff, mapM_eq_error_iff]
  simp only [hok, herror]

/-! ### Tables -/

/-- The attribute is excluded from the export of the list. -/
def Excludes (e : Exclusions) (list key : String) : Prop :=
  ((e.get? list).getD ∅).contains key = true

/-- Attributes are put into a set one after the other. -/
theorem contains_foldl_insert (keys : List String) (set : AttributeSet) :
    (keys.foldl (fun set a => set.insert a ()) set).contains key = true ↔
      set.contains key = true ∨ key ∈ keys := by
  induction keys generalizing set with
  | nil => simp
  | cons k keys ih =>
    rw [List.foldl_cons, ih, List.mem_cons, ← or_assoc]
    refine or_congr_left ?_
    unfold Table.contains
    rw [Table.get?_insert]
    split
    next h => simp [h]
    next h => simp [h]

/-- What one more item excludes. -/
theorem excludes_extend {pair : String × List String} :
    (extend e pair).Excludes list key ↔ e.Excludes list key ∨ pair.1 = list ∧ key ∈ pair.2 := by
  unfold Excludes extend
  by_cases h : pair.1 = list
  · subst h
    rw [Table.get?_upsert_self, Option.getD_some, contains_foldl_insert]
    simp
  · rw [Table.get?_upsert_of_ne _ _ (Ne.symm h)]
    simp [h]

/-- No list is there without an attribute that is excluded from it. -/
def Tight (e : Exclusions) : Prop := ∀ list ∈ e.keys, ∃ key, e.Excludes list key

/-- An item with an attribute keeps it so. -/
theorem Tight.extend (h : e.Tight) {pair : String × List String} (hpair : pair.2 ≠ []) :
    (extend e pair).Tight := by
  intro list hlist
  obtain ⟨set, hset⟩ := Table.mem_keys_iff.1 hlist
  by_cases heq : pair.1 = list
  · obtain ⟨key, hkey⟩ := List.exists_mem_of_ne_nil _ hpair
    exact ⟨key, excludes_extend.2 (.inr ⟨heq, hkey⟩)⟩
  · -- the other lists were there before
    rw [Exclusions.extend, Table.get?_upsert_of_ne _ _ (Ne.symm heq)] at hset
    obtain ⟨key, hkey⟩ := h list (Table.mem_keys_iff.2 ⟨set, hset⟩)
    exact ⟨key, excludes_extend.2 (.inl hkey)⟩

/-- A list of such a table is known by what is excluded from it. -/
theorem Tight.mem_keys_iff (h : e.Tight) : list ∈ e.keys ↔ ∃ key, e.Excludes list key := by
  constructor
  · exact h list
  · rintro ⟨key, hkey⟩
    by_contra hnot
    rw [Excludes, Table.get?_eq_none_iff.2 hnot] at hkey
    cases hkey

/-- Such tables are the same when they exclude the same. -/
theorem Tight.eq_of_excludes_iff (he : e.Tight) (he' : e'.Tight)
    (h : ∀ list key, e.Excludes list key ↔ e'.Excludes list key) : e = e' := by
  apply Table.ext_get?
  intro list
  have hkeys : list ∈ e.keys ↔ list ∈ e'.keys := by
    rw [he.mem_keys_iff, he'.mem_keys_iff]
    exact exists_congr (h list)
  by_cases hlist : list ∈ e.keys
  · obtain ⟨set, hset⟩ := Table.mem_keys_iff.1 hlist
    obtain ⟨set', hset'⟩ := Table.mem_keys_iff.1 (hkeys.1 hlist)
    rw [hset, hset']
    congr 1
    -- a set of attributes holds no more than whether they are in it
    apply Table.ext_get?
    intro key
    have hkey := h list key
    rw [Excludes, Excludes, hset, hset', Option.getD_some, Option.getD_some, Table.contains,
      Table.contains] at hkey
    cases hget : set.get? key <;> cases hget' : set'.get? key <;> simp_all
  · rw [Table.get?_eq_none_iff.2 hlist, Table.get?_eq_none_iff.2 (mt hkeys.2 hlist)]

/-- What a table of items excludes. -/
theorem excludes_tableOf {items : List String} :
    (tableOf items).Excludes list key ↔
      ∃ item ∈ items, listOf item = list ∧ key ∈ attributesOf item := by
  -- generalized over the table to which the items are added
  have hfold : ∀ (items : List String) (e : Exclusions),
      ((items.map fun item => (listOf item, attributesOf item)).foldl extend e).Excludes list key ↔
        e.Excludes list key ∨ ∃ item ∈ items, listOf item = list ∧ key ∈ attributesOf item := by
    intro items
    induction items with
    | nil => simp
    | cons item items ih =>
      intro e
      rw [List.map_cons, List.foldl_cons, ih, excludes_extend, or_assoc]
      simp only [List.mem_cons, exists_eq_or_imp]
  unfold tableOf
  rw [hfold]
  refine or_iff_right ?_
  rintro ⟨⟩

/-- The table of readable items is tight. -/
theorem tight_tableOf {items : List String} (h : ∀ item ∈ items, Readable item) :
    (tableOf items).Tight := by
  refine List.foldlRecOn _ extend (by rintro _ ⟨⟩) fun e he pair hpair => he.extend ?_
  obtain ⟨item, hitem, rfl⟩ := List.mem_map.1 hpair
  obtain ⟨part, hpart, hblank⟩ := (h item hitem).2
  intro hnil
  rw [attributesOf_eq_nil_iff.1 hnil part hpart] at hblank
  cases hblank

/-- The table of a text excludes what the text leaves out, and no more lists are in it. -/
theorem excludes_of_parse (h : parse text = .ok e) :
    e.Tight ∧ ∀ list key, e.Excludes list key ↔ LeavesOut text list key := by
  obtain ⟨hreadable, he⟩ := parse_eq_ok_iff.1 h
  rw [he]
  refine ⟨tight_tableOf hreadable, fun list key => ?_⟩
  rw [excludes_tableOf, leavesOut_iff]

/-! ### Export -/

/-- A list is exported without the rules that have an excluded attribute, and otherwise as if
nothing were excluded. -/
theorem toRules_eq_filter {l : DomainList} (h : l.Filed) (set : AttributeSet) :
    l.toRules set = (l.toRules ∅).filter fun x => !x.attributes.any set.contains := by
  -- rules that do not stand with attributes have none, so none of them is excluded
  have hplain : ∀ rules : List Rule, (∀ x ∈ rules, x.hasAttributes = false) →
      rules.filter (fun x => !x.attributes.any set.contains) = rules := by
    intro rules hrules
    rw [List.filter_eq_self]
    intro x hx
    have hnone : x.attributes = [] := by simpa [Rule.hasAttributes] using hrules x hx
    rw [hnone]
    rfl
  -- those that do stand there are all exported when nothing is excluded
  have hall : l.attributeRules.filter (fun x => !x.attributes.any (∅ : AttributeSet).contains) =
      l.attributeRules := by
    rw [List.filter_eq_self]
    intro x _
    simp [Table.contains]
  have hfull := hplain l.full fun x hx => (h.of_mem_bucket .full x hx).2
  have hunique := hplain l.uniqueDomain fun x hx => (h.of_mem_uniqueDomain x hx).2
  have hregex := hplain l.regex fun x hx => (h.of_mem_bucket .regex x hx).2
  have hkeyword := hplain (l.keyword.filter fun r => !Text.isBlankText r.value) fun x hx =>
    (h.of_mem_bucket .keyword x (List.mem_of_mem_filter hx)).2
  unfold DomainList.toRules
  rw [hall]
  simp only [List.filter_append]
  rw [hfull, hunique, hregex, hkeyword]

/-- In a dataset of a resolved registry, or any other whose lists are filed, what a text leaves out
is missing, and nothing else changes. -/
theorem toEntries_of_excludes {R : Registry} (hfiled : ∀ a l, R.get? a = some l → l.Filed)
    (h : ∀ list key, e.Excludes list key ↔ LeavesOut text list key) :
    R.toEntries e = (R.toEntries ∅).map (withoutLeftOut text) := by
  unfold Registry.toEntries Registry.exportedRules
  rw [List.map_map, List.map_map, List.map_map]
  refine List.map_congr_left fun l hl => ?_
  obtain ⟨a, ha⟩ := Table.mem_values_iff.1 hl
  have hnone : ((∅ : Exclusions).get? l.name).getD ∅ = ∅ := rfl
  -- the message for a rule has the attributes of the rule
  have hkept : ∀ x : Rule, (SiteDomain.ofRule x).attributes.all
      (fun a => ¬ LeavesOut text l.name a.key) =
        !x.attributes.any ((e.get? l.name).getD ∅).contains := by
    intro x
    rw [Bool.eq_iff_iff]
    simp [SiteDomain.ofRule, ← h, Excludes]
  simp only [Function.comp_apply, hnone]
  rw [toRules_eq_filter (hfiled a l ha)]
  simp only [withoutLeftOut, SiteEntry.ofRules, List.filter_map]
  congr 2
  exact List.filter_congr fun x _ => (hkept x).symm

/-- A text that cannot be read fails as its first item does that names no list or no attribute. When
there is no such item, the text is read, and what is exported is what would be exported without
exclusions, less the rules with an attribute that an item leaves out of their list. Another text of
readable items that leaves out the same, such as one with the same items in another order, repeated,
or merged for a list, makes the same table. -/
theorem left_out_as_written (text : String) :
    (∀ failure, parse text = .error failure ↔
      ∃ before item after, items text = before ++ item :: after ∧
        (∀ i ∈ before, Readable i) ∧ ¬ Readable item ∧ failure = .settings (fault item)) ∧
    ((∃ e, parse text = .ok e) ↔ ∀ item ∈ items text, Readable item) ∧
    ∀ e, parse text = .ok e →
      (∀ R : Registry, (∀ a l, R.get? a = some l → l.Filed) →
        R.toEntries e = (R.toEntries ∅).map (withoutLeftOut text)) ∧
      ∀ other, (∀ item ∈ items other, Readable item) →
        (∀ list key, LeavesOut other list key ↔ LeavesOut text list key) →
          parse other = .ok e := by
  refine ⟨fun failure => parse_eq_error_iff, ?_, fun e he => ⟨fun R hR => ?_, ?_⟩⟩
  · simp only [parse_eq_ok_iff, exists_and_left, exists_eq, and_true]
  · exact toEntries_of_excludes hR (excludes_of_parse he).2
  · intro other hother hsame
    have hread : parse other = .ok (tableOf (items other)) := parse_eq_ok_iff.2 ⟨hother, rfl⟩
    obtain ⟨htight, hexcludes⟩ := excludes_of_parse he
    obtain ⟨htight', hexcludes'⟩ := excludes_of_parse hread
    have heq : tableOf (items other) = e := htight'.eq_of_excludes_iff htight fun list key => by
      rw [hexcludes', hexcludes, hsame]
    rw [hread, heq]

/-- Two items, one with an empty attribute. -/
def twoItems : String := "cn@ADS, gfw @ cn@@x"

/-- Their attributes in items of their own, one of them twice and in another order. -/
def spreadItems : String := "GFW@x,,cn@ads,gfw@cn , Cn@ads"

/-- Lists with rules that have the attributes of the items, some of them taken over. -/
def taggedLists : Registry := Registry.ofTexts [
  ("cn", "include:gfw @cn\na.com @ads @x\nb.com\nc.com @y"),
  ("gfw", "d.com @cn\ne.com @ads\nkeyword:f @z @x")]

/-- The two items leave out the same however they are written. -/
theorem left_out_as_written_spread :
    ∃ e, parse twoItems = .ok e ∧ parse spreadItems = .ok e ∧
      taggedLists.resolve.2.toEntries e =
        (taggedLists.resolve.2.toEntries ∅).map (withoutLeftOut twoItems) := by
  obtain ⟨-, hread, hall⟩ := left_out_as_written twoItems
  obtain ⟨e, he⟩ := hread.2 (by decide +kernel)
  have hfiled : ∀ a l, taggedLists.resolve.2.get? a = some l → l.Filed :=
    Registry.forall_resolve_of_kept DomainList.kept_filed fun _ _ hl =>
      ((Registry.parsed_ofTexts _).fresh hl).filed
  have hitems : (items twoItems).map (fun item => (listOf item, attributesOf item)) =
      [("CN", ["ads"]), ("GFW", ["cn", "x"])] := by
    decide +kernel
  have hspread : (items spreadItems).map (fun item => (listOf item, attributesOf item)) =
      [("GFW", ["x"]), ("CN", ["ads"]), ("GFW", ["cn"]), ("CN", ["ads"])] := by
    decide +kernel
  have hpairs : ∀ text list key, LeavesOut text list key ↔
      ∃ pair ∈ (items text).map fun item => (listOf item, attributesOf item),
        pair.1 = list ∧ key ∈ pair.2 := by
    intro text list key
    simp only [leavesOut_iff, List.mem_map, exists_exists_and_eq_and]
  have hsame : ∀ list key, LeavesOut spreadItems list key ↔ LeavesOut twoItems list key := by
    intro list key
    rw [hpairs, hpairs, hitems, hspread]
    simp only [List.mem_cons, List.not_mem_nil, or_false, exists_eq_or_imp, exists_eq_left]
    tauto
  exact ⟨e, he, (hall e he).2 spreadItems (by decide +kernel) hsame, (hall e he).1 _ hfiled⟩

end RoutingData.Exclusions
