import RoutingData.Proofs.Building
import RoutingData.Proofs.Text.Trim

/-!
# Canonical lines

Whatever a line says can be said by a line in canonical form (`ListLine.toLine`): a rule by its
kind, its value and its attributes, an inclusion by its target and its attributes, each after an at
sign.

What comes out of a line is `Writable`: its texts are folded, and no word of a rule has a blank in
it, no name of an inclusion an at sign, since these would have cut it in two. Nothing else is needed
for the canonical line to be read as what it is written for, so what lines say is exactly what is
writable (`exists_parse_eq_ok_iff`).
-/

namespace RoutingData

open Text (isBlank Trimmed)

/-! ### Folding keeps texts whole -/

namespace Text

variable {cs ds : List Char}

/-- A blank is a break. -/
theorem isBreak_of_ne_false {d : Char} (h : ¬ isBlank d = false) : isBreak d = true := by
  simp [isBreak, Bool.eq_true_of_not_eq_false h]

/-- A character that is no break does not become a blank. -/
theorem Respelled.forall_not_blank (h : Respelled cs ds) (hcs : ∀ c ∈ cs, isBlank c = false) :
    ∀ d ∈ ds, isBlank d = false := by
  intro d hd
  by_contra hblank
  exact hblank (hcs d (h.mem_of_isBreak hd (isBreak_of_ne_false hblank)))

/-- Nor does one become an at sign. -/
theorem Respelled.mark_not_mem (h : Respelled cs ds) (hcs : '@' ∉ cs) : '@' ∉ ds :=
  fun hmem => hcs (h.mem_of_isBreak hmem (by decide))

/-- A text that is trimmed stays so. -/
theorem Respelled.trimmed (h : Respelled cs ds) (hcs : Trimmed cs) : Trimmed ds := by
  refine ⟨fun d hd => ?_, fun d hd => ?_⟩
  · by_contra hblank
    exact hblank (hcs.1 d (h.head?_of_isBreak hd (isBreak_of_ne_false hblank)))
  · by_contra hblank
    exact hblank (hcs.2 d (h.getLast?_of_isBreak hd (isBreak_of_ne_false hblank)))

end Text

/-! ### Rules -/

namespace Rule

variable {x : Rule} {key : String} {keys : List String}

/-- Every attribute is one that was there or one that was added, in lower case. -/
theorem of_mem_attributes_withAttributes (h : key ∈ (x.withAttributes keys).attributes) :
    key ∈ x.attributes ∨ ∃ added ∈ keys, key = Text.lower added := by
  induction keys generalizing x with
  | nil => exact .inl h
  | cons first keys ih =>
    rw [withAttributes, List.foldl_cons, ← withAttributes] at h
    rcases ih h with h | ⟨added, hadded, rfl⟩
    · rw [withAttribute] at h
      split at h
      · exact .inl h
      · rcases List.mem_append.1 h with h | h
        · exact .inl h
        · exact .inr ⟨first, List.mem_cons_self, List.mem_singleton.1 h⟩
    · exact .inr ⟨added, List.mem_cons_of_mem _ hadded, rfl⟩

end Rule

namespace ListLine

variable {x : Rule} {kind : RuleKind} {value target : String} {keys : List String}
  {line head : List Char}

/-- Attributes as they stand in a canonical line. -/
def attributeText (keys : List String) : String := String.join (keys.map (" @" ++ ·))

/-- The canonical form of a line. -/
def toLine : ListLine → String
  | .rule x => x.toLine
  | .inclusion target filters =>
    inclusionWord ++ target ++ attributeText (DomainList.wantedAttributes filters)

/-- A line can be written that says this. -/
inductive Writable : ListLine → Prop
  | rule {x : Rule} (folded : x.Folded) (checked : checkValue x.kind x.value = .ok ())
      (value : ∀ c ∈ x.value.toList, isBlank c = false)
      (attributes : ∀ key ∈ x.attributes, key ≠ "" ∧ ∀ c ∈ key.toList, isBlank c = false) :
      Writable (.rule x)
  | inclusion {target : String} {keys : List String}
      (target_ne : target ≠ "") (upper_target : Text.upper target = target)
      (target_trimmed : Trimmed target.toList) (target_mark : '@' ∉ target.toList)
      (attributes : ∀ key ∈ keys, key ≠ "" ∧ Text.lower key = key ∧ Trimmed key.toList ∧
        '@' ∉ key.toList) :
      Writable (.inclusion target (filtersFor keys))

/-! ### Attributes of a canonical line -/

/-- The characters of the attributes. -/
theorem toList_attributeText (keys : List String) :
    (attributeText keys).toList = keys.flatMap fun key => ' ' :: '@' :: key.toList := by
  unfold attributeText
  simp [String.toList_join, List.flatMap_map]

/-- Attributes follow the first word as words of their own. -/
theorem words_append_attributeText (hne : head ≠ []) (hhead : ∀ c ∈ head, isBlank c = false)
    (hkeys : ∀ key ∈ keys, ∀ c ∈ key.toList, isBlank c = false) :
    Text.words (head ++ (attributeText keys).toList) =
      head :: keys.map fun key => '@' :: key.toList := by
  rw [toList_attributeText]
  induction keys generalizing head with
  | nil =>
    rw [List.flatMap_nil, List.append_nil, Text.words_eq_singleton hne hhead, List.map_nil]
  | cons key keys ih =>
    obtain ⟨hkey, hkeys⟩ := List.forall_mem_cons.1 hkeys
    have hmark : ∀ c ∈ '@' :: key.toList, isBlank c = false :=
      List.forall_mem_cons.2 ⟨by decide, hkey⟩
    -- the blank ends the first word, and the attribute with its at sign is the next one
    have hrest := ih (List.cons_ne_nil '@' _) hmark hkeys
    rw [List.flatMap_cons, List.cons_append, Text.words_append_cons (by decide),
      Text.words_eq_singleton hne hhead, hrest]
    rfl

/-- Attributes follow a name as pieces of their own, as far as these are trimmed. -/
theorem map_trimChars_allPieces_attributeText (hhead : '@' ∉ head)
    (hkeys : ∀ key ∈ keys, '@' ∉ key.toList) :
    (Text.allPieces (· == '@') (head ++ (attributeText keys).toList)).map Text.trimChars =
      Text.trimChars head :: keys.map fun key => Text.trimChars key.toList := by
  have hnot : ∀ {cs : List Char}, '@' ∉ cs → ∀ c ∈ cs, (c == '@') = false := by
    intro cs hcs c hc
    rw [beq_eq_false_iff_ne]
    rintro rfl
    exact hcs hc
  rw [toList_attributeText]
  induction keys generalizing head with
  | nil =>
    rw [List.flatMap_nil, List.append_nil, Text.allPieces_eq_singleton (hnot hhead)]
    rfl
  | cons key keys ih =>
    obtain ⟨hkey, hkeys⟩ := List.forall_mem_cons.1 hkeys
    -- the blank before the at sign belongs to the piece that ends there, and is trimmed away
    have hblank : '@' ∉ head ++ [' '] := by simpa using hhead
    have hcut : head ++ (key :: keys).flatMap (fun key => ' ' :: '@' :: key.toList) =
        (head ++ [' ']) ++
          '@' :: (key.toList ++ keys.flatMap fun key => ' ' :: '@' :: key.toList) := by
      simp
    rw [hcut, Text.allPieces_append_cons (by decide), List.map_append, ih hkey hkeys,
      Text.allPieces_eq_singleton (hnot hblank), List.map_singleton,
      Text.trimChars_append_right head (List.forall_mem_singleton.2 rfl)]
    rfl

/-! ### What lines say is writable -/

/-- The value of a rule stands in its first word. -/
theorem mem_of_parseHead {c : Char} (h : parseHead head = .ok (kind, value))
    (hc : c ∈ value.toList) : c ∈ head := by
  unfold parseHead at h
  split at h
  · cases h
    rwa [String.toList_ofList] at hc
  next word rest hcut =>
    split at h
    · cases h
    · cases h
      rw [(Text.cut?_eq_some_iff.1 hcut).1]
      rw [Text.trim, String.toList_ofList] at hc
      have hrest := Text.mem_of_mem_trimChars hc
      rw [String.toList_ofList] at hrest
      exact List.mem_append_right _ (List.mem_cons_of_mem _ hrest)

/-- An attribute is what follows the at sign of its word. -/
theorem parseAttribute_eq_ok_iff {word : List Char} {key : String} :
    parseAttribute word = .ok key ↔ key ≠ "" ∧ word = '@' :: key.toList := by
  unfold parseAttribute
  split
  next =>
    refine iff_of_false nofun fun h => h.1 ?_
    rw [← String.toList_inj]
    exact (List.cons_inj_right _).1 h.2.symm
  next rest hne =>
    constructor
    · rintro ⟨⟩
      refine ⟨fun h => hne ?_, by rw [String.toList_ofList]⟩
      rw [← String.toList_inj, String.toList_ofList] at h
      rw [h]
      rfl
    · rintro ⟨-, h⟩
      rw [(List.cons_inj_right _).1 h, String.ofList_toList]
  next hmark => exact iff_of_false nofun fun h => hmark _ h.2

/-- A value that passed the check passes it again when it is folded. -/
theorem checkValue_foldValue (h : checkValue kind value = .ok ()) :
    checkValue kind (Rule.foldValue kind value) = .ok () := by
  rw [checkValue_eq_ok_iff] at h ⊢
  refine ⟨fun hempty => h.1 (Rule.foldValue_eq_empty_iff.1 hempty), fun hregex => ?_⟩
  rw [Rule.foldValue, if_pos hregex]
  exact h.2 hregex

/-- A rule that a line states can be written. -/
theorem writable_rule_of_parse (h : parse line = .ok (.rule x)) : Writable (.rule x) := by
  obtain ⟨-, head, rest, kind, value, keys, hwords, hhead, hcheck, hkeys, rfl⟩ :=
    parse_eq_rule_iff.1 h
  -- a word has no blank in it, and folding makes none
  have hblank : ∀ w ∈ head :: rest, ∀ c ∈ w, isBlank c = false := by
    rw [← hwords]
    exact fun w hw => (Text.of_mem_words hw).2
  have hvalue : ∀ c ∈ value.toList, isBlank c = false :=
    fun c hc => hblank head List.mem_cons_self c (mem_of_parseHead hhead hc)
  have hlower : ∀ s : String, (∀ c ∈ s.toList, isBlank c = false) →
      ∀ c ∈ (Text.lower s).toList, isBlank c = false := by
    intro s hs
    rw [Text.lower, String.toList_ofList]
    exact (Text.respelled_lowerFrom [] s.toList).forall_not_blank hs
  obtain ⟨hkind', hvalue'⟩ := Rule.kind_value_withAttributes (Rule.plain kind value) keys
  refine .rule (Rule.built_iff_folded.1 ⟨kind, value, keys, rfl⟩) ?_ ?_ fun key hkey => ?_
  · rw [hkind', hvalue']
    exact checkValue_foldValue hcheck
  · rw [hvalue']
    show ∀ c ∈ (Rule.foldValue kind value).toList, _
    unfold Rule.foldValue
    split
    · exact hvalue
    · exact hlower value hvalue
  · -- each attribute was written after an at sign
    rcases Rule.of_mem_attributes_withAttributes hkey with hkey | ⟨added, hadded, rfl⟩
    · exact absurd hkey List.not_mem_nil
    · obtain ⟨word, hword, hparse⟩ := exists_of_mem_mapM hkeys hadded
      obtain ⟨hne, rfl⟩ := parseAttribute_eq_ok_iff.1 hparse
      refine ⟨mt Text.lower_eq_empty_iff.1 hne, hlower added fun c hc => ?_⟩
      exact hblank _ (List.mem_cons_of_mem _ hword) c (List.mem_cons_of_mem _ hc)

/-- An inclusion that a line asks for can be written. -/
theorem writable_inclusion_of_parse {filters : List Filter}
    (h : parse line = .ok (.inclusion target filters)) : Writable (.inclusion target filters) := by
  obtain ⟨rest, -, hne, rfl, rfl⟩ := parse_eq_inclusion_iff.1 h
  have hmark : ∀ p ∈ Text.allPieces (· == '@') rest, '@' ∉ Text.trimChars p := by
    intro p hp hmem
    have hnot := Text.of_mem_allPieces hp _ (Text.mem_of_mem_trimChars hmem)
    exact absurd hnot (by decide)
  -- the name and the attributes are pieces, trimmed and then folded
  have hupper := Text.respelled_upperChars (Text.trimChars (Text.pieces (· == '@') rest).1)
  refine .inclusion hne ?_ ?_ ?_ fun key hkey => ?_
  · have htarget : targetOf rest =
        Text.upper (.ofList (Text.trimChars (Text.pieces (· == '@') rest).1)) := by
      rw [Text.upper, String.toList_ofList, targetOf]
    rw [htarget, Text.upper_upper]
  · rw [targetOf, String.toList_ofList]
    exact hupper.trimmed (Text.trimmed_trimChars _)
  · rw [targetOf, String.toList_ofList]
    exact hupper.mark_not_mem (hmark _ List.mem_cons_self)
  · obtain ⟨cs, hcs, rfl⟩ := List.mem_map.1 hkey
    obtain ⟨hcs, hempty⟩ := List.mem_filter.1 hcs
    obtain ⟨p, hp, rfl⟩ := List.mem_map.1 hcs
    have hlower := Text.respelled_lowerFrom [] (Text.trimChars p)
    have hkey : String.ofList (Text.lowerChars (Text.trimChars p)) =
        Text.lower (.ofList (Text.trimChars p)) := by
      rw [Text.lower, String.toList_ofList]
    refine ⟨?_, ?_, ?_, ?_⟩
    · rw [Ne, ← String.toList_inj, String.toList_ofList]
      simpa using hempty
    · rw [hkey, Text.lower_lower]
    · rw [String.toList_ofList]
      exact hlower.trimmed (Text.trimmed_trimChars p)
    · rw [String.toList_ofList]
      exact hlower.mark_not_mem (hmark p (List.mem_cons_of_mem _ hp))

/-- What a line says is writable. -/
theorem writable_of_parse {stated : ListLine} (h : parse line = .ok stated) : Writable stated := by
  cases stated with
  | rule x => exact writable_rule_of_parse h
  | inclusion target filters => exact writable_inclusion_of_parse h

/-! ### What is writable can be read -/

/-- The word for a kind is read as the kind, and has neither a colon nor a blank in it. -/
theorem of_word (k : RuleKind) :
    RuleKind.ofWord? (Text.trim (.ofList k.word.toList)) = some k ∧ ':' ∉ k.word.toList ∧
      ∀ c ∈ k.word.toList, isBlank c = false := by
  have hblank : k.word.toList.all (!isBlank ·) = true := by cases k <;> decide +kernel
  refine ⟨?_, ?_, fun c hc => ?_⟩
  · cases k <;> decide +kernel
  · cases k <;> decide +kernel
  · simpa using List.all_eq_true.1 hblank c hc

/-- A kind and a value with a colon between are read back. -/
theorem parseHead_append (k : RuleKind) (hvalue : ∀ c ∈ value.toList, isBlank c = false) :
    parseHead (k.word.toList ++ ':' :: value.toList) = .ok (k, value) := by
  obtain ⟨hkind, hcolon, -⟩ := of_word k
  have hcut : Text.cut? ':' (k.word.toList ++ ':' :: value.toList) =
      some (k.word.toList, value.toList) :=
    Text.cut?_eq_some_iff.2 ⟨rfl, hcolon⟩
  have htrim : Text.trim (.ofList value.toList) = value := by
    rw [Text.trim, String.toList_ofList, (Text.trimmed_of_forall hvalue).trimChars_eq,
      String.ofList_toList]
  unfold parseHead
  rw [hcut]
  simp only [hkind, htrim]

/-- The canonical line for a rule is read as the rule. -/
theorem parse_toLine_rule (hfolded : x.Folded) (hcheck : checkValue x.kind x.value = .ok ())
    (hvalue : ∀ c ∈ x.value.toList, isBlank c = false)
    (hattributes : ∀ key ∈ x.attributes, key ≠ "" ∧ ∀ c ∈ key.toList, isBlank c = false) :
    parse x.toLine.toList = .ok (.rule x) := by
  have hline : x.toLine.toList =
      (x.kind.word.toList ++ ':' :: x.value.toList) ++ (attributeText x.attributes).toList := by
    simp [Rule.toLine, attributeText]
  refine parse_eq_rule_iff.2 ⟨?_, x.kind.word.toList ++ ':' :: x.value.toList,
    x.attributes.map fun key => '@' :: key.toList, x.kind, x.value, x.attributes, ?_,
    parseHead_append x.kind hvalue, hcheck, ?_, hfolded.rebuild.symm⟩
  · -- no kind has the word of an inclusion
    rw [hline]
    cases x.kind <;> rfl
  · rw [hline]
    refine words_append_attributeText (by simp) (fun c hc => ?_) fun key hkey =>
      (hattributes key hkey).2
    rcases List.mem_append.1 hc with hc | hc
    · exact (of_word x.kind).2.2 c hc
    · rcases List.mem_cons.1 hc with rfl | hc
      · decide
      · exact hvalue c hc
  · rw [mapM_eq_ok_iff, List.forall₂_map_left_iff, List.forall₂_same]
    exact fun key hkey => parseAttribute_eq_ok_iff.2 ⟨(hattributes key hkey).1, rfl⟩

/-- The attributes that filters for attributes ask for. -/
theorem wantedAttributes_filtersFor (keys : List String) :
    DomainList.wantedAttributes (filtersFor keys) = keys := by
  unfold filtersFor
  split
  next hnone =>
    rw [hnone]
    rfl
  next =>
    rw [DomainList.wantedAttributes, List.filterMap_map]
    exact List.filterMap_some

/-- The canonical line for an inclusion is read as the inclusion. -/
theorem parse_toLine_inclusion (hne : target ≠ "") (hupper : Text.upper target = target)
    (htrimmed : Trimmed target.toList) (hmark : '@' ∉ target.toList)
    (hkeys : ∀ key ∈ keys, key ≠ "" ∧ Text.lower key = key ∧ Trimmed key.toList ∧
      '@' ∉ key.toList) :
    parse (toLine (.inclusion target (filtersFor keys))).toList =
      .ok (.inclusion target (filtersFor keys)) := by
  have hline : (toLine (.inclusion target (filtersFor keys))).toList =
      inclusionWord.toList ++ (target.toList ++ (attributeText keys).toList) := by
    simp [toLine, wantedAttributes_filtersFor]
  have hpieces := map_trimChars_allPieces_attributeText hmark fun key hkey =>
    (hkeys key hkey).2.2.2
  rw [Text.allPieces, List.map_cons, List.cons.injEq] at hpieces
  obtain ⟨hfirst, hmore⟩ := hpieces
  -- what is read depends on the pieces alone, which are known now
  generalize target.toList ++ (attributeText keys).toList = rest at hline hfirst hmore
  have htarget : targetOf rest = target := by
    rw [targetOf, hfirst, htrimmed.trimChars_eq]
    exact hupper
  have hattributes : keysOf rest = keys := by
    have htexts :
        (Text.pieces (· == '@') rest).2.map (fun p => Text.lowerChars (Text.trimChars p)) =
          keys.map String.toList := by
      rw [← Function.comp_def, ← List.map_map, hmore, List.map_map]
      refine List.map_congr_left fun key hkey => ?_
      obtain ⟨-, hlower, hkeytrimmed, -⟩ := hkeys key hkey
      show Text.lowerChars (Text.trimChars key.toList) = key.toList
      rw [hkeytrimmed.trimChars_eq, ← String.ofList_inj, String.ofList_toList]
      exact hlower
    -- attributes that are empty would be left out, but there are none
    have hnonempty : ∀ cs ∈ keys.map String.toList, (!cs.isEmpty) = true := by
      intro cs hcs
      obtain ⟨key, hkey, rfl⟩ := List.mem_map.1 hcs
      simpa using (hkeys key hkey).1
    have hback : String.ofList ∘ String.toList = id := funext fun _ => String.ofList_toList
    rw [keysOf, htexts, List.filter_eq_self.2 hnonempty, List.map_map, hback, List.map_id]
  rw [hline]
  refine parse_eq_inclusion_iff.2 ⟨rest, Text.stripHead?_append _ _, ?_, htarget.symm, ?_⟩
  · rwa [htarget]
  · rw [hattributes]

/-- A canonical line is read as what it is written for. -/
theorem Writable.parse_toLine {stated : ListLine} (h : Writable stated) :
    parse stated.toLine.toList = .ok stated := by
  cases h with
  | rule hfolded hcheck hvalue hattributes =>
    exact parse_toLine_rule hfolded hcheck hvalue hattributes
  | inclusion hne hupper htrimmed hmark hkeys =>
    exact parse_toLine_inclusion hne hupper htrimmed hmark hkeys

/-- What lines say is exactly what is writable. -/
theorem exists_parse_eq_ok_iff {stated : ListLine} :
    (∃ line, parse line = .ok stated) ↔ Writable stated :=
  ⟨fun ⟨_, h⟩ => writable_of_parse h, fun h => ⟨_, h.parse_toLine⟩⟩

/-- Every line that can be read has a canonical form, which is read as the same. -/
theorem parseAt_toLine {file : String} {number : Nat} {stated : ListLine}
    (h : parseAt file number line = .ok stated) :
    parseAt file number stated.toLine.toList = .ok stated :=
  parseAt_eq_ok_iff.2 (writable_of_parse (parseAt_eq_ok_iff.1 h)).parse_toLine

/-- Two lines that are far from canonical. The value of the rule has a colon in it and an attribute
an at sign, and the other attribute is repeated; the inclusion has blanks in its names and
attributes that are empty, and its target becomes longer in upper case. -/
theorem parseAt_toLine_of_far :
    (∃ x, parseAt "list" 3 " \tregExp:a:B\u2003@Ads @a@B @ADS".toList = .ok (.rule x) ∧
      parseAt "list" 3 "regexp:a:B @ads @a@b".toList = .ok (.rule x)) ∧
    ∃ target filters,
      parseAt "list" 4 "include:  İstanbul ß@ CN\t@@ x y@ÄÉ".toList =
        .ok (.inclusion target filters) ∧
      parseAt "list" 4 "include:İSTANBUL SS @cn @x y @äé".toList =
        .ok (.inclusion target filters) := by
  have hrule : parseAt "list" 3 " \tregExp:a:B\u2003@Ads @a@B @ADS".toList =
      .ok (.rule ⟨.regex, "a:B", ["ads", "a@b"]⟩) := by decide +kernel
  have hinclusion : parseAt "list" 4 "include:  İstanbul ß@ CN\t@@ x y@ÄÉ".toList =
      .ok (.inclusion "İSTANBUL SS" [.attribute "cn", .attribute "x y", .attribute "äé"]) := by
    decide +kernel
  exact ⟨⟨_, hrule, parseAt_toLine hrule⟩, _, _, hinclusion, parseAt_toLine hinclusion⟩

end ListLine

end RoutingData
