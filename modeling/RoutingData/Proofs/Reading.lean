import RoutingData.Proofs.Filing
import RoutingData.Proofs.Inclusion.Graph
import RoutingData.Proofs.Success
import RoutingData.Proofs.Text.Case
import RoutingData.Registry.Load

/-!
# Lists that were read

What is known of a list because it was read from a text: its rules are those of the lines, each
filed by kind and attributes (`ofLines_eq`), and a rule without a value is a keyword
(`valued_of_parse`). `Registry.Parsed` describes the registries of such lists, which is where
resolution starts.
-/

namespace RoutingData

/-! ### Lines -/

/-- Only a keyword may be without a value. -/
def Rule.Valued (x : Rule) : Prop := x.value = "" → x.kind = .keyword

/-- Attributes do not concern the kind and the value. -/
theorem Rule.kind_value_withAttributes (x : Rule) (keys : List String) :
    (x.withAttributes keys).kind = x.kind ∧ (x.withAttributes keys).value = x.value := by
  induction keys generalizing x with
  | nil => exact ⟨rfl, rfl⟩
  | cons key keys ih =>
    have hkey : (x.withAttribute key).kind = x.kind ∧ (x.withAttribute key).value = x.value := by
      rw [Rule.withAttribute]
      split
      · exact ⟨rfl, rfl⟩
      · exact ⟨rfl, rfl⟩
    rw [Rule.withAttributes, List.foldl_cons, ← Rule.withAttributes, ← hkey.1, ← hkey.2]
    exact ih _

/-- A stored value is empty only if the value that was given is. -/
theorem Rule.foldValue_eq_empty_iff {kind : RuleKind} {value : String} :
    Rule.foldValue kind value = "" ↔ value = "" := by
  rw [Rule.foldValue]
  split
  · exact Iff.rfl
  · exact Text.lower_eq_empty_iff

namespace ListLine

variable {x : Rule} {kind : RuleKind} {value : String} {line : List Char}

/-- The check of values lets keywords alone be empty, and regular expressions alone be refused. -/
theorem checkValue_eq_ok_iff :
    checkValue kind value = .ok () ↔
      (value = "" → kind = .keyword) ∧ (kind = .regex → Pattern.isValid value = true) := by
  unfold checkValue
  split
  next hempty =>
    have hvalue : value = "" ∧ kind ≠ .keyword := by simpa using hempty
    exact iff_of_false nofun fun h => hvalue.2 (h.1 hvalue.1)
  next hempty =>
    have hvalue : value = "" → kind = .keyword := by simpa using hempty
    split
    next hpattern =>
      have hregex : kind = .regex ∧ Pattern.isValid value = false := by simpa using hpattern
      exact iff_of_false nofun fun h => by simp [h.2 hregex.1] at hregex
    next hpattern => exact iff_of_true rfl ⟨hvalue, by simpa using hpattern⟩

/-- A line is read as a rule when it is no inclusion, its first word states a kind and a value that
pass the check, and the other words state attributes. -/
theorem parse_eq_rule_iff :
    parse line = .ok (.rule x) ↔
      Text.stripHead? inclusionWord.toList line = none ∧
        ∃ head rest kind value keys, Text.words line = head :: rest ∧
          parseHead head = .ok (kind, value) ∧ checkValue kind value = .ok () ∧
          rest.mapM parseAttribute = .ok keys ∧
          x = (Rule.plain kind value).withAttributes keys := by
  unfold parse
  cases Text.stripHead? inclusionWord.toList line with
  | some rest =>
    -- an inclusion is not a rule
    refine iff_of_false ?_ (by simp)
    simp only [parseInclusion]
    split
    · exact nofun
    · exact nofun
  | none =>
    refine Iff.trans ?_ (and_iff_right rfl).symm
    show parseRule line = _ ↔ _
    rw [parseRule]
    cases Text.words line with
    | nil => simp
    | cons head rest =>
      constructor
      · intro h
        obtain ⟨⟨kind, value⟩, hhead, h⟩ := bind_eq_ok_iff.1 h
        obtain ⟨_, hcheck, h⟩ := bind_eq_ok_iff.1 h
        obtain ⟨keys, hkeys, h⟩ := bind_eq_ok_iff.1 h
        cases h
        exact ⟨head, rest, kind, value, keys, rfl, hhead, hcheck, hkeys, rfl⟩
      · rintro ⟨_, _, kind, value, keys, heq, hhead, hcheck, hkeys, rfl⟩
        cases heq
        exact bind_eq_ok_iff.2 ⟨_, hhead, bind_eq_ok_iff.2 ⟨_, hcheck,
          bind_eq_ok_iff.2 ⟨_, hkeys, rfl⟩⟩⟩

/-- A line that is read as a rule states a kind and a value, which was checked, and attributes. -/
theorem exists_of_parse (h : parse line = .ok (.rule x)) :
    ∃ kind value keys, checkValue kind value = .ok () ∧
      x = (Rule.plain kind value).withAttributes keys := by
  obtain ⟨-, _, _, kind, value, keys, -, -, hcheck, -, heq⟩ := parse_eq_rule_iff.1 h
  exact ⟨kind, value, keys, hcheck, heq⟩

/-- The name of the list that an inclusion asks for. -/
def targetOf (cs : List Char) : String :=
  .ofList (Text.upperChars (Text.trimChars (Text.pieces (· == '@') cs).1))

/-- The attributes that an inclusion asks for. -/
def keysOf (cs : List Char) : List String :=
  (((Text.pieces (· == '@') cs).2.map fun p => Text.lowerChars (Text.trimChars p)).filter
    (!·.isEmpty)).map .ofList

/-- The filters for attributes; without any, every rule is asked for. -/
def filtersFor (keys : List String) : List Filter :=
  if keys = [] then [.all] else keys.map .attribute

/-- What follows the word of an inclusion is a name and attributes. -/
theorem parseInclusion_eq (cs : List Char) :
    parseInclusion cs =
      if targetOf cs = "" then .error .emptyTarget
      else .ok (.inclusion (targetOf cs) (filtersFor (keysOf cs))) := by
  simp only [parseInclusion, targetOf, keysOf, String.ofList_eq_empty_iff, List.isEmpty_iff]
  split
  · rfl
  · -- the filters are none when the attributes are
    generalize List.filter _ _ = keys
    cases keys with
    | nil => rfl
    | cons key keys => simp [filtersFor]

/-- A line is read as an inclusion when it starts with the word for one and a name follows. -/
theorem parse_eq_inclusion_iff {target : String} {filters : List Filter} :
    parse line = .ok (.inclusion target filters) ↔
      ∃ rest, Text.stripHead? inclusionWord.toList line = some rest ∧ targetOf rest ≠ "" ∧
        target = targetOf rest ∧ filters = filtersFor (keysOf rest) := by
  unfold parse
  cases Text.stripHead? inclusionWord.toList line with
  | none =>
    -- the other lines state rules
    refine iff_of_false ?_ (by simp)
    show parseRule line ≠ _
    unfold parseRule
    split
    · exact nofun
    · intro h
      obtain ⟨_, -, h⟩ := bind_eq_ok_iff.1 h
      obtain ⟨_, -, h⟩ := bind_eq_ok_iff.1 h
      obtain ⟨_, -, h⟩ := bind_eq_ok_iff.1 h
      cases h
  | some rest =>
    simp only [Option.some.injEq, exists_eq_left']
    rw [parseInclusion_eq]
    split
    next hempty => simp [hempty]
    next hne => simp [hne, eq_comm]

/-- A line that is read as a rule gives it a value, unless it is a keyword. -/
theorem valued_of_parse (h : parse line = .ok (.rule x)) : x.Valued := by
  obtain ⟨kind, value, keys, hcheck, rfl⟩ := exists_of_parse h
  have hkeys := Rule.kind_value_withAttributes (Rule.plain kind value) keys
  rw [Rule.Valued, hkeys.1, hkeys.2]
  intro hvalue
  exact (checkValue_eq_ok_iff.1 hcheck).1 (Rule.foldValue_eq_empty_iff.1 hvalue)

/-- The number of a line and its file are for failures alone. -/
theorem parseAt_eq_ok_iff {file : String} {number : Nat} {line : List Char} {stated : ListLine} :
    parseAt file number line = .ok stated ↔ parse line = .ok stated :=
  mapError_eq_ok_iff

/-- The rules that lines state. -/
def rulesOf (lines : List ListLine) : List Rule :=
  lines.filterMap fun
    | .rule r => some r
    | .inclusion .. => none

/-- A rule is stated by a line of its own. -/
theorem mem_rulesOf {lines : List ListLine} : x ∈ rulesOf lines ↔ .rule x ∈ lines := by
  rw [rulesOf, List.mem_filterMap]
  constructor
  · rintro ⟨_ | y, hy, hyx⟩
    · cases hyx
    · cases hyx
      exact hy
  · exact fun hx => ⟨_, hx, rfl⟩

end ListLine

/-! ### Lists -/

namespace DomainList

variable {l : DomainList} {file name text : String} {x : Rule}

/-- The list that some lines describe. -/
def ofLines (name : String) (lines : List ListLine) : DomainList :=
  lines.foldl addLine (named name)

/-- Lines add the rules that they state, and inclusions. -/
theorem foldl_addLine_eq (lines : List ListLine) (l : DomainList) :
    ∃ has inclusions, lines.foldl addLine l =
      { l.addRules (ListLine.rulesOf lines) with
        hasInclusion := has
        inclusions := inclusions } := by
  induction lines generalizing l with
  | nil => exact ⟨l.hasInclusion, l.inclusions, rfl⟩
  | cons line lines ih =>
    obtain ⟨has, inclusions, heq⟩ := ih (l.addLine line)
    refine ⟨has, inclusions, heq.trans ?_⟩
    cases line with
    | rule r => rfl
    | inclusion target filters =>
      -- that there is one inclusion more makes no difference for the rules
      rw [addLine, addInclusion, addRules_withInclusions]
      rfl

/-- Lines give a list its rules and its inclusions. -/
theorem ofLines_eq (name : String) (lines : List ListLine) :
    ∃ has inclusions, ofLines name lines =
      { (named name).addRules (ListLine.rulesOf lines) with
        hasInclusion := has
        inclusions := inclusions } :=
  foldl_addLine_eq lines (named name)

/-- A list that was read is filed. -/
theorem filed_ofLines (name : String) (lines : List ListLine) : (ofLines name lines).Filed := by
  obtain ⟨has, inclusions, heq⟩ := ofLines_eq name lines
  rw [heq]
  exact ((filed_named name).addRules _).withInclusions has inclusions

/-- The lines of a text may be read before any is added. -/
theorem parseFrom_eq (file name text : String) :
    parseFrom file name text =
      ((Text.meaningfulLines text).mapM fun p => ListLine.parseAt file p.1 p.2).map
        (ofLines name) :=
  foldlM_eq_map_mapM _ _

/-- Lists are read line by line. -/
theorem parseFrom_eq_ok_iff :
    parseFrom file name text = .ok l ↔
      ∃ lines, (Text.meaningfulLines text).mapM (fun p => ListLine.parseAt file p.1 p.2) =
        .ok lines ∧ l = ofLines name lines := by
  rw [parseFrom_eq, map_eq_ok_iff]
  simp only [eq_comm]

/-- The rules of a list that was read are stated by lines. -/
theorem exists_parse_of_mem_rulesOf {lines : List ListLine}
    (h : (Text.meaningfulLines text).mapM (fun p => ListLine.parseAt file p.1 p.2) = .ok lines)
    (hx : x ∈ ListLine.rulesOf lines) : ∃ line, ListLine.parse line = .ok (.rule x) := by
  obtain ⟨⟨number, line⟩, -, hline⟩ := exists_of_mem_mapM h (ListLine.mem_rulesOf.1 hx)
  exact ⟨line, ListLine.parseAt_eq_ok_iff.1 hline⟩

/-- What is known of a list that was read. -/
structure Fresh (l : DomainList) : Prop where
  /-- Its rules stand where they belong. -/
  filed : l.Filed
  /-- No domain rules are selected yet. -/
  uniqueDomain_eq : l.uniqueDomain = []
  /-- Only keywords may be without a value. -/
  valued_of_mem_bucket : ∀ k, ∀ x ∈ l.bucket k, x.Valued
  /-- With attributes, too. -/
  valued_of_mem_attributeRules : ∀ x ∈ l.attributeRules, x.Valued

/-- A list that was read is fresh, and it has the name given, in upper case. -/
theorem fresh_of_parseFrom (h : parseFrom file name text = .ok l) :
    l.Fresh ∧ l.name = Text.upper name := by
  obtain ⟨lines, hlines, rfl⟩ := parseFrom_eq_ok_iff.1 h
  obtain ⟨has, inclusions, heq⟩ := ofLines_eq name lines
  have hvalued : ∀ x ∈ ListLine.rulesOf lines, x.Valued := by
    intro x hx
    obtain ⟨line, hline⟩ := exists_parse_of_mem_rulesOf hlines hx
    exact ListLine.valued_of_parse hline
  obtain ⟨hname, hunique⟩ := (named name).addRules_frame (ListLine.rulesOf lines)
  refine ⟨⟨filed_ofLines name lines, ?_, fun k x hx => ?_, fun x hx => ?_⟩, ?_⟩
  · rw [heq]
    exact hunique
  · rw [heq] at hx
    have hx : x ∈ ((named name).addRules (ListLine.rulesOf lines)).bucket k := by
      cases k <;> exact hx
    rw [bucket_addRules] at hx
    have hrules : x ∈ ListLine.rulesOf lines := by
      cases k <;> exact List.mem_of_mem_filter hx
    exact hvalued x hrules
  · rw [heq] at hx
    have hx : x ∈ ((named name).addRules (ListLine.rulesOf lines)).attributeRules := hx
    rw [attributeRules_addRules] at hx
    exact hvalued x (List.mem_of_mem_filter hx)
  · rw [heq]
    exact hname

end DomainList

/-! ### Registries -/

namespace Registry

variable {r : Registry} {a : String} {l : DomainList}

/-- The registry holds lists as they were read. -/
inductive Parsed : Registry → Prop
  | empty : Parsed ∅
  | add {r : Registry} {file name text : String} {l : DomainList} :
      Parsed r → DomainList.parseFrom file name text = .ok l → Parsed (r.add l)

/-- Lists that were read stand under their own names. -/
theorem Parsed.keyed (hr : r.Parsed) : r.Keyed := by
  induction hr with
  | empty => exact keyed_empty
  | add _ _ ih => exact ih.add _

/-- The lists were read. -/
theorem Parsed.exists_parseFrom (hr : r.Parsed) (hl : r.get? a = some l) :
    ∃ file name text, DomainList.parseFrom file name text = .ok l := by
  induction hr with
  | empty => cases hl
  | add _ hparse ih =>
    rw [Registry.add, Table.get?_insert] at hl
    split at hl
    · cases hl
      exact ⟨_, _, _, hparse⟩
    · exact ih hl

/-- Lists that were read are fresh. -/
theorem Parsed.fresh (hr : r.Parsed) (hl : r.get? a = some l) : l.Fresh := by
  obtain ⟨file, name, text, hparse⟩ := hr.exists_parseFrom hl
  exact (DomainList.fresh_of_parseFrom hparse).1

/-- The registry of the texts that can be read, each with a name. -/
def ofTexts (texts : List (String × String)) : Registry :=
  texts.foldl
    (fun r t => match DomainList.parse t.1 t.2 with
      | .ok l => r.add l
      | .error _ => r)
    ∅

/-- Texts make a registry of lists as they were read. -/
theorem parsed_ofTexts (texts : List (String × String)) : (ofTexts texts).Parsed := by
  refine List.foldlRecOn texts _ .empty fun r hr t _ => ?_
  split
  next hparse => exact hr.add hparse
  next => exact hr

/-- Loading a directory makes a registry of lists as they were read. -/
theorem parsed_of_load {t : FileTree} {directory : String} (h : load t directory = .ok r) :
    r.Parsed := by
  obtain ⟨files, -, h⟩ := bind_eq_ok_iff.1 h
  obtain ⟨lists, hlists, h⟩ := bind_eq_ok_iff.1 h
  cases h
  have hread : ∀ l ∈ lists, ∃ file name text, DomainList.parseFrom file name text = .ok l := by
    intro l hl
    obtain ⟨path, -, hpath⟩ := exists_of_mem_mapM hlists hl
    obtain ⟨text, -, hparse⟩ := bind_eq_ok_iff.1 hpath
    exact ⟨path, _, text, hparse⟩
  refine List.foldlRecOn lists Registry.add .empty fun r hr l hl => ?_
  obtain ⟨file, name, text, hparse⟩ := hread l hl
  exact hr.add hparse

end Registry

end RoutingData
