import RoutingData.Proofs.CanonicalLines
import RoutingData.Proofs.Inclusion.Wording
import RoutingData.Proofs.Text.Lines

/-!
# Lists read line by line

A list is read from its text line by line. A line that holds no more than blanks and a comment is
skipped, though it is counted; the others state rules and inclusions, and the first that cannot be
read is where reading stops.

## Main results

* `parse_eq_ok_iff`: a list is read from what the lines of its text say, which does not depend on
  the layout of the text;
* `parse_eq_error_of_lines_eq`: the first line that cannot be read decides the failure;
* `statedBy_ofLines`: what the list is that lines state;
* `parse_line_by_line`: these together.
-/

namespace RoutingData.DomainList

open Text (lines stripComment contents)

variable {l : DomainList} {name text : String} {line : List Char} {front back : List (List Char)}
  {fault : LineFault}

/-! ### Lines that can be read -/

/-- A line says nothing, or what it says can be read. -/
def Readable (line : List Char) : Prop :=
  stripComment line ≠ [] → ∃ stated, ListLine.parse (stripComment line) = .ok stated

/-- The line is refused. -/
def Refused (line : List Char) (fault : LineFault) : Prop :=
  stripComment line ≠ [] ∧ ListLine.parse (stripComment line) = .error fault

/-- A line that cannot be read is refused for some fault. -/
theorem exists_refused_of_not_readable (h : ¬ Readable line) : ∃ fault, Refused line fault := by
  obtain ⟨hne, hnone⟩ := Classical.not_imp.1 h
  cases hparse : ListLine.parse (stripComment line) with
  | ok stated => exact absurd ⟨stated, hparse⟩ hnone
  | error fault => exact ⟨fault, hne, hparse⟩

/-- What the lines of a text say can be read when the lines can be. -/
theorem forall_mem_contents_iff :
    (∀ content ∈ contents text, ∃ stated, ListLine.parse content = .ok stated) ↔
      ∀ line ∈ lines text, Readable line := by
  rw [Text.contents_eq_filter]
  constructor
  · intro h line hline hne
    refine h _ (List.mem_filter.2 ⟨List.mem_map_of_mem hline, ?_⟩)
    simpa using hne
  · intro h content hcontent
    obtain ⟨hmem, hne⟩ := List.mem_filter.1 hcontent
    obtain ⟨line, hline, rfl⟩ := List.mem_map.1 hmem
    exact h line hline (by simpa using hne)

/-! ### Success -/

/-- A list is read from what the lines of its text say. -/
theorem parse_eq_ok_iff :
    parse name text = .ok l ↔
      ∃ stated, (contents text).mapM ListLine.parse = .ok stated ∧ l = ofLines name stated := by
  rw [parse, parseFrom_eq_ok_iff]
  refine exists_congr fun stated => and_congr_left fun _ => ?_
  -- numbers matter in failures only
  rw [mapM_eq_ok_iff, mapM_eq_ok_iff, contents, List.forall₂_map_left_iff]
  simp only [ListLine.parseAt_eq_ok_iff]

/-- Reading succeeds when every line can be read. -/
theorem exists_parse_eq_ok_iff (name text : String) :
    (∃ l, parse name text = .ok l) ↔ ∀ line ∈ lines text, Readable line := by
  rw [← forall_mem_contents_iff, ← exists_mapM_eq_ok_iff]
  simp only [parse_eq_ok_iff]
  constructor
  · rintro ⟨l, stated, hstated, -⟩
    exact ⟨stated, hstated⟩
  · rintro ⟨stated, hstated⟩
    exact ⟨_, stated, hstated, rfl⟩

/-- What a list is that lines state: each rule stands in file order where its kind and its
attributes put it, no domain rule is selected yet, and each inclusion asks for the filters of all
lines for its target, each once and in the order of their first appearance. -/
structure StatedBy (l : DomainList) (name : String) (stated : List ListLine) : Prop where
  /-- The name is in upper case. -/
  name_eq : l.name = Text.upper name
  /-- Rules without attributes, kind by kind. -/
  bucket_eq : ∀ k, l.bucket k =
    (ListLine.rulesOf stated).filter fun x => !x.hasAttributes && x.kind == k
  /-- Rules with attributes. -/
  attributeRules_eq : l.attributeRules = (ListLine.rulesOf stated).filter (·.hasAttributes)
  /-- The rules with attributes once more, in groups. -/
  groupAt_eq : ∀ key, groupAt l.attributeGroups key =
    l.attributeRules.filter (·.groupKey == key)
  /-- No domain rule is selected. -/
  uniqueDomain_eq : l.uniqueDomain = []
  /-- What inclusions ask for. -/
  inclusions_eq : ∀ a, l.inclusions.get? a = requested (inclusionsOf stated) a
  /-- Inclusions are remembered. -/
  hasInclusion_iff : l.hasInclusion = true ↔ inclusionsOf stated ≠ []

/-- An inclusion is asked for by a line of its own. -/
theorem mem_inclusionsOf {stated : List ListLine} {q : Request} :
    q ∈ inclusionsOf stated ↔ .inclusion q.1 q.2 ∈ stated := by
  rw [inclusionsOf, List.mem_filterMap]
  constructor
  · rintro ⟨_ | _, hmem, heq⟩
    · cases heq
      exact hmem
    · cases heq
  · exact fun hmem => ⟨_, hmem, rfl⟩

/-- The target of an inclusion is in upper case. -/
theorem upper_target_of_parse {target : String} {filters : List Filter}
    (h : ListLine.parse line = .ok (.inclusion target filters)) : Text.upper target = target := by
  cases ListLine.writable_of_parse h with
  | inclusion _ hupper => exact hupper

/-- What the list is that is made of lines. -/
theorem statedBy_ofLines (name : String) (stated : List ListLine) :
    (ofLines name stated).StatedBy name stated := by
  obtain ⟨has, inclusions, heq⟩ := ofLines_eq name stated
  obtain ⟨hholds, hmark⟩ := holds_ofLines name stated
  obtain ⟨hname, hunique⟩ := (named name).addRules_frame (ListLine.rulesOf stated)
  refine ⟨?_, fun k => ?_, ?_, (filed_ofLines name stated).groupAt_eq, ?_, hholds, hmark⟩
  · rw [heq]
    exact hname
  · have hbucket : (ofLines name stated).bucket k =
        ((named name).addRules (ListLine.rulesOf stated)).bucket k := by
      rw [heq]
      cases k <;> rfl
    rw [hbucket, bucket_addRules]
    cases k <;> rfl
  · rw [heq]
    exact attributeRules_addRules (named name) (ListLine.rulesOf stated)
  · rw [heq]
    exact hunique

/-! ### Failure -/

/-- The first line that is refused decides the failure. -/
theorem parse_eq_error_of_lines_eq (hlines : lines text = front ++ line :: back)
    (hfront : ∀ line ∈ front, Readable line) (hline : Refused line fault) :
    parse name text = .error (.line name (front.length + 1) fault) := by
  obtain ⟨numbered, more, heq, hnumbered⟩ := Text.exists_meaningfulLines_eq hlines hline.1
  have hsteps : (Text.meaningfulLines text).mapM (fun p => ListLine.parseAt name p.1 p.2) =
      .error (.line name (front.length + 1) fault) := by
    refine mapM_eq_error_iff.2 ⟨numbered, _, more, heq, fun p hp => ?_, ?_⟩
    · -- what stands before comes from lines that can be read
      have hcontent : p.2 ∈ (front.map stripComment).filter (!·.isEmpty) := by
        rw [← hnumbered]
        exact List.mem_map_of_mem hp
      obtain ⟨hmem, hne⟩ := List.mem_filter.1 hcontent
      obtain ⟨first, hfirst, hp2⟩ := List.mem_map.1 hmem
      rw [← hp2] at hne ⊢
      obtain ⟨stated, hstated⟩ := hfront first hfirst (by simpa using hne)
      exact ⟨stated, ListLine.parseAt_eq_ok_iff.2 hstated⟩
    · rw [ListLine.parseAt, hline.2]
      rfl
  rw [parse, parseFrom_eq, hsteps]
  rfl

/-- When not every line can be read, there is a first one that is refused. -/
theorem exists_first_refused {ls : List (List Char)} (h : ¬ ∀ line ∈ ls, Readable line) :
    ∃ front line back fault, ls = front ++ line :: back ∧ (∀ line ∈ front, Readable line) ∧
      Refused line fault := by
  induction ls with
  | nil => exact absurd (List.forall_mem_nil _) h
  | cons line ls ih =>
    by_cases hline : Readable line
    · obtain ⟨front, other, back, fault, heq, hfront, hother⟩ :=
        ih fun hls => h (List.forall_mem_cons.2 ⟨hline, hls⟩)
      refine ⟨line :: front, other, back, fault, congrArg (line :: ·) heq, ?_, hother⟩
      exact List.forall_mem_cons.2 ⟨hline, hfront⟩
    · obtain ⟨fault, hfault⟩ := exists_refused_of_not_readable hline
      exact ⟨[], line, ls, fault, rfl, List.forall_mem_nil _, hfault⟩

/-- Reading fails with the number of the first line that is refused. -/
theorem parse_eq_error_iff {e : BuildError} :
    parse name text = .error e ↔
      ∃ front line back fault, lines text = front ++ line :: back ∧
        (∀ line ∈ front, Readable line) ∧ Refused line fault ∧
        e = .line name (front.length + 1) fault := by
  constructor
  · intro h
    have hnot : ¬ ∀ line ∈ lines text, Readable line := by
      rw [← exists_parse_eq_ok_iff name, h]
      rintro ⟨l, hl⟩
      cases hl
    obtain ⟨front, line, back, fault, hlines, hfront, hline⟩ := exists_first_refused hnot
    refine ⟨front, line, back, fault, hlines, hfront, hline, ?_⟩
    -- there is only one failure, and it is the one of this line
    rw [parse_eq_error_of_lines_eq hlines hfront hline] at h
    cases h
    rfl
  · rintro ⟨front, line, back, fault, hlines, hfront, hline, rfl⟩
    exact parse_eq_error_of_lines_eq hlines hfront hline

-- the comment and the empty line are counted
example : parse "list" "# rules\r\n\n  full:a.com # first\nfoo:x\nbar:y" =
    .error (.line "list" 4 (.unknownKind "foo")) := by
  decide +kernel

/-! ### Layout -/

/-- Texts that differ in their layout alone are read as the same list. -/
theorem parse_eq_ok_iff_of_sameButLayout {text' : String} (h : Text.SameButLayout text text') :
    parse name text = .ok l ↔ parse name text' = .ok l := by
  rw [parse_eq_ok_iff, parse_eq_ok_iff, Text.contents_eq_of_sameButLayout h]

/-- A list is read line by line. It is there exactly when every line that says something can be
read, and then holds what the lines state, in file order. Otherwise the first line that is refused
decides the failure, numbered as it stands in the text. Layout that is put in, taken away or changed
makes no difference to a list that is read. -/
theorem parse_line_by_line (name text : String) :
    ((∃ l, parse name text = .ok l) ↔ ∀ line ∈ lines text, Readable line) ∧
    (∀ e, parse name text = .error e ↔
      ∃ front line back fault, lines text = front ++ line :: back ∧
        (∀ line ∈ front, Readable line) ∧ Refused line fault ∧
        e = .line name (front.length + 1) fault) ∧
    (∀ l, parse name text = .ok l →
      ∃ stated, List.Forall₂ (fun content s => ListLine.parse content = .ok s) (contents text)
          stated ∧
        (∀ q ∈ inclusionsOf stated, Text.upper q.1 = q.1) ∧ l.StatedBy name stated) ∧
    ∀ text', Text.SameButLayout text text' →
      ∀ l, parse name text = .ok l ↔ parse name text' = .ok l := by
  refine ⟨exists_parse_eq_ok_iff name text, fun e => parse_eq_error_iff, fun l hl => ?_,
    fun text' h l => parse_eq_ok_iff_of_sameButLayout h⟩
  obtain ⟨stated, hstated, rfl⟩ := parse_eq_ok_iff.1 hl
  refine ⟨stated, mapM_eq_ok_iff.1 hstated, fun q hq => ?_, statedBy_ofLines name stated⟩
  obtain ⟨content, -, hcontent⟩ := exists_of_mem_mapM hstated (mem_inclusionsOf.1 hq)
  exact upper_target_of_parse hcontent

end RoutingData.DomainList
