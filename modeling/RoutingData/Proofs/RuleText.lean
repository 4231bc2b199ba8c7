import RoutingData.Overrides
import RoutingData.Proofs.Text.Lines
import RoutingData.RuleText

/-!
# Rule files as lines

What a rule file says is its trimmed lines that are not blank (`RuleText.readLines`). A text that is
read is written back as these lines and read as them again, but a line that is added may be
anything: blank, padded, or several lines in one. It is written as it stands and comes apart when
the file is read the next time, so what it adds is what it says as a text of its own
(`readLines_ofLines`). Hence `LineEdits.kept`: what edits make of a text, line by line.
-/

namespace RoutingData

namespace RuleText

open Text (splitAt trim)

variable {line text : String} {ls : List String}

/-- The lines that are read are the pieces between line feeds, trimmed, as far as something is left
of them. -/
theorem readLines_eq (text : String) :
    readLines text = ((splitAt '\n' text).map trim).filter (· ≠ "") := by
  have hread : ∀ cs, Text.trimChars (Text.dropReturn cs) = Text.trimChars cs := by
    intro cs
    obtain ⟨bs, hbs, hcs⟩ := Text.exists_eq_dropReturn_append cs
    conv_rhs => rw [hcs]
    exact (Text.trimChars_append_right _ hbs).symm
  have htrim : trim = String.ofList ∘ fun p : String => Text.trimChars p.toList := rfl
  have hempty : ∀ css : List (List Char),
      (css.filter (!·.isEmpty)).map String.ofList = (css.map String.ofList).filter (· ≠ "") := by
    intro css
    rw [List.filter_map]
    refine congrArg (List.map _) (List.filter_congr fun cs _ => ?_)
    rw [Bool.eq_iff_iff]
    simp [String.ofList_eq_empty_iff]
  rw [readLines, Text.filter_map_lines hread rfl, hempty, List.map_map, htrim]

/-- A line feed cuts a text in two, which are read on their own. -/
theorem readLines_append_line (s t : String) :
    readLines (s ++ "\n" ++ t) = readLines s ++ readLines t := by
  rw [readLines_eq, Text.splitAt_append_line, List.map_append, List.filter_append,
    ← readLines_eq, ← readLines_eq]

/-- What is written line by line is read line by line. -/
theorem readLines_ofLines (ls : List String) : readLines (ofLines ls) = ls.flatMap readLines := by
  induction ls with
  | nil => rfl
  | cons line ls ih =>
    have hcons : ofLines (line :: ls) = line ++ "\n" ++ ofLines ls := by
      rw [ofLines, List.map_cons, String.join_cons, ← ofLines, String.push_eq_append]
      rfl
    rw [hcons, readLines_append_line, ih, List.flatMap_cons]

/-- A line that was read is one line, trimmed and not blank. -/
theorem readLines_of_mem (h : line ∈ readLines text) : readLines line = [line] := by
  rw [readLines_eq] at h
  obtain ⟨hmem, hne⟩ := List.mem_filter.1 h
  obtain ⟨piece, hpiece, rfl⟩ := List.mem_map.1 hmem
  obtain ⟨cs, hcs, rfl⟩ := List.mem_map.1 hpiece
  -- no line feed is left in a piece, and trimming it again changes nothing
  have hfeed : '\n' ∉ (trim (.ofList cs)).toList := by
    intro hc
    rw [trim, String.toList_ofList, String.toList_ofList] at hc
    have hnot := Text.of_mem_allPieces hcs _ (Text.mem_of_mem_trimChars hc)
    exact absurd hnot (by decide)
  have htrimmed : trim (trim (.ofList cs)) = trim (.ofList cs) := by
    unfold trim
    rw [String.toList_ofList, String.toList_ofList, (Text.trimmed_trimChars cs).trimChars_eq]
  rw [readLines_eq, Text.splitAt_of_not_mem hfeed, List.map_singleton, htrimmed]
  exact List.filter_cons_of_pos hne

/-- Lines that were read are read again as they stand. -/
theorem flatMap_readLines (h : ∀ line ∈ ls, ∃ text, line ∈ readLines text) :
    ls.flatMap readLines = ls := by
  have hself : ∀ line ∈ ls, readLines line = [line] := by
    intro line hline
    obtain ⟨text, htext⟩ := h line hline
    exact readLines_of_mem htext
  rw [List.flatMap_congr hself, List.flatMap_singleton']

end RuleText

/-! ### Edits -/

namespace LineEdits

open RuleText

variable {edits : LineEdits} {line : String}

/-- The lines of a text after edits: those of the text and then those of each addition, without the
lines that are removed. -/
def kept (edits : LineEdits) (text : String) : List String :=
  (readLines text ++ edits.add.flatMap readLines).filter (· ∉ edits.remove)

/-- Every line that is kept was read, and is none of those that are removed. -/
theorem of_mem_kept {text : String} (h : line ∈ edits.kept text) :
    line ∉ edits.remove ∧ ∃ source, line ∈ readLines source := by
  obtain ⟨hmem, hnot⟩ := List.mem_filter.1 h
  refine ⟨by simpa using hnot, ?_⟩
  rcases List.mem_append.1 hmem with hmem | hmem
  · exact ⟨text, hmem⟩
  · obtain ⟨added, -, hadded⟩ := List.mem_flatMap.1 hmem
    exact ⟨added, hadded⟩

/-- The lines that are kept are what is read of them. -/
theorem readLines_ofLines_kept (edits : LineEdits) (text : String) :
    readLines (ofLines (edits.kept text)) = edits.kept text := by
  rw [readLines_ofLines]
  exact flatMap_readLines fun line hline => (of_mem_kept hline).2

/-- Adding and then removing lines leaves the lines that are kept. -/
theorem removeLines_addLines (edits : LineEdits) (text : String) :
    removeLines edits.remove (addLines edits.add text) = ofLines (edits.kept text) := by
  have hread : readLines (addLines edits.add text) =
      readLines text ++ edits.add.flatMap readLines := by
    rw [addLines, readLines_ofLines, List.flatMap_append,
      flatMap_readLines fun line hline => ⟨text, hline⟩]
  rw [removeLines, hread, kept]
  exact congrArg ofLines (List.filter_congr fun line _ => by simp)

end LineEdits

end RoutingData
