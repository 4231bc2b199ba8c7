import Mathlib.Logic.Relation
import RoutingData.Proofs.Text.Trim
import RoutingData.Text.Comment

/-!
# Lines of a text

What is read of a line without the blanks around it does not depend on how the line ends, so it may
be read of the pieces between line feeds instead (`filter_map_lines`); the one piece more, after the
last line feed, is empty and does not count. Hence a text may be cut where a line starts or where
what counts of a line ends, and each part says what it says alone.

The layout of a text is what is put in at such places (`Relaid`): blanks, line breaks among them,
and comments. It makes no difference to what the text says (`contents_eq_of_sameButLayout`).
-/

namespace RoutingData.Text

variable {c : Char} {s t before after : String}

/-- A carriage return at the end of a line is a blank. -/
theorem exists_eq_dropReturn_append (cs : List Char) :
    ∃ bs, (∀ c ∈ bs, isBlank c = true) ∧ cs = dropReturn cs ++ bs := by
  unfold dropReturn
  split
  next rest heq =>
    refine ⟨['\r'], List.forall_mem_singleton.2 rfl, ?_⟩
    rw [← List.reverse_inj, heq]
    simp
  next => exact ⟨[], by simp, (List.append_nil _).symm⟩

/-- What is read of each line, and is empty for an empty line, may be read of the pieces between
line feeds, if the end of a line makes no difference. -/
theorem filter_map_lines {read : List Char → List Char}
    (hread : ∀ cs, read (dropReturn cs) = read cs) (hempty : read [] = []) (s : String) :
    ((lines s).map read).filter (!·.isEmpty) =
      ((splitAt '\n' s).map fun p => read p.toList).filter (!·.isEmpty) := by
  obtain ⟨front, last, hpieces⟩ : ∃ front last, allPieces (· == '\n') s.toList = front ++ [last] :=
    ⟨_, _, (List.dropLast_concat_getLast (List.cons_ne_nil _ _)).symm⟩
  have hfront : (front.map dropReturn).map read = front.map read := by
    rw [List.map_map]
    exact List.map_congr_left fun cs _ => hread cs
  have hsplit : (splitAt '\n' s).map (fun p => read p.toList) = (front ++ [last]).map read := by
    rw [splitAt, hpieces, List.map_map]
    exact List.map_congr_left fun cs _ => by simp
  have hlines : lines s = front.map dropReturn ++ ((some last).filter (!·.isEmpty)).toList := by
    simp [lines, hpieces]
  rw [hlines, hsplit, List.map_append, List.map_append, hfront, List.filter_append,
    List.filter_append]
  -- the last piece is a line unless it is empty
  cases last with
  | nil => simp [hempty]
  | cons c cs => rfl

/-- A line feed cuts a text in two. -/
theorem splitAt_append_line (s t : String) :
    splitAt '\n' (s ++ "\n" ++ t) = splitAt '\n' s ++ splitAt '\n' t :=
  splitAt_append '\n' s t

/-! ### What lines say -/

/-- Blanks before what a line says are stripped. -/
theorem stripComment_append_left {bs : List Char} (h : ∀ c ∈ bs, isBlank c = true)
    (cs : List Char) : stripComment (bs ++ cs) = stripComment cs := by
  have hnot : ∀ c ∈ bs, (c != '#') = true := by
    intro c hc
    rw [bne_iff_ne]
    rintro rfl
    exact absurd (h _ hc) (by decide)
  rw [stripComment, List.takeWhile_append_of_pos hnot, trimChars_append_left h, stripComment]

/-- Blanks at the end of a line are stripped. -/
theorem stripComment_append_right (cs : List Char) {bs : List Char}
    (h : ∀ c ∈ bs, isBlank c = true) : stripComment (cs ++ bs) = stripComment cs := by
  unfold stripComment
  rw [List.takeWhile_append]
  split
  next hlength =>
    -- there is no comment that the blanks could belong to
    have hnot : ∀ c ∈ bs, (c != '#') = true := by
      intro c hc
      rw [bne_iff_ne]
      rintro rfl
      exact absurd (h _ hc) (by decide)
    have hwhole : cs.takeWhile (· != '#') = cs :=
      (List.takeWhile_prefix _).eq_of_length hlength
    rw [List.takeWhile_eq_self_iff.2 hnot, trimChars_append_right _ h, hwhole]
  next => rfl

/-- A comment at the end of a line is stripped. -/
theorem stripComment_append_comment (cs words : List Char) :
    stripComment (cs ++ '#' :: words) = stripComment cs := by
  have hcomment : ('#' :: words).takeWhile (· != '#') = [] := rfl
  unfold stripComment
  rw [List.takeWhile_append, hcomment, List.append_nil]
  split
  next hlength => rw [(List.takeWhile_prefix _).eq_of_length hlength]
  next => rfl

/-- So it makes no difference whether a line is trimmed before. -/
theorem stripComment_trimChars (cs : List Char) :
    stripComment (trimChars cs) = stripComment cs := by
  obtain ⟨front, back, hfront, hback, heq⟩ := exists_eq_append_trimChars cs
  conv_rhs => rw [heq]
  rw [stripComment_append_right _ hback, stripComment_append_left hfront]

/-- The lines of a text that hold more than blanks and a comment, without these. -/
def contents (text : String) : List (List Char) := (meaningfulLines text).map (·.2)

/-- Numbers do not decide which lines count. -/
theorem map_filterMap_zipIdx (ls : List (List Char)) (n : Nat) :
    ((ls.zipIdx n).filterMap fun (line, number) =>
      if line.isEmpty then none else some (number, line)).map (·.2) =
        ls.filter (!·.isEmpty) := by
  induction ls generalizing n with
  | nil => rfl
  | cons line ls ih =>
    rw [List.zipIdx_cons, List.filterMap_cons, List.filter_cons, ← ih (n + 1)]
    cases line <;> rfl

/-- What the lines of a text say is what is left of each, without what is empty. -/
theorem contents_eq_filter (s : String) :
    contents s = ((lines s).map stripComment).filter (!·.isEmpty) :=
  map_filterMap_zipIdx _ 1

/-- A line that says something is numbered by the lines before it, those included that say
nothing. -/
theorem exists_meaningfulLines_eq {front back : List (List Char)} {line : List Char}
    (hlines : lines s = front ++ line :: back) (hline : stripComment line ≠ []) :
    ∃ numbered more,
      meaningfulLines s = numbered ++ (front.length + 1, stripComment line) :: more ∧
      numbered.map (·.2) = (front.map stripComment).filter (!·.isEmpty) := by
  unfold meaningfulLines
  rw [hlines, List.map_append, List.map_cons, List.zipIdx_append, List.zipIdx_cons,
    List.filterMap_append, List.length_map, Nat.add_comm 1]
  generalize stripComment line = content at hline ⊢
  cases content with
  | nil => exact absurd rfl hline
  | cons c cs => exact ⟨_, _, rfl, map_filterMap_zipIdx (front.map stripComment) 1⟩

/-- They may be read of the pieces between line feeds. -/
theorem contents_eq_filter_splitAt (s : String) :
    contents s =
      ((splitAt '\n' s).map fun p => stripComment p.toList).filter (!·.isEmpty) := by
  rw [contents_eq_filter]
  refine filter_map_lines (fun cs => ?_) rfl s
  obtain ⟨bs, hbs, hcs⟩ := exists_eq_dropReturn_append cs
  conv_rhs => rw [hcs]
  exact (stripComment_append_right _ hbs).symm

/-- The two parts of a text before and after a line feed say what they say alone. -/
theorem contents_append_line (s t : String) :
    contents (s ++ "\n" ++ t) = contents s ++ contents t := by
  rw [contents_eq_filter_splitAt, splitAt_append_line, List.map_append, List.filter_append,
    ← contents_eq_filter_splitAt, ← contents_eq_filter_splitAt]

/-- An empty text says nothing. -/
theorem contents_empty : contents "" = [] := by
  rw [contents_eq_filter_splitAt]
  rfl

/-- Neither does a line feed at the end of a text. -/
theorem contents_append_feed (s : String) : contents (s ++ "\n") = contents s := by
  have hcut := contents_append_line s ""
  rw [String.append_empty, contents_empty, List.append_nil] at hcut
  exact hcut

/-- Nor does one before a text. -/
theorem contents_feed_append (s : String) : contents ("\n" ++ s) = contents s := by
  have hcut := contents_append_line "" s
  rw [String.empty_append, contents_empty, List.nil_append] at hcut
  exact hcut

/-- What does not change the last line of a text does not change what it says. -/
theorem contents_append_of_strip (ht : '\n' ∉ t.toList)
    (h : ∀ cs, stripComment (cs ++ t.toList) = stripComment cs) (s : String) :
    contents (s ++ t) = contents s := by
  obtain ⟨front, last, hs, -, hst⟩ := exists_splitAt_append '\n' s
  rw [contents_eq_filter_splitAt, contents_eq_filter_splitAt, hst t ht, hs]
  simp only [List.map_append, List.map_singleton, String.toList_append, h]

/-- A blank at the end of a text says nothing. -/
theorem contents_append_blank (hc : isBlank c = true) (s : String) :
    contents (s ++ .singleton c) = contents s := by
  by_cases hbreak : c = '\n'
  · rw [hbreak]
    exact contents_append_feed s
  · refine contents_append_of_strip ?_ (fun cs => stripComment_append_right cs ?_) s
    · simpa using Ne.symm hbreak
    · simpa using hc

/-- Neither does a comment. -/
theorem contents_append_comment {words : String} (hwords : '\n' ∉ words.toList) (s : String) :
    contents (s ++ ("#" ++ words)) = contents s := by
  refine contents_append_of_strip ?_ (fun cs => ?_) s
  · simpa using hwords
  · have hcomment : ("#" ++ words).toList = '#' :: words.toList := by simp
    rw [hcomment, stripComment_append_comment]

/-- Nor does a blank before a text. -/
theorem contents_blank_append (hc : isBlank c = true) (s : String) :
    contents (.singleton c ++ s) = contents s := by
  by_cases hbreak : c = '\n'
  · rw [hbreak]
    exact contents_feed_append s
  · obtain ⟨first, more, hs, hcs⟩ :=
      splitAt_append_of_not_mem (s := .singleton c) (by simpa using Ne.symm hbreak) s
    have hfirst :
        stripComment (String.singleton c ++ first).toList = stripComment first.toList := by
      rw [String.toList_append]
      exact stripComment_append_left (by simpa using hc) _
    rw [contents_eq_filter_splitAt, contents_eq_filter_splitAt, hcs, hs, List.map_cons,
      List.map_cons, hfirst]

/-! ### Layout -/

/-- A line starts after the text. -/
def LineStart (before : String) : Prop := before = "" ∨ ∃ front, before = front ++ "\n"

/-- What a line says is over before the text: the text is empty, or the line ends or has a comment
there. -/
def LineEnd (after : String) : Prop :=
  after = "" ∨ (∃ rest, after = "\n" ++ rest) ∨ ∃ rest, after = "#" ++ rest

/-- A text may be cut where a line starts. -/
theorem LineStart.contents_append (h : LineStart before) (after : String) :
    contents (before ++ after) = contents before ++ contents after := by
  rcases h with rfl | ⟨front, rfl⟩
  · rw [String.empty_append, contents_empty, List.nil_append]
  · rw [contents_append_line, contents_append_feed]

/-- A text may be cut where what a line says is over. -/
theorem LineEnd.contents_append (h : LineEnd after) (before : String) :
    contents (before ++ after) = contents before ++ contents after := by
  rcases h with rfl | ⟨rest, rfl⟩ | ⟨rest, rfl⟩
  · rw [String.append_empty, contents_empty, List.append_nil]
  · rw [← String.append_assoc, contents_append_line, contents_feed_append]
  · -- the comment is the first line after the cut, and says nothing there either
    obtain ⟨words, more, hrest, hcomment⟩ :=
      splitAt_append_of_not_mem (c := '\n') (s := "#") (by decide) rest
    obtain ⟨front, last, first, more', hbefore, hafter, hwhole⟩ :=
      exists_splitAt_append_eq '\n' before ("#" ++ rest)
    rw [hcomment] at hafter
    cases hafter
    have hlast : stripComment (last.toList ++ '#' :: words.toList) = stripComment last.toList :=
      stripComment_append_comment _ _
    have hfirst : stripComment ('#' :: words.toList) = [] :=
      stripComment_append_comment [] _
    rw [contents_eq_filter_splitAt, contents_eq_filter_splitAt before,
      contents_eq_filter_splitAt ("#" ++ rest), hwhole, hbefore, hcomment, List.map_append,
      List.map_append, List.filter_append, List.filter_append, List.append_assoc]
    rw [List.append_cancel_left_eq]
    -- of the line with the comment only what stood before it is left
    simp [hlast, hfirst, ← List.filter_append]

/-- Layout is put into a text: a blank where a line starts, or a blank or a comment where what the
line says is over. -/
inductive Relaid : String → String → Prop
  | indent {c : Char} {before : String} (hc : isBlank c = true) (h : LineStart before)
      (after : String) : Relaid (before ++ after) (before ++ .singleton c ++ after)
  | trail {c : Char} {after : String} (hc : isBlank c = true) (h : LineEnd after)
      (before : String) : Relaid (before ++ after) (before ++ .singleton c ++ after)
  | comment {words after : String} (hwords : '\n' ∉ words.toList) (h : LineEnd after)
      (before : String) : Relaid (before ++ after) (before ++ ("#" ++ words) ++ after)

/-- The texts differ in their layout alone: one becomes the other when layout is put in, taken away
or changed. -/
def SameButLayout : String → String → Prop := Relation.EqvGen Relaid

/-- Layout that is put in makes no difference to what a text says. -/
theorem contents_eq_of_relaid (h : Relaid s t) : contents s = contents t := by
  cases h with
  | @indent c before hc hstart after =>
    rw [String.append_assoc, hstart.contents_append, hstart.contents_append,
      contents_blank_append hc]
  | @trail c after hc hend before =>
    rw [hend.contents_append, hend.contents_append, contents_append_blank hc]
  | @comment words after hwords hend before =>
    rw [hend.contents_append, hend.contents_append, contents_append_comment hwords]

/-- Texts that differ in their layout alone say the same. -/
theorem contents_eq_of_sameButLayout (h : SameButLayout s t) : contents s = contents t := by
  induction h with
  | rel s t h => exact contents_eq_of_relaid h
  | refl s => rfl
  | symm s t _ ih => exact ih.symm
  | trans s t u _ _ ihst ihtu => exact ihst.trans ihtu

end RoutingData.Text
