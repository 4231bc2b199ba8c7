import RoutingData.Text.Pieces

/-!
# Splitting and joining

The pieces of a text joined with the separator are the text again (`intercalate_splitAt`), and
splitting a text at an occurrence of the separator splits both sides (`splitAt_append`); a text
without it that follows belongs to the last piece (`exists_splitAt_append`). Together:
the pieces of one text end those of another exactly when the texts are equal or the first stands in
the second after a separator (`splitAt_suffix_iff`).

The words of a text are its pieces between blanks, as far as they are not empty; they have no blank
in them (`of_mem_words`).
-/

namespace RoutingData.Text

variable {c : Char} {s t : String}

/-- The pieces of a text are what the list is split into. -/
theorem allPieces_eq_splitOnP (p : Char → Bool) (cs : List Char) :
    allPieces p cs = cs.splitOnP p := by
  induction cs with
  | nil => rfl
  | cons c cs ih =>
    rw [List.splitOnP_cons_eq_if_modifyHead, ← ih, allPieces, allPieces, pieces, List.foldr_cons,
      ← pieces]
    split <;> rfl

/-- A separator splits a list in two. -/
theorem allPieces_append_cons {p : Char → Bool} (hc : p c = true) (cs ds : List Char) :
    allPieces p (cs ++ c :: ds) = allPieces p cs ++ allPieces p ds := by
  rw [allPieces_eq_splitOnP, allPieces_eq_splitOnP, allPieces_eq_splitOnP,
    List.splitOnP_append_cons cs ds hc]

/-- A list without separators is its only piece. -/
theorem allPieces_eq_singleton {p : Char → Bool} {cs : List Char} (h : ∀ c ∈ cs, p c = false) :
    allPieces p cs = [cs] := by
  rw [allPieces_eq_splitOnP, List.splitOnP_eq_singleton h]

/-- No piece has a separator in it. -/
theorem of_mem_allPieces {p : Char → Bool} {cs piece : List Char} (h : piece ∈ allPieces p cs) :
    ∀ c ∈ piece, p c = false := by
  induction cs generalizing piece with
  | nil =>
    rw [List.mem_singleton.1 h]
    exact fun c hc => absurd hc List.not_mem_nil
  | cons c cs ih =>
    by_cases hc : p c = true
    · rw [← List.nil_append (c :: cs), allPieces_append_cons hc] at h
      rcases List.mem_cons.1 h with rfl | h
      · exact fun d hd => absurd hd List.not_mem_nil
      · exact ih h
    · -- the character belongs to the first piece
      have hpieces : allPieces p (c :: cs) = (c :: (pieces p cs).1) :: (pieces p cs).2 := by
        rw [allPieces, pieces, List.foldr_cons, if_neg hc]
        rfl
      rw [hpieces] at h
      rcases List.mem_cons.1 h with rfl | h
      · refine List.forall_mem_cons.2 ⟨by simpa using hc, ?_⟩
        exact ih List.mem_cons_self
      · exact ih (List.mem_cons_of_mem _ h)

/-- The pieces between occurrences of a character. -/
theorem splitAt_eq_map_splitOn (c : Char) (s : String) :
    splitAt c s = (s.toList.splitOn c).map .ofList := by
  rw [splitAt, allPieces_eq_splitOnP, List.splitOn_eq_splitOnP]

/-- There is always a first piece. -/
theorem splitAt_ne_nil (c : Char) (s : String) : splitAt c s ≠ [] := by
  simp [splitAt, allPieces]

/-- Joining the pieces gives the text back. -/
theorem intercalate_splitAt (c : Char) (s : String) :
    (String.singleton c).intercalate (splitAt c s) = s := by
  rw [← String.toList_inj, String.toList_intercalate, splitAt_eq_map_splitOn, List.map_map]
  have hid : String.toList ∘ String.ofList = id := funext fun _ => String.toList_ofList
  rw [hid, List.map_id, String.toList_singleton, List.intercalate_splitOn]

/-- A separator splits a text in two. -/
theorem splitAt_append (c : Char) (s t : String) :
    splitAt c (s ++ String.singleton c ++ t) = splitAt c s ++ splitAt c t := by
  simp [splitAt_eq_map_splitOn, List.splitOn_append_cons_self]

/-- A text without the separator is its only piece. -/
theorem splitAt_of_not_mem (h : c ∉ s.toList) : splitAt c s = [s] := by
  rw [splitAt_eq_map_splitOn, List.splitOn_eq_singleton h, List.map_singleton, String.ofList_toList]

/-- Texts that each follow a separator add their pieces. -/
theorem splitAt_append_join (c : Char) (ts : List String) (s : String) :
    splitAt c (s ++ String.join (ts.map (String.singleton c ++ ·))) =
      splitAt c s ++ ts.flatMap (splitAt c) := by
  induction ts generalizing s with
  | nil => simp
  | cons t ts ih =>
    rw [List.map_cons, String.join_cons, ← String.append_assoc, ← String.append_assoc, ih,
      splitAt_append, List.flatMap_cons, List.append_assoc]

/-- Texts with the same pieces are equal. -/
theorem splitAt_inj : splitAt c s = splitAt c t ↔ s = t := by
  constructor
  · intro h
    rw [← intercalate_splitAt c s, h, intercalate_splitAt]
  · exact congrArg _

/-- The pieces of `t` end those of `s` when `s` is `t` or ends with a separator and `t`. -/
theorem splitAt_suffix_iff :
    splitAt c t <:+ splitAt c s ↔ s = t ∨ ∃ p, s = p ++ String.singleton c ++ t := by
  constructor
  · rintro ⟨front, hfront⟩
    cases front with
    | nil => exact .inl (splitAt_inj.1 hfront).symm
    | cons piece front =>
      refine .inr ⟨(String.singleton c).intercalate (piece :: front), ?_⟩
      rw [← intercalate_splitAt c s, ← hfront,
        String.intercalate_append_of_ne_nil (List.cons_ne_nil _ _) (splitAt_ne_nil c t),
        intercalate_splitAt]
  · rintro (rfl | ⟨p, rfl⟩)
    · exact List.suffix_refl _
    · rw [splitAt_append]
      exact List.suffix_append _ _

/-- What follows the last piece of a text, with no separator in it, belongs to this piece. The piece
is empty when the text is or ends with a separator. -/
theorem exists_splitAt_append (c : Char) (s : String) :
    ∃ front last, splitAt c s = front ++ [last] ∧
      (last = "" ↔ s = "" ∨ s.toList.getLast? = some c) ∧
      ∀ t : String, c ∉ t.toList → splitAt c (s ++ t) = front ++ [last ++ t] := by
  by_cases hmem : c ∈ s.toList
  · -- the last piece starts after the last separator
    obtain ⟨back, front, hback, hnot⟩ := List.eq_append_cons_of_mem (List.mem_reverse.2 hmem)
    have htoList : s.toList = front.reverse ++ c :: back.reverse := by
      rw [← List.reverse_inj, hback]
      simp
    have hs : s = .ofList front.reverse ++ .singleton c ++ .ofList back.reverse := by
      rw [← String.toList_inj, htoList]
      simp
    have hpiece : ∀ t : String, c ∉ t.toList →
        splitAt c (.ofList back.reverse ++ t) = [.ofList back.reverse ++ t] :=
      fun t ht => splitAt_of_not_mem (by simp [hnot, ht])
    have hlast : splitAt c (.ofList back.reverse) = [.ofList back.reverse] :=
      splitAt_of_not_mem (by simpa using hnot)
    refine ⟨splitAt c (.ofList front.reverse), .ofList back.reverse, ?_, ?_, fun t ht => ?_⟩
    · rw [hs, splitAt_append, hlast]
    · have hne : s ≠ "" := by
        rintro rfl
        cases hmem
      rw [or_iff_right hne, htoList, List.append_cons, List.getLast?_append, List.getLast?_reverse]
      cases back with
      | nil => simp
      | cons d back =>
        have hdc : d ≠ c := by
          rintro rfl
          exact hnot List.mem_cons_self
        simp [hdc]
    · rw [hs, String.append_assoc, splitAt_append, hpiece t ht]
  · refine ⟨[], s, splitAt_of_not_mem hmem, ?_, fun t ht => ?_⟩
    · refine (or_iff_left fun hlast => hmem ?_).symm
      exact List.mem_of_getLast? hlast
    · exact splitAt_of_not_mem (by simp [hmem, ht])

/-- When one text follows another, the last piece of the first and the first of the second are one
piece. -/
theorem exists_splitAt_append_eq (c : Char) (s t : String) :
    ∃ front last first more, splitAt c s = front ++ [last] ∧ splitAt c t = first :: more ∧
      splitAt c (s ++ t) = front ++ (last ++ first) :: more := by
  obtain ⟨front, last, hs, -, hst⟩ := exists_splitAt_append c s
  by_cases hmem : c ∈ t.toList
  · -- the first piece of the second text ends at its first separator
    obtain ⟨head, tail, htoList, hnot⟩ := List.eq_append_cons_of_mem hmem
    have ht : t = .ofList head ++ .singleton c ++ .ofList tail := by
      rw [← String.toList_inj, htoList]
      simp
    have hhead : c ∉ (String.ofList head).toList := by simpa using hnot
    refine ⟨front, last, .ofList head, splitAt c (.ofList tail), hs, ?_, ?_⟩
    · rw [ht, splitAt_append, splitAt_of_not_mem hhead, List.singleton_append]
    · rw [ht, ← String.append_assoc, ← String.append_assoc, splitAt_append, hst _ hhead,
        List.append_assoc, List.singleton_append]
  · exact ⟨front, last, t, [], hs, splitAt_of_not_mem hmem, hst t hmem⟩

/-! ### Words -/

/-- A word is not empty, and has no blank in it. -/
theorem of_mem_words {cs w : List Char} (h : w ∈ words cs) :
    w ≠ [] ∧ ∀ c ∈ w, isBlank c = false := by
  obtain ⟨hmem, hne⟩ := List.mem_filter.1 h
  exact ⟨by simpa using hne, of_mem_allPieces hmem⟩

/-- A blank splits the words of a text in two. -/
theorem words_append_cons (hc : isBlank c = true) (cs ds : List Char) :
    words (cs ++ c :: ds) = words cs ++ words ds := by
  rw [words, allPieces_append_cons hc, List.filter_append]
  rfl

/-- A text without blanks is its only word, unless it is empty. -/
theorem words_eq_singleton {w : List Char} (hne : w ≠ []) (h : ∀ c ∈ w, isBlank c = false) :
    words w = [w] := by
  rw [words, allPieces_eq_singleton h]
  simp [hne]

/-! ### Heads -/

/-- A text is cut at the first occurrence of a character. -/
theorem cut?_eq_some_iff {cs w rest : List Char} :
    cut? c cs = some (w, rest) ↔ cs = w ++ c :: rest ∧ c ∉ w := by
  constructor
  · intro h
    unfold cut? at h
    split at h
    · cases h
    next d tail htail =>
      cases h
      have hd : d = c := by simpa [htail] using List.head?_dropWhile_not (· != c) cs
      have hwhole := List.takeWhile_append_dropWhile (p := (· != c)) (l := cs)
      rw [htail, hd] at hwhole
      refine ⟨hwhole.symm, fun hmem => ?_⟩
      have hall := List.all_takeWhile (p := (· != c)) (l := cs)
      simpa using List.all_eq_true.1 hall c hmem
  · rintro ⟨rfl, hw⟩
    have hnot : ∀ d ∈ w, (d != c) = true := by
      intro d hd
      rw [bne_iff_ne]
      rintro rfl
      exact hw hd
    rw [cut?, List.dropWhile_append_of_pos hnot, List.takeWhile_append_of_pos hnot,
      List.dropWhile_cons_of_neg (by simp), List.takeWhile_cons_of_neg (by simp)]
    simp

/-- A text is not cut when the character does not occur in it. -/
theorem cut?_of_not_mem {cs : List Char} (h : c ∉ cs) : cut? c cs = none := by
  rw [Option.eq_none_iff_forall_not_mem]
  rintro ⟨w, rest⟩ hcut
  rw [Option.mem_def, cut?_eq_some_iff] at hcut
  exact h (hcut.1 ▸ List.mem_append_right w List.mem_cons_self)

/-- A head is stripped from a text that starts with it. -/
theorem stripHead?_append (head cs : List Char) : stripHead? head (head ++ cs) = some cs := by
  rw [stripHead?, if_pos (List.isPrefixOf_iff_prefix.2 (List.prefix_append head cs)),
    List.drop_left]

end RoutingData.Text
