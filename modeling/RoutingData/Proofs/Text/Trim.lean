import Mathlib.Data.List.DropRight
import RoutingData.Proofs.Text.Pieces

/-!
# Trimming

A text is its trimmed form with blanks around it (`exists_eq_append_trim`), and blanks before or
after a text do not change its trimmed form. So when the pieces of a text are trimmed anyway, it
does not matter whether the text was trimmed before it was split (`map_trim_splitAt_trim`).
-/

namespace RoutingData.Text

variable {c : Char} {s t : String}

/-- A text is blank when each of its characters is. -/
theorem isBlankText_iff : isBlankText s = true ↔ ∀ c ∈ s.toList, isBlank c = true := by
  rw [isBlankText, List.all_eq_true]

/-- Trimming drops blanks from the front and then from the back. -/
theorem trimChars_eq (cs : List Char) :
    trimChars cs = (cs.dropWhile isBlank).rdropWhile isBlank := rfl

/-- Blanks in front are trimmed away. -/
theorem trimChars_append_left {bs : List Char} (h : ∀ c ∈ bs, isBlank c = true) (cs : List Char) :
    trimChars (bs ++ cs) = trimChars cs := by
  rw [trimChars_eq, trimChars_eq, List.dropWhile_append_of_pos h]

/-- Blanks at the back are trimmed away. -/
theorem trimChars_append_right (cs : List Char) {bs : List Char}
    (h : ∀ c ∈ bs, isBlank c = true) : trimChars (cs ++ bs) = trimChars cs := by
  unfold trimChars
  rw [List.dropWhile_append]
  split
  next hempty =>
    -- without a character that stays, all of it is dropped from the front
    rw [List.isEmpty_iff] at hempty
    rw [hempty, List.dropWhile_eq_nil_iff.2 h]
  next =>
    rw [List.reverse_append, List.dropWhile_append_of_pos]
    intro c hc
    exact h c (List.mem_reverse.1 hc)

/-- Blanks before a text are trimmed away. -/
theorem trim_append_of_blank_left (h : isBlankText s = true) (t : String) :
    trim (s ++ t) = trim t := by
  rw [trim, String.toList_append, trimChars_append_left (isBlankText_iff.1 h), trim]

/-- Blanks after a text are trimmed away. -/
theorem trim_append_of_blank_right (s : String) (h : isBlankText t = true) :
    trim (s ++ t) = trim s := by
  rw [trim, String.toList_append, trimChars_append_right _ (isBlankText_iff.1 h), trim]

/-- Characters are what trimming leaves of them, with blanks around it. -/
theorem exists_eq_append_trimChars (cs : List Char) :
    ∃ front back, (∀ c ∈ front, isBlank c = true) ∧ (∀ c ∈ back, isBlank c = true) ∧
      cs = front ++ trimChars cs ++ back := by
  refine ⟨cs.takeWhile isBlank, (cs.dropWhile isBlank).rtakeWhile isBlank,
    fun c hc => List.mem_takeWhile_imp hc, fun c hc => List.mem_rtakeWhile_imp hc, ?_⟩
  rw [trimChars_eq, List.append_assoc, List.rdropWhile_append_rtakeWhile,
    List.takeWhile_append_dropWhile]

/-- A text is its trimmed form with blanks around it. -/
theorem exists_eq_append_trim (s : String) :
    ∃ front back, isBlankText front = true ∧ isBlankText back = true ∧
      s = front ++ trim s ++ back := by
  obtain ⟨front, back, hfront, hback, heq⟩ := exists_eq_append_trimChars s.toList
  refine ⟨.ofList front, .ofList back, ?_, ?_, ?_⟩
  · rwa [isBlankText_iff, String.toList_ofList]
  · rwa [isBlankText_iff, String.toList_ofList]
  · rw [← String.toList_inj, String.toList_append, String.toList_append, trim]
    simp only [String.toList_ofList]
    exact heq

/-- Nothing is left of a text when it is blank. -/
theorem trim_eq_empty_iff : trim s = "" ↔ isBlankText s = true := by
  constructor
  · intro h
    obtain ⟨front, back, hfront, hback, heq⟩ := exists_eq_append_trim s
    rw [heq, h, isBlankText_iff, String.append_empty, String.toList_append]
    intro c hc
    rcases List.mem_append.1 hc with hc | hc
    · exact isBlankText_iff.1 hfront c hc
    · exact isBlankText_iff.1 hback c hc
  · intro h
    have htrim := trim_append_of_blank_left h ""
    rw [String.append_empty] at htrim
    exact htrim

/-! ### Trimmed texts -/

/-- There is no blank at either end of the text. -/
def Trimmed (cs : List Char) : Prop :=
  (∀ c ∈ cs.head?, isBlank c = false) ∧ ∀ c ∈ cs.getLast?, isBlank c = false

/-- What is left of a text is trimmed. -/
theorem trimmed_trimChars (cs : List Char) : Trimmed (trimChars cs) := by
  have hfirst : ∀ l : List Char, ∀ c ∈ (l.dropWhile isBlank).head?, isBlank c = false := by
    intro l c hc
    have hnot := List.head?_dropWhile_not isBlank l
    rw [Option.mem_def.1 hc] at hnot
    exact hnot
  refine ⟨fun c hc => ?_, fun c hc => ?_⟩
  · -- the first character that stays is the first one that is no blank
    have hparts : trimChars cs ++ (cs.dropWhile isBlank).rtakeWhile isBlank =
        cs.dropWhile isBlank := List.rdropWhile_append_rtakeWhile
    refine hfirst cs c ?_
    rw [← hparts, List.head?_append, Option.mem_def.1 hc]
    rfl
  · rw [trimChars, List.getLast?_reverse] at hc
    exact hfirst _ c hc

/-- Nothing is trimmed away from a text that is trimmed. -/
theorem Trimmed.trimChars_eq {cs : List Char} (h : Trimmed cs) : trimChars cs = cs := by
  have hkeep : ∀ l : List Char, (∀ c ∈ l.head?, isBlank c = false) → l.dropWhile isBlank = l := by
    intro l hl
    cases l with
    | nil => rfl
    | cons c l => exact List.dropWhile_cons_of_neg (by simp [hl c rfl])
  have hback : ∀ c ∈ cs.reverse.head?, isBlank c = false := by
    rw [List.head?_reverse]
    exact h.2
  rw [trimChars, hkeep cs h.1, hkeep cs.reverse hback, List.reverse_reverse]

/-- A text without blanks is trimmed. -/
theorem trimmed_of_forall {cs : List Char} (h : ∀ c ∈ cs, isBlank c = false) : Trimmed cs :=
  ⟨fun c hc => h c (List.mem_of_head? hc), fun c hc => h c (List.mem_of_getLast? hc)⟩

/-- What is left of a text comes from it. -/
theorem mem_of_mem_trimChars {cs : List Char} (h : c ∈ trimChars cs) : c ∈ cs :=
  (List.dropWhile_sublist _).subset
    (List.mem_reverse.1 ((List.dropWhile_sublist _).subset (List.mem_reverse.1 h)))

/-! ### Pieces -/

/-- A text without the separator that comes first belongs to the first piece. -/
theorem splitAt_append_of_not_mem (h : c ∉ s.toList) (t : String) :
    ∃ first more, splitAt c t = first :: more ∧ splitAt c (s ++ t) = (s ++ first) :: more := by
  have hpieces : ∀ front : List Char, c ∉ front → ∀ cs, pieces (· == c) (front ++ cs) =
      (front ++ (pieces (· == c) cs).1, (pieces (· == c) cs).2) := by
    intro front hfront cs
    induction front with
    | nil => rfl
    | cons d front ih =>
      have hd : (d == c) = false := by
        rw [beq_eq_false_iff_ne]
        rintro rfl
        exact hfront List.mem_cons_self
      show (if d == c then _ else _) = _
      rw [hd]
      exact congrArg (fun p => (d :: p.1, p.2))
        (ih fun hmem => hfront (List.mem_cons_of_mem d hmem))
  refine ⟨.ofList (pieces (· == c) t.toList).1, (pieces (· == c) t.toList).2.map .ofList, rfl, ?_⟩
  rw [splitAt, allPieces, String.toList_append, hpieces s.toList h]
  simp

/-- The pieces of a trimmed text are those of the text, as far as they are trimmed, too. -/
theorem map_trim_splitAt_trim (hc : isBlank c = false) (s : String) :
    (splitAt c (trim s)).map trim = (splitAt c s).map trim := by
  obtain ⟨front, back, hfront, hback, heq⟩ := exists_eq_append_trim s
  -- a blank text has no separator in it
  have hnot : ∀ {t}, isBlankText t = true → c ∉ t.toList := by
    intro t ht hmem
    rw [isBlankText_iff.1 ht c hmem] at hc
    cases hc
  obtain ⟨first, more, hpieces, hfirst⟩ :=
    splitAt_append_of_not_mem (hnot hfront) (trim s ++ back)
  obtain ⟨others, last, hothers, -, hlast⟩ := exists_splitAt_append c (trim s)
  have hend : (splitAt c (trim s ++ back)).map trim = (splitAt c (trim s)).map trim := by
    rw [hlast back (hnot hback), hothers]
    simp [trim_append_of_blank_right _ hback]
  calc (splitAt c (trim s)).map trim
      = (splitAt c (trim s ++ back)).map trim := hend.symm
    _ = (splitAt c (front ++ (trim s ++ back))).map trim := by
        rw [hpieces, hfirst]
        simp [trim_append_of_blank_left hfront]
    _ = (splitAt c s).map trim := by rw [← String.append_assoc, ← heq]

end RoutingData.Text
