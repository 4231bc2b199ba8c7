import Mathlib.Algebra.Group.Nat.Defs
import Mathlib.Data.List.Basic
import RoutingData.Text.Case

/-!
# Folding case

Folding the case of a text changes its characters, but no character vanishes, so a text is empty
after folding only if it was empty before.

Folding twice is folding once (`lower_lower`, `upper_upper`): what the tables map a character to
they do not map any further, since no image is among the characters that are mapped (`Settled`). No
image is a blank or an at sign either, so folding makes none (`Respelled`). That the code points of
two tables are apart is decided on numbers that have them as bits (`mappedBits`, `imageBits`), a run
at a time.
-/

namespace RoutingData.Text

/-! ### Tables -/

section Tables

variable {ascii : Char → Char} {runs : List CaseRun} {expansions : List (Nat × List Nat)}
  {c d : Nat}

/-- A code point that a run or an expansion maps to. -/
def Image (runs : List CaseRun) (expansions : List (Nat × List Nat)) (d : Nat) : Prop :=
  (∃ r ∈ runs, ∃ c, r.image? c = some d) ∨ ∃ e ∈ expansions, d ∈ e.2

/-- A run keeps distances. -/
theorem CaseRun.image?_eq_some_iff {r : CaseRun} : r.image? c = some d ↔
    (r.first ≤ c ∧ c ≤ r.last ∧ (c - r.first) % r.stride = 0) ∧ d = r.target + (c - r.first) := by
  rw [image?, Option.ite_none_right_eq_some, Option.some.injEq, eq_comm (a := d)]

/-- What a code point becomes is an image, or the code point itself. -/
theorem image_of_mem_mapCase (h : d ∈ mapCase runs expansions c) :
    Image runs expansions d ∨ d = c ∧ mapCase runs expansions c = [c] := by
  unfold mapCase at h ⊢
  split at h
  next image hruns =>
    obtain ⟨r, hr, himage⟩ := List.exists_of_findSome?_eq_some hruns
    rw [List.mem_singleton.1 h]
    exact .inl (.inl ⟨r, hr, c, himage⟩)
  next =>
    cases hexpansions : expansions.lookup c with
    | none =>
      rw [hexpansions, Option.getD_none, List.mem_singleton] at h
      exact .inr ⟨h, rfl⟩
    | some image =>
      rw [hexpansions, Option.getD_some] at h
      obtain ⟨before, after, rfl, -⟩ := List.lookup_eq_some_iff.1 hexpansions
      exact .inl (.inr ⟨(c, image), List.mem_append_right _ List.mem_cons_self, h⟩)

/-! ### Tables as bits -/

/-- Bits at equal distances, the first of them at the bottom. -/
def strideBits (stride : Nat) : Nat → Nat
  | 0 => 0
  | count + 1 => strideBits stride count <<< stride ||| 1

/-- The bits that are set are the multiples of the distance. -/
theorem testBit_strideBits (stride : Nat) {count i : Nat} (h : i < count) :
    (strideBits stride count).testBit (stride * i) = true := by
  induction count generalizing i with
  | zero => cases h
  | succ count ih =>
    rw [strideBits, Nat.testBit_or, Nat.testBit_shiftLeft]
    cases i with
    | zero => simp
    | succ i =>
      rw [Nat.mul_succ, Nat.add_sub_cancel, ih (Nat.lt_of_succ_lt_succ h)]
      simp

/-- Code points at the distances of a run, as bits. -/
def CaseRun.bitsFrom (r : CaseRun) (start : Nat) : Nat :=
  strideBits r.stride ((r.last - r.first) / r.stride + 1) <<< start

/-- The bit at the distance of a code point in the run is set. -/
theorem CaseRun.testBit_bitsFrom {r : CaseRun} (h : r.image? c = some d) (start : Nat) :
    (r.bitsFrom start).testBit (start + (c - r.first)) = true := by
  obtain ⟨⟨-, hlast, hstride⟩, -⟩ := image?_eq_some_iff.1 h
  have hle : (c - r.first) / r.stride ≤ (r.last - r.first) / r.stride :=
    Nat.div_le_div_right (Nat.sub_le_sub_right hlast _)
  have hbit := testBit_strideBits r.stride (Nat.lt_succ_of_le hle)
  rw [Nat.mul_div_cancel' (Nat.dvd_of_mod_eq_zero hstride)] at hbit
  rw [bitsFrom, Nat.testBit_shiftLeft, Nat.add_sub_cancel_left]
  simpa using hbit

/-- The bits that are set in one of the numbers. -/
def unionBits (numbers : List Nat) : Nat := numbers.foldr (· ||| ·) 0

/-- A bit that is set in one of the numbers is set. -/
theorem testBit_unionBits {numbers : List Nat} {n : Nat} (hn : n ∈ numbers)
    (hc : n.testBit c = true) : (unionBits numbers).testBit c = true := by
  induction numbers with
  | nil => cases hn
  | cons m numbers ih =>
    rw [unionBits, List.foldr_cons, ← unionBits, Nat.testBit_or, Bool.or_eq_true]
    rcases List.mem_cons.1 hn with rfl | hn
    · exact .inl hc
    · exact .inr (ih hn)

/-- The code points as bits. -/
def bitsOf (codes : List Nat) : Nat := unionBits (codes.map (1 <<< ·))

/-- The bits of the code points are set. -/
theorem testBit_bitsOf {codes : List Nat} (h : c ∈ codes) : (bitsOf codes).testBit c = true :=
  testBit_unionBits (List.mem_map_of_mem h) (by simp [Nat.testBit_shiftLeft])

/-- The code points that tables map. -/
def mappedBits (runs : List CaseRun) (expansions : List (Nat × List Nat)) : Nat :=
  unionBits (runs.map fun r => r.bitsFrom r.first) ||| bitsOf (expansions.map (·.1))

/-- The code points that tables map to. -/
def imageBits (runs : List CaseRun) (expansions : List (Nat × List Nat)) : Nat :=
  unionBits (runs.map fun r => r.bitsFrom r.target) ||| bitsOf (expansions.flatMap (·.2))

/-- The bits of images are set. -/
theorem Image.testBit_imageBits (h : Image runs expansions d) :
    (imageBits runs expansions).testBit d = true := by
  rw [imageBits, Nat.testBit_or, Bool.or_eq_true]
  rcases h with ⟨r, hr, c, himage⟩ | ⟨e, he, hd⟩
  · obtain ⟨-, rfl⟩ := CaseRun.image?_eq_some_iff.1 himage
    exact .inl (testBit_unionBits (List.mem_map_of_mem hr) (CaseRun.testBit_bitsFrom himage _))
  · exact .inr (testBit_bitsOf (List.mem_flatMap.2 ⟨e, he, hd⟩))

/-- What tables do not map stays as it is. -/
theorem mapCase_of_testBit (h : (mappedBits runs expansions).testBit c = false) :
    mapCase runs expansions c = [c] := by
  rw [mappedBits, Nat.testBit_or, Bool.or_eq_false_iff] at h
  obtain ⟨hruns, hexpansions⟩ := h
  have hnone : runs.findSome? (·.image? c) = none := by
    rw [List.findSome?_eq_none_iff]
    intro r hr
    cases himage : r.image? c with
    | none => rfl
    | some d =>
      have hmem : r.bitsFrom r.first ∈ runs.map fun r => r.bitsFrom r.first :=
        List.mem_map_of_mem hr
      have hbit := testBit_unionBits hmem (CaseRun.testBit_bitsFrom himage _)
      rw [Nat.add_sub_cancel' (CaseRun.image?_eq_some_iff.1 himage).1.1, hruns] at hbit
      cases hbit
  have hlookup : expansions.lookup c = none := by
    rw [List.lookup_eq_none_iff]
    intro e he
    rw [bne_iff_ne]
    rintro rfl
    rw [testBit_bitsOf (List.mem_map_of_mem he)] at hexpansions
    cases hexpansions
  rw [mapCase, hnone, hlookup]
  rfl

/-! ### Characters -/

/-- The characters that tables map a character to. -/
def mapChar (runs : List CaseRun) (expansions : List (Nat × List Nat)) (c : Char) : List Char :=
  (mapCase runs expansions c.toNat).map Char.ofNat

/-- The characters at which lines are cut into words and inclusions into attributes. -/
def isBreak (c : Char) : Bool := isBlank c || c == '@'

/-- The code points of these characters. -/
def breakCodes : List Nat :=
  List.range' 0x9 5 ++ List.range' 0x2000 11 ++
    [0x20, 0x40, 0x85, 0xA0, 0x1680, 0x2028, 0x2029, 0x202F, 0x205F, 0x3000]

/-- A break is one of them. -/
theorem mem_breakCodes_of_isBreak {c : Char} (h : isBreak c = true) : c.toNat ∈ breakCodes := by
  rw [isBreak, Bool.or_eq_true, beq_iff_eq] at h
  rcases h with h | rfl
  · simp only [isBlank, Bool.or_eq_true, Bool.and_eq_true, decide_eq_true_eq, beq_iff_eq] at h
    simp only [breakCodes, List.mem_append, List.mem_range'_1, List.mem_cons]
    omega
  · decide

/-- What tables map is settled: nothing vanishes, and the images are characters that they do not map
any further, none of them a break. For the characters of ASCII the tables say the same as the
function. -/
structure Settled (ascii : Char → Char) (runs : List CaseRun)
    (expansions : List (Nat × List Nat)) : Prop where
  /-- No expansion is empty. -/
  ne_nil_of_mem : ∀ e ∈ expansions, e.2 ≠ []
  /-- No image is mapped to another one or is a break. Bits make this a matter of one number. -/
  bits_eq_zero :
    imageBits runs expansions &&& (mappedBits runs expansions ||| bitsOf breakCodes) = 0
  /-- The images of a run are characters: surrogates come after them or before them. -/
  run_valid : ∀ r ∈ runs, r.target + (r.last - r.first) < 0xD800 ∨
    0xDFFF < r.target ∧ r.target + (r.last - r.first) < 0x110000
  /-- So are expansions. -/
  expansion_valid : ∀ e ∈ expansions, ∀ code ∈ e.2, code.isValidChar
  /-- The first run says what the function says. -/
  mapCase_eq_ascii : ∀ code < 0x80,
    mapCase (runs.take 1) [] code = [(ascii (Char.ofNat code)).toNat]
  /-- The other runs are not about ASCII. -/
  le_first : ∀ r ∈ runs.drop 1, 0x80 ≤ r.first
  /-- Neither are expansions. -/
  le_of_mem_expansions : ∀ e ∈ expansions, 0x80 ≤ e.1

/-- An image is a character. -/
theorem Settled.isValidChar_of_image (h : Settled ascii runs expansions)
    (hd : Image runs expansions d) : d.isValidChar := by
  rcases hd with ⟨r, hr, c, himage⟩ | ⟨e, he, hd⟩
  · obtain ⟨⟨hfirst, hlast, -⟩, rfl⟩ := CaseRun.image?_eq_some_iff.1 himage
    rcases h.run_valid r hr with hbelow | ⟨habove, hbound⟩
    · exact .inl (by omega)
    · exact .inr ⟨by omega, by omega⟩
  · exact h.expansion_valid e he d hd

/-- The character for an image has the image as its code point. -/
theorem Settled.toNat_ofNat (h : Settled ascii runs expansions) (hd : Image runs expansions d) :
    (Char.ofNat d).toNat = d := by
  rw [Char.ofNat, dif_pos (h.isValidChar_of_image hd)]
  rfl

/-- An image has no bit in common with what is mapped and with breaks. -/
theorem Settled.testBit_of_image (h : Settled ascii runs expansions)
    (hd : Image runs expansions d) : (mappedBits runs expansions).testBit d = false ∧
      (bitsOf breakCodes).testBit d = false := by
  have hbit := Nat.zero_testBit d
  rw [← h.bits_eq_zero, Nat.testBit_and, hd.testBit_imageBits, Bool.true_and, Nat.testBit_or,
    Bool.or_eq_false_iff] at hbit
  exact hbit

/-- Under settled tables no character vanishes. -/
theorem Settled.mapChar_ne_nil (h : Settled ascii runs expansions) (c : Char) :
    mapChar runs expansions c ≠ [] := by
  rw [mapChar, Ne, List.map_eq_nil_iff, mapCase]
  split
  · exact List.cons_ne_nil _ _
  · cases hfound : expansions.lookup c.toNat with
    | none => exact List.cons_ne_nil _ _
    | some image =>
      obtain ⟨before, after, rfl, -⟩ := List.lookup_eq_some_iff.1 hfound
      exact h.ne_nil_of_mem _ (List.mem_append_right _ List.mem_cons_self)

/-- What a character becomes stands for an image, or is the character itself. -/
theorem image_of_mem_mapChar {c d : Char} (h : d ∈ mapChar runs expansions c) :
    (∃ code, Image runs expansions code ∧ d = Char.ofNat code) ∨
      d = c ∧ mapChar runs expansions c = [c] := by
  obtain ⟨code, hcode, rfl⟩ := List.mem_map.1 h
  rcases image_of_mem_mapCase hcode with himage | ⟨rfl, hself⟩
  · exact .inl ⟨code, himage, rfl⟩
  · refine .inr ⟨c.ofNat_toNat, ?_⟩
    rw [mapChar, hself, List.map_singleton, c.ofNat_toNat]

/-- What a character becomes stays as it is. -/
theorem Settled.mapChar_of_mem {c d : Char} (h : Settled ascii runs expansions)
    (hd : d ∈ mapChar runs expansions c) : mapChar runs expansions d = [d] := by
  rcases image_of_mem_mapChar hd with ⟨code, himage, rfl⟩ | ⟨rfl, hself⟩
  · -- an image is not mapped, since images and mapped code points have no bit in common
    rw [mapChar, h.toNat_ofNat himage, mapCase_of_testBit (h.testBit_of_image himage).1,
      List.map_singleton]
  · exact hself

/-- A break comes from itself alone. -/
theorem Settled.eq_of_isBreak {c d : Char} (h : Settled ascii runs expansions)
    (hd : d ∈ mapChar runs expansions c) (hbreak : isBreak d = true) : d = c := by
  rcases image_of_mem_mapChar hd with ⟨code, himage, rfl⟩ | ⟨heq, -⟩
  · have hbit := testBit_bitsOf (mem_breakCodes_of_isBreak hbreak)
    rw [h.toNat_ofNat himage, (h.testBit_of_image himage).2] at hbit
    cases hbit
  · exact heq

/-- ASCII may be left to the function. -/
theorem Settled.fold_eq (h : Settled ascii runs expansions) :
    (fun c => if c.toNat < 0x80 then [ascii c] else mapChar runs expansions c) =
      mapChar runs expansions := by
  ext1 c
  split
  next hc =>
    have hrest : (runs.drop 1).findSome? (·.image? c.toNat) = none := by
      rw [List.findSome?_eq_none_iff]
      intro r hr
      have hfirst := h.le_first r hr
      rw [CaseRun.image?, if_neg (by omega)]
    have hexpansions : expansions.lookup c.toNat = none := by
      rw [List.lookup_eq_none_iff]
      intro e he
      have hle := h.le_of_mem_expansions e he
      rw [bne_iff_ne]
      omega
    -- only the first run is about ASCII, and it says what the function says
    have hruns : mapCase runs expansions c.toNat = mapCase (runs.take 1) [] c.toNat := by
      conv_lhs => rw [← List.take_append_drop 1 runs]
      rw [mapCase, List.findSome?_append, hrest, hexpansions, Option.or_none]
      rfl
    rw [mapChar, hruns, h.mapCase_eq_ascii _ hc, List.map_singleton, Char.ofNat_toNat,
      Char.ofNat_toNat]
  next => rfl

/-- Characters are folded: none vanishes, a break comes from itself alone, and what a character
becomes stays as it is. -/
structure Folding (fold : Char → List Char) : Prop where
  /-- No character vanishes. -/
  ne_nil : ∀ c, fold c ≠ []
  /-- A break was there before. -/
  eq_of_isBreak : ∀ {c d}, d ∈ fold c → isBreak d = true → d = c
  /-- What a character becomes stays as it is. -/
  eq_self : ∀ {c d}, d ∈ fold c → fold d = [d]

/-- Settled tables fold characters. -/
theorem Settled.folding (h : Settled ascii runs expansions) : Folding (mapChar runs expansions) :=
  ⟨h.mapChar_ne_nil, h.eq_of_isBreak, h.mapChar_of_mem⟩

end Tables

/-- The tables for lower case are settled. -/
theorem settled_lower : Settled Char.toLower lowerRuns lowerExpansions where
  ne_nil_of_mem := by decide
  bits_eq_zero := by decide +kernel
  run_valid := by decide +kernel
  expansion_valid := by decide
  mapCase_eq_ascii := by decide +kernel
  le_first := by decide +kernel
  le_of_mem_expansions := by decide

/-- So are those for upper case. -/
theorem settled_upper : Settled Char.toUpper upperRuns upperExpansions where
  ne_nil_of_mem := by decide
  bits_eq_zero := by decide +kernel
  run_valid := by decide +kernel
  expansion_valid := by decide +kernel
  mapCase_eq_ascii := by decide +kernel
  le_first := by decide +kernel
  le_of_mem_expansions := by decide +kernel

/-- Lower case folds characters. -/
theorem folding_lowerChar : Folding lowerChar := by
  have heq : lowerChar = mapChar lowerRuns lowerExpansions := settled_lower.fold_eq
  rw [heq]
  exact settled_lower.folding

/-- So does upper case. -/
theorem folding_upperChar : Folding upperChar := by
  have heq : upperChar = mapChar upperRuns upperExpansions := settled_upper.fold_eq
  rw [heq]
  exact settled_upper.folding

/-- Neither form of a sigma is a capital letter or a break. -/
theorem lowerChar_lowerSigma (before after : List Char) :
    lowerChar (lowerSigma before after) = [lowerSigma before after] ∧
      isBreak (lowerSigma before after) = false := by
  rw [lowerSigma]
  split
  · decide +kernel
  · decide +kernel

/-! ### Texts folded twice -/

/-- Characters in lower case stay as they are. -/
theorem lowerFrom_eq_self {cs : List Char} (h : ∀ c ∈ cs, lowerChar c = [c]) (before : List Char) :
    lowerFrom before cs = cs := by
  induction cs generalizing before with
  | nil => rfl
  | cons c cs ih =>
    obtain ⟨hc, hcs⟩ := List.forall_mem_cons.1 h
    -- the one letter whose form depends on its neighbours is not in lower case
    have hsigma : c ≠ capitalSigma := by
      rintro rfl
      revert hc
      decide +kernel
    rw [lowerFrom, if_neg hsigma, hc, ih hcs, List.singleton_append]

/-- Every character of a text in lower case is in lower case. -/
theorem lowerChar_of_mem_lowerFrom {cs before : List Char} {d : Char}
    (h : d ∈ lowerFrom before cs) : lowerChar d = [d] := by
  induction cs generalizing before with
  | nil => cases h
  | cons c cs ih =>
    rw [lowerFrom, List.mem_append] at h
    rcases h with h | h
    · split at h
      · rw [List.mem_singleton.1 h]
        exact (lowerChar_lowerSigma before cs).1
      · exact folding_lowerChar.eq_self h
    · exact ih h

/-- Folding to lower case twice is folding once. -/
theorem lower_lower (s : String) : lower (lower s) = lower s := by
  rw [lower, lower, String.toList_ofList, lowerChars, lowerChars]
  rw [lowerFrom_eq_self fun c hc => lowerChar_of_mem_lowerFrom hc]

/-- Folding to upper case twice is folding once. -/
theorem upper_upper (s : String) : upper (upper s) = upper s := by
  have hself : ∀ d ∈ upperChars s.toList, upperChar d = [d] := by
    intro d hd
    obtain ⟨c, -, hdc⟩ := List.mem_flatMap.1 hd
    exact folding_upperChar.eq_self hdc
  rw [upper, upper, String.toList_ofList]
  congr 1
  show (upperChars s.toList).flatMap upperChar = upperChars s.toList
  rw [List.flatMap_congr hself, List.flatMap_singleton']

/-! ### Texts character by character -/

/-- The characters of one text become those of the other: none vanishes, and a break comes from
itself alone. -/
inductive Respelled : List Char → List Char → Prop
  | nil : Respelled [] []
  | cons {c : Char} {image cs ds : List Char} (hne : image ≠ [])
      (hbreak : ∀ d ∈ image, isBreak d = true → d = c) (h : Respelled cs ds) :
      Respelled (c :: cs) (image ++ ds)

/-- Folding to lower case respells a text. -/
theorem respelled_lowerFrom (before cs : List Char) : Respelled cs (lowerFrom before cs) := by
  induction cs generalizing before with
  | nil => exact .nil
  | cons c cs ih =>
    rw [lowerFrom]
    refine .cons ?_ (fun d hd hbreak => ?_) (ih _)
    · split
      · exact List.cons_ne_nil _ _
      · exact folding_lowerChar.ne_nil c
    · split at hd
      · rw [List.mem_singleton.1 hd, (lowerChar_lowerSigma before cs).2] at hbreak
        cases hbreak
      · exact folding_lowerChar.eq_of_isBreak hd hbreak

/-- So does folding to upper case. -/
theorem respelled_upperChars (cs : List Char) : Respelled cs (upperChars cs) := by
  induction cs with
  | nil => exact .nil
  | cons c cs ih =>
    exact .cons (folding_upperChar.ne_nil c) (fun _ => folding_upperChar.eq_of_isBreak) ih

section Respelled

variable {cs ds : List Char} {d : Char}

/-- A text is empty after respelling only if it was empty. -/
theorem Respelled.eq_nil_iff (h : Respelled cs ds) : ds = [] ↔ cs = [] := by
  cases h with
  | nil => exact Iff.rfl
  | cons hne hbreak h => simp [hne]

/-- Every break was there before. -/
theorem Respelled.mem_of_isBreak (h : Respelled cs ds) (hd : d ∈ ds) (hbreak : isBreak d = true) :
    d ∈ cs := by
  induction h with
  | nil => exact hd
  | cons hne himage _ ih =>
    rcases List.mem_append.1 hd with hd | hd
    · rw [himage d hd hbreak]
      exact List.mem_cons_self
    · exact List.mem_cons_of_mem _ (ih hd)

/-- A break comes first only if it did. -/
theorem Respelled.head?_of_isBreak (h : Respelled cs ds) (hd : ds.head? = some d)
    (hbreak : isBreak d = true) : cs.head? = some d := by
  cases h with
  | nil => exact hd
  | @cons c image cs ds hne himage h =>
    rw [List.head?_append_of_ne_nil _ hne] at hd
    rw [himage d (List.mem_of_head? hd) hbreak, List.head?_cons]

/-- A break comes last only if it did. -/
theorem Respelled.getLast?_of_isBreak (h : Respelled cs ds) (hd : ds.getLast? = some d)
    (hbreak : isBreak d = true) : cs.getLast? = some d := by
  induction h with
  | nil => exact hd
  | @cons c image cs ds hne himage h ih =>
    by_cases hds : ds = []
    · -- the last character became the last ones
      rw [hds, List.append_nil] at hd
      rw [h.eq_nil_iff.1 hds, himage d (List.mem_of_getLast? hd) hbreak, List.getLast?_singleton]
    · rw [List.getLast?_append_of_ne_nil _ hds] at hd
      rw [List.getLast?_cons_of_ne_nil (mt h.eq_nil_iff.2 hds), ih hd]

end Respelled

/-- A text is empty in lower case only if it is empty. -/
theorem lower_eq_empty_iff {s : String} : lower s = "" ↔ s = "" := by
  rw [lower, ← String.toList_inj, String.toList_ofList, ← String.toList_inj]
  exact (respelled_lowerFrom [] s.toList).eq_nil_iff

/-- A text is empty in upper case only if it is empty. -/
theorem upper_eq_empty_iff {s : String} : upper s = "" ↔ s = "" := by
  rw [upper, ← String.toList_inj, String.toList_ofList, ← String.toList_inj]
  exact (respelled_upperChars s.toList).eq_nil_iff

end RoutingData.Text
