import Mathlib.Data.Nat.Bitwise
import RoutingData.Net.Parser
import RoutingData.Proofs.Net.Aligned
import RoutingData.Proofs.Text.Trim

/-!
# Lines that denote networks

A line writes an address, alone or with a slash and the number of leading bits that count
(`Writes`). It denotes the addresses that agree with this one in those bits (`Denotes`), which are
the addresses of the network that is read from it (`exists_parse_iff`); other lines are refused. The
family of an address follows from its notation, and no notation writes a number that is too large
for the family (`lt_size_of_parseAddress?`).

What is read depends on the parts of a line without the blanks around them (`writes_iff_parts`), so
there may be blanks around the address, the slash and the mask length, and the address may be
replaced by any other one that the line denotes (`Rephrased`).
-/

namespace RoutingData.Net

variable {f g : Family} {n : Net} {a b x length limit : ℕ} {cs ds bs ls rest line : List Char}

/-! ### Sizes of addresses -/

/-- Digits below the base spell a number with no more digits. -/
theorem foldl_digits_lt {α : Type} {base : ℕ} {digit : α → ℕ} {ds : List α}
    (h : ∀ d ∈ ds, digit d < base) (n : ℕ) :
    ds.foldl (fun n d => base * n + digit d) n < (n + 1) * base ^ ds.length := by
  induction ds generalizing n with
  | nil => simp
  | cons d ds ih =>
    obtain ⟨hd, hds⟩ := List.forall_mem_cons.1 h
    refine Nat.lt_of_lt_of_le (ih hds (base * n + digit d)) ?_
    have hle : base * n + digit d + 1 ≤ (n + 1) * base := by
      rw [Nat.succ_mul, Nat.mul_comm n base]
      omega
    rw [List.length_cons, Nat.pow_succ', ← Nat.mul_assoc]
    exact Nat.mul_le_mul_right _ hle

/-- A number that is read is below the power of the base for the digits that it may have. -/
theorem lt_of_readNumber {base maxDigits : ℕ} (hbase : 0 < base)
    (h : readNumber base maxDigits cs = some ((ds, a), rest)) : a < base ^ maxDigits := by
  unfold readNumber at h
  dsimp only at h
  split at h
  · cases h
  next hlength =>
    cases h
    rw [Bool.or_eq_true, not_or, decide_eq_true_eq, Nat.not_lt] at hlength
    have hdigits : ∀ c ∈ cs.takeWhile (Text.isDigitIn base),
        (Text.digitValue? base c).getD 0 < base := by
      intro c _
      unfold Text.digitValue?
      cases hvalue : (Text.hexValue? c).filter (· < base) with
      | none => exact hbase
      | some v => simpa using (Option.filter_eq_some_iff.1 hvalue).2
    have hlt := foldl_digits_lt hdigits 0
    rw [Nat.zero_add, Nat.one_mul] at hlt
    exact Nat.lt_of_lt_of_le hlt (Nat.pow_le_pow_right hbase hlength.2)

/-- An octet is below 256. -/
theorem lt_of_readOctet (h : readOctet cs = some (a, rest)) : a < 256 := by
  unfold readOctet at h
  obtain ⟨⟨⟨digits, n⟩, tail⟩, -, h⟩ := Option.bind_eq_some_iff.1 h
  obtain ⟨_, hguard, h⟩ := Option.bind_eq_some_iff.1 h
  cases h
  rw [Option.guard_eq_some', Bool.and_eq_true, decide_eq_true_eq] at hguard
  exact hguard.1

/-- Four octets make a number of 32 bits. -/
theorem lt_of_readDotted (h : readDotted cs = some (a, rest)) : a < 65536 * 65536 := by
  unfold readDotted at h
  obtain ⟨⟨p, _⟩, hp, h⟩ := Option.bind_eq_some_iff.1 h
  dsimp only at h
  split at h
  · obtain ⟨⟨q, _⟩, hq, h⟩ := Option.bind_eq_some_iff.1 h
    dsimp only at h
    split at h
    · obtain ⟨⟨r, _⟩, hr, h⟩ := Option.bind_eq_some_iff.1 h
      dsimp only at h
      split at h
      · obtain ⟨⟨s, _⟩, hs, h⟩ := Option.bind_eq_some_iff.1 h
        cases h
        have := lt_of_readOctet hp
        have := lt_of_readOctet hq
        have := lt_of_readOctet hr
        have := lt_of_readOctet hs
        omega
      · cases h
    · cases h
  · cases h

/-- Groups are no more than the limit, and each is a number of 16 bits. -/
theorem readGroups_bounds (isFirst : Bool) (limit : ℕ) (cs : List Char) :
    (readGroups isFirst limit cs).1.1.length ≤ limit ∧
      ∀ g ∈ (readGroups isFirst limit cs).1.1, g < 65536 := by
  induction limit generalizing isFirst cs with
  | zero => exact ⟨Nat.le_refl 0, by simp [readGroups]⟩
  | succ limit ih =>
    unfold readGroups
    dsimp only
    split
    next a rest hdotted =>
      -- dotted notation makes two groups, for which there is space
      split at hdotted
      · cases hdotted
      next hlimit =>
        obtain ⟨_, -, hdotted⟩ := Option.bind_eq_some_iff.1 hdotted
        have hlt := lt_of_readDotted hdotted
        refine ⟨by simp only [List.length_cons, List.length_nil]; omega, ?_⟩
        simp only [List.mem_cons, List.not_mem_nil, or_false, forall_eq_or_imp, forall_eq]
        omega
    next =>
      split
      · exact ⟨Nat.zero_le _, by simp⟩
      next digits a rest hnumber =>
        obtain ⟨_, -, hnumber⟩ := Option.bind_eq_some_iff.1 hnumber
        have hlt := lt_of_readNumber (by omega) hnumber
        obtain ⟨hlength, hgroups⟩ := ih false rest
        exact ⟨Nat.succ_le_succ hlength, List.forall_mem_cons.2 ⟨hlt, hgroups⟩⟩

/-- Eight groups make a number of 128 bits. -/
theorem lt_of_readColons (h : readColons cs = some (a, rest)) : a < 65536 ^ 8 := by
  have hgroups : ∀ groups : List ℕ, groups.length = 8 → (∀ g ∈ groups, g < 65536) →
      ofGroups groups < 65536 ^ 8 := by
    intro groups hlength hlt
    have hfold := foldl_digits_lt hlt 0
    rwa [Nat.zero_add, Nat.one_mul, hlength] at hfold
  unfold readColons at h
  obtain ⟨hfront, hfrontLt⟩ := readGroups_bounds true 8 cs
  generalize readGroups true 8 cs = outcome at h hfront hfrontLt
  obtain ⟨⟨front, isDotted⟩, tail⟩ := outcome
  dsimp only at h hfront hfrontLt
  split at h
  next height =>
    cases h
    exact hgroups front height hfrontLt
  next hshort =>
    split at h
    · cases h
    · split at h
      next tail =>
        obtain ⟨hback, hbackLt⟩ := readGroups_bounds true (7 - front.length) tail
        generalize readGroups true (7 - front.length) tail = outcome at h hback hbackLt
        obtain ⟨⟨back, _⟩, _⟩ := outcome
        dsimp only at hback hbackLt
        cases h
        refine hgroups _ ?_ ?_
        · -- zeros fill the gap between the groups on both sides
          simp only [List.length_append, List.length_replicate]
          omega
        · simp only [List.forall_mem_append]
          refine ⟨⟨hfrontLt, fun g hg => ?_⟩, hbackLt⟩
          rw [List.eq_of_mem_replicate hg]
          omega
      · cases h

/-- An address has no more bits than its family allows. -/
theorem lt_size_of_parseAddress? (h : parseAddress? cs = some (f, a)) : a < f.size := by
  unfold parseAddress? at h
  split at h
  next hdotted =>
    split at h
    · cases h
      exact lt_of_readDotted hdotted
    · cases h
  · split at h
    next hcolons =>
      cases h
      exact lt_of_readColons hcolons
    · cases h

/-! ### Parts of a line -/

/-- What stands before the first slash of a line and what stands after it, without blanks around. -/
def parts (line : List Char) : List Char × Option (List Char) :=
  match Text.cut? '/' line with
  | some (address, length) => (Text.trimChars address, some (Text.trimChars length))
  | none => (Text.trimChars line, none)

/-- A line without a slash has one part. -/
theorem parts_of_not_mem (hcs : '/' ∉ cs) : parts cs = (Text.trimChars cs, none) := by
  rw [parts, Text.cut?_of_not_mem hcs]

/-- A line with a slash has two. -/
theorem parts_append_slash (hcs : '/' ∉ cs) (ls : List Char) :
    parts (cs ++ '/' :: ls) = (Text.trimChars cs, some (Text.trimChars ls)) := by
  rw [parts, Text.cut?_eq_some_iff.2 ⟨rfl, hcs⟩]

/-- A line has a first slash or none. -/
theorem slash_cases (line : List Char) :
    '/' ∉ line ∨ ∃ cs ls, line = cs ++ '/' :: ls ∧ '/' ∉ cs := by
  cases hcut : Text.cut? '/' line with
  | some pair => exact .inr ⟨pair.1, pair.2, Text.cut?_eq_some_iff.1 hcut⟩
  | none =>
    refine .inl fun hmem => ?_
    obtain ⟨cs, ls, rfl, hcs⟩ := List.eq_append_cons_of_mem hmem
    rw [Text.cut?_eq_some_iff.2 ⟨rfl, hcs⟩] at hcut
    cases hcut

/-- A slash is no blank. -/
theorem slash_not_mem_blanks (hbs : ∀ c ∈ bs, Text.isBlank c = true) : '/' ∉ bs :=
  fun hmem => absurd (hbs _ hmem) (by decide)

/-- Blanks before a line belong to no part. -/
theorem parts_append_left (hbs : ∀ c ∈ bs, Text.isBlank c = true) (line : List Char) :
    parts (bs ++ line) = parts line := by
  have hslash : ∀ {cs : List Char}, '/' ∉ cs → '/' ∉ bs ++ cs :=
    fun hcs hmem => (List.mem_append.1 hmem).elim (slash_not_mem_blanks hbs) hcs
  rcases slash_cases line with hline | ⟨cs, ls, rfl, hcs⟩
  · rw [parts_of_not_mem (hslash hline), parts_of_not_mem hline, Text.trimChars_append_left hbs]
  · rw [← List.append_assoc, parts_append_slash (hslash hcs), parts_append_slash hcs,
      Text.trimChars_append_left hbs]

/-- Neither do blanks after it. -/
theorem parts_append_right (line : List Char) (hbs : ∀ c ∈ bs, Text.isBlank c = true) :
    parts (line ++ bs) = parts line := by
  rcases slash_cases line with hline | ⟨cs, ls, rfl, hcs⟩
  · have hslash : '/' ∉ line ++ bs :=
      fun hmem => (List.mem_append.1 hmem).elim hline (slash_not_mem_blanks hbs)
    rw [parts_of_not_mem hslash, parts_of_not_mem hline, Text.trimChars_append_right _ hbs]
  · rw [List.append_assoc, List.cons_append, parts_append_slash hcs, parts_append_slash hcs,
      Text.trimChars_append_right _ hbs]

/-- So a line may be trimmed before. -/
theorem parts_trimChars (line : List Char) : parts (Text.trimChars line) = parts line := by
  obtain ⟨front, back, hfront, hback, hline⟩ := Text.exists_eq_append_trimChars line
  conv_rhs => rw [hline]
  rw [parts_append_right _ hback, parts_append_left hfront]

/-! ### What lines write -/

/-- The line writes an address of the family, of which so many leading bits count. -/
inductive Writes : List Char → Family → ℕ → ℕ → Prop
  /-- All bits of an address on its own count. -/
  | bare {cs : List Char} {f : Family} {a : ℕ} (hcs : '/' ∉ cs)
      (haddress : parseAddress? (Text.trimChars cs) = some (f, a)) : Writes cs f a f.width
  /-- After a slash stands how many bits count. -/
  | masked {cs ls : List Char} {f : Family} {a length : ℕ} (hcs : '/' ∉ cs)
      (haddress : parseAddress? (Text.trimChars cs) = some (f, a))
      (hlength : parseLength? (Text.trimChars ls) = some length) (hle : length ≤ f.width) :
      Writes (cs ++ '/' :: ls) f a length

/-- What a line writes is read off its parts. -/
theorem writes_iff_parts :
    Writes line f a length ↔
      parseAddress? (parts line).1 = some (f, a) ∧
        (parts line).2.elim (some f.width) parseLength? = some length ∧ length ≤ f.width := by
  constructor
  · intro h
    cases h with
    | bare hcs haddress =>
      rw [parts_of_not_mem hcs]
      exact ⟨haddress, rfl, Nat.le_refl _⟩
    | masked hcs haddress hlength hle =>
      rw [parts_append_slash hcs]
      exact ⟨haddress, hlength, hle⟩
  · rintro ⟨haddress, hlength, hle⟩
    rcases slash_cases line with hline | ⟨cs, ls, rfl, hcs⟩
    · rw [parts_of_not_mem hline] at haddress hlength
      cases hlength
      exact .bare hline haddress
    · rw [parts_append_slash hcs] at haddress hlength
      exact .masked hcs haddress hlength hle

/-- The address and the mask length are read from the parts. -/
theorem parse_eq_parts (line : List Char) :
    parse (.ofList line) =
      match parseAddress? (parts line).1 with
      | none => .error (.net (.address (.ofList (Text.trimChars line))))
      | some (f, a) =>
        match ((parts line).2.elim (some f.width) parseLength?).bind (ofParts? f a) with
        | none => .error (.net (.mask (.ofList (Text.trimChars line))))
        | some n => .ok n.truncate := by
  have htrimmed := (Text.trimmed_trimChars line).trimChars_eq
  rw [← parts_trimChars line]
  unfold parse parts
  rw [String.toList_ofList]
  dsimp only
  cases Text.cut? '/' (Text.trimChars line) with
  | none =>
    dsimp only
    rw [htrimmed]
    cases parseAddress? (Text.trimChars line) with
    | none => rfl
    | some pair => rfl
  | some pair =>
    cases parseAddress? (Text.trimChars pair.1) with
    | none => rfl
    | some pair => rfl

/-- A network is made of its family, its address and its mask length. -/
theorem ofParts?_eq_some_iff :
    ofParts? f a length = some n ↔ n.family = f ∧ n.address = a ∧ n.length = length := by
  unfold ofParts?
  split
  next h =>
    rw [Option.some.injEq]
    constructor
    · rintro rfl
      exact ⟨rfl, rfl, rfl⟩
    · rintro ⟨rfl, rfl, rfl⟩
      rfl
  next h =>
    refine iff_of_false nofun ?_
    rintro ⟨rfl, rfl, rfl⟩
    exact h ⟨n.address_lt, n.length_le⟩

/-- A network is read from a line that writes it, with the host bits cleared; other lines are
refused. -/
theorem parse_eq_ok_iff :
    parse (.ofList line) = .ok n ↔
      ∃ m : Net, Writes line m.family m.address m.length ∧ m.truncate = n := by
  simp only [parse_eq_parts, writes_iff_parts]
  constructor
  · intro h
    split at h
    · cases h
    next f a haddress =>
      split at h
      · cases h
      next m hm =>
        cases h
        obtain ⟨length, hlength, hparts⟩ := Option.bind_eq_some_iff.1 hm
        obtain ⟨rfl, rfl, rfl⟩ := ofParts?_eq_some_iff.1 hparts
        exact ⟨m, ⟨haddress, hlength, m.length_le⟩, rfl⟩
  · rintro ⟨m, ⟨haddress, hlength, -⟩, rfl⟩
    have hparts : ofParts? m.family m.address m.length = some m :=
      ofParts?_eq_some_iff.2 ⟨rfl, rfl, rfl⟩
    rw [haddress]
    dsimp only
    rw [hlength, Option.bind_some, hparts]

/-- A line writes one address and one mask length at most. -/
theorem Writes.unique {length' : ℕ} (h : Writes line f a length) (h' : Writes line g b length') :
    f = g ∧ a = b ∧ length = length' := by
  obtain ⟨haddress, hlength, -⟩ := writes_iff_parts.1 h
  obtain ⟨haddress', hlength', -⟩ := writes_iff_parts.1 h'
  rw [haddress] at haddress'
  cases haddress'
  rw [hlength] at hlength'
  exact ⟨rfl, rfl, Option.some.inj hlength'⟩

/-- What a line writes is a network. -/
theorem Writes.exists_net (h : Writes line f a length) :
    ∃ m : Net, m.family = f ∧ m.address = a ∧ m.length = length := by
  obtain ⟨haddress, -, hle⟩ := writes_iff_parts.1 h
  exact ⟨⟨f, a, length, lt_size_of_parseAddress? haddress, hle⟩, rfl, rfl, rfl⟩

/-- A line is accepted when it writes an address. -/
theorem exists_parse_eq_ok_iff :
    (∃ n, parse (.ofList line) = .ok n) ↔ ∃ f a length, Writes line f a length := by
  simp only [parse_eq_ok_iff]
  constructor
  · rintro ⟨_, m, hwrites, -⟩
    exact ⟨_, _, _, hwrites⟩
  · rintro ⟨f, a, length, hwrites⟩
    obtain ⟨m, rfl, rfl, rfl⟩ := hwrites.exists_net
    exact ⟨m.truncate, m, hwrites, rfl⟩

/-! ### What lines denote -/

/-- The address of the family has the same leading bits, so many of them. -/
def AgreesIn (f : Family) (length a x : ℕ) : Prop :=
  x < f.size ∧ ∀ i < length, x.testBit (f.width - 1 - i) = a.testBit (f.width - 1 - i)

/-- The line denotes an address: it writes one with the same leading bits, as far as they count. -/
def Denotes (line : List Char) (f : Family) (x : ℕ) : Prop :=
  ∃ a length, Writes line f a length ∧ AgreesIn f length a x

/-- Addresses have the same leading bits when their quotients by the size of a block are equal. -/
theorem agreesIn_iff_div (ha : a < f.size) (hle : length ≤ f.width) :
    AgreesIn f length a x ↔ x / blockSize f length = a / blockSize f length := by
  have hsize : f.size = 2 ^ length * blockSize f length := by
    rw [blockSize_eq, ← Nat.pow_add, Nat.add_sub_cancel' hle]
    rfl
  have hbits : ∀ y j, (y / blockSize f length).testBit j = y.testBit (f.width - length + j) := by
    intro y j
    rw [blockSize_eq, Nat.testBit_div_two_pow, Nat.add_comm]
  constructor
  · rintro ⟨hx, hagree⟩
    refine Nat.eq_of_testBit_eq fun j => ?_
    rw [hbits, hbits]
    by_cases hj : j < length
    · have hbit := hagree (length - 1 - j) (by omega)
      rwa [show f.width - 1 - (length - 1 - j) = f.width - length + j by omega] at hbit
    · -- there are no bits before the first one
      have hzero : ∀ y < f.size, y.testBit (f.width - length + j) = false := by
        intro y hy
        refine Nat.testBit_lt_two_pow (Nat.lt_of_lt_of_le hy ?_)
        exact Nat.pow_le_pow_right (by omega) (by omega)
      rw [hzero x hx, hzero a ha]
  · intro heq
    refine ⟨?_, fun i hi => ?_⟩
    · rw [hsize] at ha ⊢
      rw [← Nat.div_lt_iff_lt_mul (blockSize_pos f length)] at ha ⊢
      rwa [heq]
    · have hbit := congrArg (·.testBit (length - 1 - i)) heq
      simp only [hbits] at hbit
      rwa [show f.width - length + (length - 1 - i) = f.width - 1 - i by omega] at hbit

/-- Clearing the host bits changes no address that a network contains. -/
theorem contains_truncate_iff : n.truncate.contains f x ↔ n.contains f x := by
  have hfirst : n.truncate.first = n.first := by
    have hdiv := Nat.mul_div_cancel (n.address / blockSize n.family n.length)
      (blockSize_pos n.family n.length)
    exact congrArg (· * blockSize n.family n.length) hdiv
  have hlast : n.truncate.last = n.last := congrArg (· + (blockSize n.family n.length - 1)) hfirst
  unfold contains
  rw [hfirst, hlast]
  rfl

/-- A network contains the addresses with its leading bits. -/
theorem contains_iff_agreesIn :
    n.contains f x ↔ n.family = f ∧ AgreesIn n.family n.length n.address x := by
  rw [contains_iff_div, agreesIn_iff_div n.address_lt n.length_le]
  exact and_congr_right fun hf => by rw [hf]

/-- The network that is read from a line contains the addresses that the line denotes. -/
theorem contains_iff_denotes (h : parse (.ofList line) = .ok n) :
    n.contains f x ↔ Denotes line f x := by
  obtain ⟨m, hwrites, rfl⟩ := parse_eq_ok_iff.1 h
  rw [contains_truncate_iff, contains_iff_agreesIn]
  constructor
  · rintro ⟨rfl, hagree⟩
    exact ⟨_, _, hwrites, hagree⟩
  · rintro ⟨_, _, hwrites', hagree⟩
    obtain ⟨rfl, rfl, rfl⟩ := hwrites.unique hwrites'
    exact ⟨rfl, hagree⟩

/-- A line denotes the addresses of the network that is read from it, if there is one. -/
theorem exists_parse_iff :
    (∃ n, parse (.ofList line) = .ok n ∧ n.contains f x) ↔ Denotes line f x := by
  constructor
  · rintro ⟨n, hparse, hx⟩
    exact (contains_iff_denotes hparse).1 hx
  · rintro ⟨a, length, hwrites, hagree⟩
    obtain ⟨n, hparse⟩ := exists_parse_eq_ok_iff.2 ⟨f, a, length, hwrites⟩
    exact ⟨n, hparse, (contains_iff_denotes hparse).2 ⟨a, length, hwrites, hagree⟩⟩

/-- An address on its own denotes itself alone. -/
theorem denotes_bare_iff (hcs : '/' ∉ cs)
    (haddress : parseAddress? (Text.trimChars cs) = some (f, a)) :
    Denotes cs g x ↔ g = f ∧ x = a := by
  have hwrites : Writes cs f a f.width := .bare hcs haddress
  have hself : AgreesIn f f.width a x ↔ x = a := by
    rw [agreesIn_iff_div (lt_size_of_parseAddress? haddress) (Nat.le_refl _), blockSize_eq,
      Nat.sub_self, Nat.pow_zero, Nat.div_one, Nat.div_one]
  constructor
  · rintro ⟨_, _, hwrites', hagree⟩
    obtain ⟨rfl, rfl, rfl⟩ := hwrites.unique hwrites'
    exact ⟨rfl, hself.1 hagree⟩
  · rintro ⟨rfl, rfl⟩
    exact ⟨_, _, hwrites, hself.2 rfl⟩

/-- What a line denotes depends on its parts. -/
theorem denotes_congr {line' : List Char} (h : parts line = parts line') :
    Denotes line f x ↔ Denotes line' f x := by
  simp only [Denotes, writes_iff_parts, h]

/-! ### Other words for the same -/

/-- A line is put in other words: with blanks around the address, the slash or the mask length, or
with another address of the same network. -/
inductive Rephrased : List Char → List Char → Prop
  /-- Blanks before a line. -/
  | indent {bs cs : List Char} (hbs : ∀ c ∈ bs, Text.isBlank c = true) : Rephrased cs (bs ++ cs)
  /-- Blanks after a line. -/
  | trail {bs cs : List Char} (hbs : ∀ c ∈ bs, Text.isBlank c = true) : Rephrased cs (cs ++ bs)
  /-- Blanks before the slash. -/
  | beforeSlash {bs cs ls : List Char} (hbs : ∀ c ∈ bs, Text.isBlank c = true) (hcs : '/' ∉ cs) :
      Rephrased (cs ++ '/' :: ls) (cs ++ bs ++ '/' :: ls)
  /-- Blanks after the slash. -/
  | afterSlash {bs cs ls : List Char} (hbs : ∀ c ∈ bs, Text.isBlank c = true) (hcs : '/' ∉ cs) :
      Rephrased (cs ++ '/' :: ls) (cs ++ '/' :: (bs ++ ls))
  /-- Another address of the network, however it is spelled. -/
  | readdress {cs ds : List Char} {f : Family} {a b length : ℕ} (hcs : Writes cs f a length)
      (hds : Writes ds f b length) (hagree : AgreesIn f length a b) : Rephrased cs ds

/-- Addresses with the same leading bits stand for the same addresses. -/
theorem AgreesIn.congr (h : AgreesIn f length a b) :
    AgreesIn f length b x ↔ AgreesIn f length a x :=
  and_congr_right fun _ => forall₂_congr fun i hi => by rw [h.2 i hi]

/-- A rephrased line denotes the same addresses. -/
theorem Rephrased.denotes_iff {cs ds : List Char} (h : Rephrased cs ds) :
    Denotes ds f x ↔ Denotes cs f x := by
  cases h with
  | indent hbs => exact denotes_congr (parts_append_left hbs cs)
  | trail hbs => exact denotes_congr (parts_append_right cs hbs)
  | @beforeSlash bs cs ls hbs hcs =>
    have hslash : '/' ∉ cs ++ bs :=
      fun hmem => (List.mem_append.1 hmem).elim hcs (slash_not_mem_blanks hbs)
    refine denotes_congr ?_
    rw [parts_append_slash hslash, parts_append_slash hcs, Text.trimChars_append_right cs hbs]
  | afterSlash hbs hcs =>
    refine denotes_congr ?_
    rw [parts_append_slash hcs, parts_append_slash hcs, Text.trimChars_append_left hbs]
  | readdress hcs hds hagree =>
    -- each line writes nothing else, and the addresses that agree with one agree with the other
    constructor
    · rintro ⟨_, _, hwrites, hx⟩
      obtain ⟨rfl, rfl, rfl⟩ := hds.unique hwrites
      exact ⟨_, _, hcs, hagree.congr.1 hx⟩
    · rintro ⟨_, _, hwrites, hx⟩
      obtain ⟨rfl, rfl, rfl⟩ := hcs.unique hwrites
      exact ⟨_, _, hds, hagree.congr.2 hx⟩

end RoutingData.Net
