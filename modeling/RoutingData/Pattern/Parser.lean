import RoutingData.Pattern.Tree
import RoutingData.Text.Blank
import RoutingData.Text.Digit
import RoutingData.Unicode.Property

/-!
# Reading patterns

Reads the text of a regular expression as a `Tree`. Readers take the rest of the text and return
what they read and the text after it; `none` means that the text is no pattern. In verbose mode
blanks and comments between the parts of the notation are skipped.

Groups and classes nest, so the two readers for them call themselves. Every call comes after at
least one character was read, so the number of characters bounds their depth.
-/

namespace RoutingData.Pattern

/-- The text after blanks and comments; a comment runs from a number sign to the end of the line. -/
def skipFiller (inComment : Bool) : List Char → List Char
  | [] => []
  | c :: cs =>
    if inComment then skipFiller (c != '\n') cs
    else if Text.isBlank c then skipFiller false cs
    else if c = '#' then skipFiller true cs
    else c :: cs

/-- The text after what does not count. -/
def skip (verbose : Bool) (cs : List Char) : List Char :=
  if verbose then skipFiller false cs else cs

/-- Skipping makes no text longer. -/
theorem length_skipFiller_le (inComment : Bool) (cs : List Char) :
    (skipFiller inComment cs).length ≤ cs.length := by
  induction cs generalizing inComment with
  | nil => simp [skipFiller]
  | cons c cs ih =>
    unfold skipFiller
    split
    · exact Nat.le_succ_of_le (ih _)
    · split
      · exact Nat.le_succ_of_le (ih _)
      · split
        · exact Nat.le_succ_of_le (ih _)
        · exact Nat.le_refl _

/-- Skipping makes no text longer. -/
theorem length_skip_le (verbose : Bool) (cs : List Char) :
    (skip verbose cs).length ≤ cs.length := by
  unfold skip
  split
  · exact length_skipFiller_le _ _
  · exact Nat.le_refl _

/-- The characters that satisfy a test, up to the first that does not, and the text after them. -/
def takeMarked (verbose : Bool) (p : Char → Bool) (cs : List Char) : List Char × List Char :=
  match cs with
  | [] => ([], [])
  | c :: rest =>
    if p c then
      let r := takeMarked verbose p (skip verbose rest)
      (c :: r.1, r.2)
    else ([], c :: rest)
termination_by cs.length
decreasing_by
  have := length_skip_le verbose rest
  simp only [List.length_cons]
  omega

/-! ### Characters and escapes -/

/-- The character with the given code point. -/
def charOfCode? (n : Nat) : Option Char :=
  if n < 0xD800 ∨ (0xDFFF < n ∧ n ≤ 0x10FFFF) then some (Char.ofNat n) else none

/-- Exactly `count` hexadecimal digits. -/
def readDigits (verbose : Bool) : Nat → List Char → Option (List Char × List Char)
  | 0, cs => some ([], cs)
  | _ + 1, [] => none
  | n + 1, c :: cs => do
    let _ ← Text.hexValue? c
    let (digits, rest) ← readDigits verbose n (skip verbose cs)
    return (c :: digits, rest)

/-- A character by its code point: in braces, or with a fixed number of digits. -/
def readHex (verbose : Bool) (count : Nat) (cs : List Char) : Option (Literal × List Char) :=
  match skip verbose cs with
  | [] => none
  | '{' :: inner => do
    let (digits, rest) := takeMarked verbose (Text.isDigitIn 16) (skip verbose inner)
    let '}' :: rest := rest | none
    guard !digits.isEmpty
    let c ← charOfCode? (Text.number 16 digits)
    return (⟨c, false⟩, skip verbose rest)
  | cs => do
    let (digits, rest) ← readDigits verbose count cs
    let c ← charOfCode? (Text.number 16 digits)
    return (⟨c, count == 2⟩, rest)

/-- The text before the first occurrence of a separator and the text after it. -/
def cutAt? (separator : List Char) : List Char → Option (List Char × List Char)
  | [] => none
  | c :: cs =>
    if separator.isPrefixOf (c :: cs) then some ([], (c :: cs).drop separator.length)
    else (cutAt? separator cs).map fun r => (c :: r.1, r.2)

/-- The query that stands in braces, and whether it asks for the other values. -/
def propertyQuery (name : List Char) : PropertyQuery × Bool :=
  match cutAt? ['!', '='] name with
  | some (property, value) => (.value property value, true)
  | none =>
    match cutAt? [':'] name with
    | some (property, value) => (.value property value, false)
    | none =>
      match cutAt? ['='] name with
      | some (property, value) => (.value property value, false)
      | none => (.name name, false)

/-- A property after its escape letter: one letter, or a query in braces. -/
def readProperty (verbose : Bool) (cs : List Char) : Option ((PropertyQuery × Bool) × List Char) :=
  match skip verbose cs with
  | [] => none
  | '{' :: inner => do
    let (name, rest) := takeMarked verbose (· != '}') (skip verbose inner)
    let _ :: rest := rest | none
    return (propertyQuery name, rest)
  | c :: rest => if c = '\\' then none else some ((.name [c], false), skip verbose rest)

/-- Characters with a meaning of their own, which an escape takes away. -/
def metaChars : List Char :=
  ['\\', '.', '+', '*', '?', '(', ')', '|', '[', ']', '\x7b', '\x7d', '^', '$', '#', '&', '-', '~']

/-- Whether a character stands for itself after a backslash. -/
def isEscapable (c : Char) : Bool :=
  metaChars.contains c || (c.toNat < 0x80 && !c.isAlphanum && c != '<' && c != '>')

/-- The control character that a letter stands for after a backslash. -/
def controlEscape? : Char → Option Char
  | 'a' => some '\x07'
  | 'f' => some '\x0c'
  | 't' => some '\t'
  | 'n' => some '\n'
  | 'r' => some '\r'
  | 'v' => some '\x0b'
  | _ => none

/-- The names of word boundaries in braces. -/
def boundaryNames : List String := ["start", "end", "start-half", "end-half"]

/-- The text after the braces that may follow a word boundary. Braces that do not start with a
letter or a hyphen are left alone, since they count repetitions. -/
def skipBoundaryName? (verbose : Bool) (cs : List Char) : Option (List Char) :=
  match cs with
  | '{' :: inner =>
    match skip verbose inner with
    | [] => none
    | c :: more =>
      let isNameChar (c : Char) : Bool := c.isAlpha || c == '-'
      if isNameChar c then do
        let (name, rest) := takeMarked verbose isNameChar (c :: more)
        let '}' :: rest := rest | none
        guard (boundaryNames.contains (.ofList name))
        return rest
      else some cs
  | cs => some cs

/-- What follows a backslash. -/
def readEscape (verbose : Bool) : List Char → Option (Tree × List Char)
  | [] => none
  | c :: cs =>
    match c with
    | 'x' => (readHex verbose 2 cs).map fun r => (.literal r.1, r.2)
    | 'u' => (readHex verbose 4 cs).map fun r => (.literal r.1, r.2)
    | 'U' => (readHex verbose 8 cs).map fun r => (.literal r.1, r.2)
    | 'p' => (readProperty verbose cs).map fun r => (.property r.1.1 r.1.2, r.2)
    | 'P' => (readProperty verbose cs).map fun r => (.property r.1.1 (!r.1.2), r.2)
    | 'd' => some (.letter .digit false, cs)
    | 'D' => some (.letter .digit true, cs)
    | 's' => some (.letter .space false, cs)
    | 'S' => some (.letter .space true, cs)
    | 'w' => some (.letter .word false, cs)
    | 'W' => some (.letter .word true, cs)
    | 'b' => (skipBoundaryName? verbose cs).map fun rest => (.assertion, rest)
    | 'A' | 'z' | 'B' | '<' | '>' => some (.assertion, cs)
    | _ =>
      if isEscapable c then some (.literal ⟨c, false⟩, cs)
      else (controlEscape? c).map fun d => (.literal ⟨d, false⟩, cs)

/-! ### Classes -/

/-- A class by name, after its opening bracket: `:name:]` or `:^name:]`. -/
def readNamedClass? (cs : List Char) : Option (ClassSet × List Char) := do
  let ':' :: cs := cs | none
  let (negated, cs) := match cs with
    | '^' :: rest => (true, rest)
    | _ => (false, cs)
  let c ← NamedClass.ofName? (cs.takeWhile (· != ':'))
  let ':' :: ']' :: rest := cs.dropWhile (· != ':') | none
  return (.named c negated, rest)

/-- One end of a range, or an item by itself. -/
def readClassAtom (verbose : Bool) : List Char → Option (Tree × List Char)
  | [] => none
  | c :: cs => if c = '\\' then readEscape verbose cs else some (.literal ⟨c, false⟩, cs)

/-- The item that an atom is when it is no end of a range. -/
def atomItem? : Tree → Option ClassSet
  | .literal l => some (.literal l)
  | .letter c negated => some (.letter c negated)
  | .property q negated => some (.property q negated)
  | _ => none

/-- The character after a hyphen that decides whether the hyphen makes a range. In verbose mode it
is the first that is no blank; of a comment nothing but the sign that starts it is passed over. -/
def charAfterHyphen? (verbose : Bool) (cs : List Char) : Option Char :=
  if verbose then
    match cs.dropWhile Text.isBlank with
    | '#' :: rest => (rest.dropWhile Text.isBlank).head?
    | rest => rest.head?
  else cs.head?

/-- An atom, or a range between two characters. A hyphen before a closing bracket or another hyphen
makes no range. -/
def readClassItem (verbose : Bool) (cs : List Char) : Option (ClassSet × List Char) := do
  let (first, rest) ← readClassAtom verbose cs
  match skip verbose rest with
  | [] => none
  | '-' :: more =>
    let next ← charAfterHyphen? verbose more
    if next = ']' ∨ next = '-' then (atomItem? first).map fun item => (item, '-' :: more)
    else do
      let (last, rest) ← readClassAtom verbose (skip verbose more)
      let .literal a := first | none
      let .literal b := last | none
      guard (a.char ≤ b.char)
      return (.range a b, rest)
  | rest => (atomItem? first).map fun item => (item, rest)

/-- Completes the set on the right of an operator, if one is pending. -/
def closeOperand (pending : Option (SetOp × ClassSet)) (items : List ClassSet) : ClassSet :=
  let rhs := ClassSet.ofItems items.reverse
  match pending with
  | none => rhs
  | some (op, lhs) => .binary op lhs rhs

/-- The start of a class after its opening bracket: a negation sign, then hyphens that stand for
themselves, then a closing bracket that does so if nothing came before it. -/
def readClassStart (verbose : Bool) (cs : List Char) : Bool × List ClassSet × List Char :=
  let cs := skip verbose cs
  let (negated, cs) := match cs with
    | '^' :: rest => (true, skip verbose rest)
    | _ => (false, cs)
  let (hyphens, cs) := takeMarked verbose (· == '-') cs
  let items := hyphens.map fun c => ClassSet.literal ⟨c, false⟩
  match items, cs with
  | [], ']' :: rest => (negated, [.literal ⟨']', false⟩], skip verbose rest)
  | _, _ => (negated, items, cs)

/-- The rest of a class up to its closing bracket, given the pending operator and the items since
then, last one first. -/
def readClass (verbose : Bool) :
    Nat → Option (SetOp × ClassSet) → List ClassSet → List Char → Option (ClassSet × List Char)
  | 0, _, _, _ => none
  | fuel + 1, pending, items, cs =>
    match skip verbose cs with
    | [] => none
    | ']' :: rest => some (closeOperand pending items, rest)
    | '&' :: '&' :: rest =>
      readClass verbose fuel (some (.intersection, closeOperand pending items)) [] rest
    | '-' :: '-' :: rest =>
      readClass verbose fuel (some (.difference, closeOperand pending items)) [] rest
    | '~' :: '~' :: rest =>
      readClass verbose fuel (some (.symmetricDifference, closeOperand pending items)) [] rest
    | '[' :: rest =>
      match readNamedClass? rest with
      | some (item, rest) => readClass verbose fuel pending (item :: items) rest
      | none =>
        let (negated, start, rest) := readClassStart verbose rest
        match readClass verbose fuel none start.reverse rest with
        | none => none
        | some (inner, rest) =>
          readClass verbose fuel pending (.bracketed negated inner :: items) rest
    | cs =>
      match readClassItem verbose cs with
      | none => none
      | some (item, rest) => readClass verbose fuel pending (item :: items) rest

/-- A class after its opening bracket. -/
def readBracketed (verbose : Bool) (cs : List Char) : Option (Tree × List Char) :=
  let (negated, start, rest) := readClassStart verbose cs
  (readClass verbose (rest.length + 1) none start.reverse rest).map fun r =>
    (.bracketed negated r.1, r.2)

/-! ### Repetition -/

/-- The largest count of repetitions. -/
def maxCount : Nat := 0xFFFFFFFF

/-- A count of repetitions. Blanks around it do not count in any mode. -/
def readCount (verbose : Bool) (cs : List Char) : Option Nat × List Char :=
  let (digits, rest) := takeMarked verbose Char.isDigit (cs.dropWhile Text.isBlank)
  let n := Text.number 10 digits
  (if digits.isEmpty || maxCount < n then none else some n,
    skip verbose (rest.dropWhile Text.isBlank))

/-- The text after a sign that makes a repetition lazy. -/
def skipLazy (cs : List Char) : List Char :=
  match cs with
  | '?' :: rest => rest
  | _ => cs

/-- The bounds of a repetition after its opening brace. -/
def readBounds (verbose : Bool) (cs : List Char) : Option ((Nat × Option Nat) × List Char) := do
  let (least, rest) := readCount verbose (skip verbose cs)
  let least ← least
  match rest with
  | '}' :: rest => return ((least, some least), skip verbose rest)
  | ',' :: rest =>
    match skip verbose rest with
    | '}' :: rest => return ((least, none), skip verbose rest)
    | rest =>
      let (most, rest) := readCount verbose rest
      let most ← most
      let '}' :: rest := rest | none
      guard (least ≤ most)
      return ((least, some most), skip verbose rest)
  | _ => none

/-- Puts a repetition over the last item. -/
def repeatLast? (least : Nat) (most : Option Nat) : List Tree → Option (List Tree)
  | [] => none
  | item :: items =>
    if item.isRepeatable then some (.repetition least most item :: items) else none

/-! ### Groups -/

/-- What is known while a pattern is read. -/
structure Context where
  /-- Whether blanks and comments are skipped. -/
  verbose : Bool
  /-- The names of groups so far. -/
  names : List (List Char)

/-- Whether a character may stand in the name of a group. -/
def isNameChar (isFirst : Bool) (c : Char) : Bool :=
  c == '_' || Unicode.alphabetic.contains c.toNat ||
    (!isFirst && (c == '.' || c == '[' || c == ']' || Unicode.numeric.contains c.toNat))

/-- The name of a group up to its closing angle bracket. -/
def readName? (taken : List (List Char)) (cs : List Char) : Option (List Char × List Char) := do
  let name := cs.takeWhile (· != '>')
  let '>' :: rest := cs.dropWhile (· != '>') | none
  let first :: more := name | none
  guard (isNameChar true first && more.all (isNameChar false) && !taken.contains name)
  return (name, rest)

/-- The flags up to a colon or a closing parenthesis, which is not consumed. A hyphen stands once
and before at least one flag; no flag is repeated. -/
def readFlags? (change : FlagChange) (negating dangling : Bool) :
    List Char → Option (FlagChange × List Char)
  | [] => none
  | c :: cs =>
    if c = ':' ∨ c = ')' then if dangling then none else some (change, c :: cs)
    else if c = '-' then if negating then none else readFlags? change true true cs
    else
      match Flag.ofLetter? c with
      | none => none
      | some f =>
        if change.set.contains f || change.clear.contains f then none
        else if negating then
          readFlags? { change with clear := change.clear ++ [f] } true false cs
        else readFlags? { change with set := change.set ++ [f] } false false cs

/-- What an opening parenthesis starts. -/
inductive Opening where
  /-- A directive, complete with its closing parenthesis. -/
  | directive (change : FlagChange)
  /-- A group of some kind, perhaps with a new name. -/
  | group (kind : GroupKind) (name : Option (List Char))

/-- What follows an opening parenthesis, up to the start of the group. -/
def readOpening? (ctx : Context) (cs : List Char) : Option (Opening × List Char) :=
  match skip ctx.verbose cs with
  | '?' :: '=' :: _ | '?' :: '!' :: _ | '?' :: '<' :: '=' :: _ | '?' :: '<' :: '!' :: _ => none
  | '?' :: 'P' :: '<' :: rest | '?' :: '<' :: rest =>
    (readName? ctx.names rest).map fun r => (.group .capture (some r.1), r.2)
  | '?' :: rest =>
    match readFlags? {} false false rest with
    | some (change, ')' :: rest) =>
      if change = {} then none else some (.directive change, rest)
    | some (change, _ :: rest) => some (.group (.plain change) none, rest)
    | _ => none
  | rest => some (.group .capture none, rest)

/-- The alternatives read so far with the items of the last one, last item first. -/
def closeBranches (branches : List Tree) (items : List Tree) : Tree :=
  .ofBranches (branches.reverse ++ [.ofItems items.reverse])

/-- Reads alternatives up to the end of the text or a closing parenthesis, which is not consumed,
given the branches and the items before, last one first. -/
def readBranches :
    Nat → Context → List Tree → List Tree → List Char → Option (Tree × Context × List Char)
  | 0, _, _, _, _ => none
  | fuel + 1, ctx, branches, items, cs =>
    match skip ctx.verbose cs with
    | [] => some (closeBranches branches items, ctx, [])
    | c :: rest =>
      match c with
      | ')' => some (closeBranches branches items, ctx, c :: rest)
      | '|' => readBranches fuel ctx (.ofItems items.reverse :: branches) [] rest
      | '(' =>
        match readOpening? ctx rest with
        | none => none
        | some (.directive change, rest) =>
          let ctx := { ctx with verbose := change.apply .verbose ctx.verbose }
          readBranches fuel ctx branches (.flags change :: items) rest
        | some (.group kind name, rest) =>
          let change : FlagChange := match kind with
            | .capture => {}
            | .plain change => change
          let inner : Context :=
            ⟨change.apply .verbose ctx.verbose, name.toList ++ ctx.names⟩
          match readBranches fuel inner [] [] rest with
          | some (sub, inner, ')' :: rest) =>
            let ctx := { ctx with names := inner.names }
            readBranches fuel ctx branches (.group kind sub :: items) rest
          | _ => none
      | '[' =>
        match readBracketed ctx.verbose rest with
        | none => none
        | some (t, rest) => readBranches fuel ctx branches (t :: items) rest
      | '?' =>
        match repeatLast? 0 (some 1) items with
        | none => none
        | some items => readBranches fuel ctx branches items (skipLazy rest)
      | '*' =>
        match repeatLast? 0 none items with
        | none => none
        | some items => readBranches fuel ctx branches items (skipLazy rest)
      | '+' =>
        match repeatLast? 1 none items with
        | none => none
        | some items => readBranches fuel ctx branches items (skipLazy rest)
      | '{' =>
        match readBounds ctx.verbose rest with
        | none => none
        | some ((least, most), rest) =>
          match repeatLast? least most items with
          | none => none
          | some items => readBranches fuel ctx branches items (skipLazy rest)
      | '\\' =>
        match readEscape ctx.verbose rest with
        | none => none
        | some (t, rest) => readBranches fuel ctx branches (t :: items) rest
      | '.' => readBranches fuel ctx branches (.dot :: items) rest
      | '^' | '$' => readBranches fuel ctx branches (.assertion :: items) rest
      | c => readBranches fuel ctx branches (.literal ⟨c, false⟩ :: items) rest

/-- The syntax tree of a pattern. -/
def Tree.parse? (cs : List Char) : Option Tree :=
  match readBranches (cs.length + 1) ⟨false, []⟩ [] [] cs with
  | some (tree, _, []) => some tree
  | _ => none

end RoutingData.Pattern
