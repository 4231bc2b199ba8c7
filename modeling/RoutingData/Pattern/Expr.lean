import RoutingData.Pattern.Tree
import RoutingData.Unicode.CaseFolding
import RoutingData.Unicode.Property
import RoutingData.Unicode.Utf8Ranges

/-!
# Patterns with their flags resolved

An `Expr` says what a pattern matches: sets are sets of code points, literals are bytes. The
functions that build one simplify as they go, so that a repetition of something empty is no
repetition and alternatives between characters are one set.
-/

namespace RoutingData.Pattern

open Unicode (CodeSet)

/-- What a pattern matches. -/
inductive Expr where
  /-- The empty text. -/
  | empty
  /-- Fixed bytes, one at least. -/
  | literal (bytes : List UInt8)
  /-- One character of a set. -/
  | set (codes : CodeSet)
  /-- A condition on the place. -/
  | look
  /-- Repetition, unbounded when `most` is `none`. -/
  | repetition (least : Nat) (most : Option Nat) (sub : Expr)
  /-- A recorded group. -/
  | capture (sub : Expr)
  /-- One after the other. -/
  | concat (items : List Expr)
  /-- One of several. -/
  | alternation (branches : List Expr)

namespace Expr

mutual

/-- Whether nothing but the empty text is matched. -/
def isEmptyOnly : Expr → Bool
  | empty | look => true
  | literal _ | set _ => false
  | repetition _ _ sub | capture sub => isEmptyOnly sub
  | concat items | alternation items => allEmptyOnly items

/-- Whether none of the expressions matches more than the empty text. -/
def allEmptyOnly : List Expr → Bool
  | [] => true
  | e :: rest => isEmptyOnly e && allEmptyOnly rest

end

mutual

/-- Whether the empty text is matched, or nothing at all. -/
def isNullable : Expr → Bool
  | empty | look => true
  | literal _ => false
  | set codes => codes.ranges.isEmpty
  | repetition least _ sub => least == 0 || isNullable sub
  | capture sub => isNullable sub
  | concat items => allNullable items
  | alternation branches => anyNullable branches

/-- Whether all of the expressions are nullable. -/
def allNullable : List Expr → Bool
  | [] => true
  | e :: rest => isNullable e && allNullable rest

/-- Whether one of the expressions is nullable. -/
def anyNullable : List Expr → Bool
  | [] => false
  | e :: rest => isNullable e || anyNullable rest

end

/-- One given character. -/
def ofChar (c : Char) : Expr := literal (String.utf8EncodeChar c)

/-- One character of a set; a set with one member is a literal. -/
def ofSet (codes : CodeSet) : Expr :=
  match codes.ranges with
  | [(a, b)] => if a = b then ofChar (Char.ofNat a) else set codes
  | _ => set codes

/-- A repetition. What matches the empty text alone is repeated at most once. -/
def ofRepetition (least : Nat) (most : Option Nat) (sub : Expr) : Expr :=
  let (least, most) :=
    if isEmptyOnly sub then (min least 1, some (min (most.getD 1) 1)) else (least, most)
  if most = some 0 then empty
  else if least = 1 ∧ most = some 1 then sub
  else repetition least most sub

/-- Adds an expression before a sequence, joining literals. -/
def consItem (e : Expr) (items : List Expr) : List Expr :=
  match e, items with
  | empty, _ => items
  | literal a, literal b :: rest => literal (a ++ b) :: rest
  | concat inner, _ =>
    match inner.getLast?, items with
    | some (literal a), literal b :: rest => inner.dropLast ++ literal (a ++ b) :: rest
    | _, _ => inner ++ items
  | _, _ => e :: items

/-- A sequence. -/
def ofItems (items : List Expr) : Expr :=
  match items.foldr consItem [] with
  | [] => empty
  | [item] => item
  | items => concat items

/-- The characters that an expression matches, if it always matches exactly one. -/
def charSet? : Expr → Option CodeSet
  | set codes => some codes
  | literal bytes => do
    let s ← String.fromUTF8? ⟨bytes.toArray⟩
    let [c] := s.toList | none
    return .singleton c.toNat
  | _ => none

/-- Alternatives. -/
def ofBranches (branches : List Expr) : Expr :=
  let branches := branches.flatMap fun
    | alternation inner => inner
    | e => [e]
  match branches with
  | [] => set .empty
  | [branch] => branch
  | branches =>
    match branches.mapM charSet? with
    | some sets => ofSet (.ofRanges (sets.flatMap (·.ranges)))
    | none => alternation branches

end Expr

/-! ### Classes -/

/-- The members of a class written by name. -/
def NamedClass.codes : NamedClass → CodeSet
  | alnum => ⟨[(0x30, 0x39), (0x41, 0x5A), (0x61, 0x7A)]⟩
  | alpha => ⟨[(0x41, 0x5A), (0x61, 0x7A)]⟩
  | ascii => ⟨[(0, 0x7F)]⟩
  | blank => ⟨[(0x9, 0x9), (0x20, 0x20)]⟩
  | cntrl => ⟨[(0, 0x1F), (0x7F, 0x7F)]⟩
  | digit => ⟨[(0x30, 0x39)]⟩
  | graph => ⟨[(0x21, 0x7E)]⟩
  | lower => ⟨[(0x61, 0x7A)]⟩
  | print => ⟨[(0x20, 0x7E)]⟩
  | punct => ⟨[(0x21, 0x2F), (0x3A, 0x40), (0x5B, 0x60), (0x7B, 0x7E)]⟩
  | space => ⟨[(0x9, 0xD), (0x20, 0x20)]⟩
  | upper => ⟨[(0x41, 0x5A)]⟩
  | word => ⟨[(0x30, 0x39), (0x41, 0x5A), (0x5F, 0x5F), (0x61, 0x7A)]⟩
  | xdigit => ⟨[(0x30, 0x39), (0x41, 0x46), (0x61, 0x66)]⟩

/-- The ASCII members of a class written by letter. -/
def LetterClass.asciiCodes : LetterClass → CodeSet
  | digit => NamedClass.digit.codes
  | space => NamedClass.space.codes
  | word => NamedClass.word.codes

/-- The members of a class written by letter. -/
def LetterClass.codes : LetterClass → CodeSet
  | digit => Unicode.category "Nd"
  | space => Unicode.binaryProperty "White_Space"
  | word =>
    .ofRanges ((Unicode.alphabetic.ranges ++ (Unicode.binaryProperty "Join_Control").ranges) ++
      ["Mc", "Me", "Mn", "Nd", "Pc"].flatMap fun c => (Unicode.category c).ranges)

/-- The flags that decide what a pattern means. -/
structure Flags where
  /-- Letters stand for both letter cases. -/
  caseInsensitive : Bool := false
  /-- The dot stands for line feeds too. -/
  dotAll : Bool := false
  /-- Characters are code points. -/
  unicode : Bool := true
  /-- Lines end at carriage returns too. -/
  crlf : Bool := false

/-- The flags after a directive. -/
def Flags.change (fl : Flags) (c : FlagChange) : Flags where
  caseInsensitive := c.apply .caseInsensitive fl.caseInsensitive
  dotAll := c.apply .dotAll fl.dotAll
  unicode := c.apply .unicode fl.unicode
  crlf := c.apply .crlf fl.crlf

/-- The members of a set with both letter cases, if letter case does not count. -/
def Flags.fold (fl : Flags) (s : CodeSet) : CodeSet :=
  if fl.caseInsensitive then
    if fl.unicode then s.foldCase else s.foldCase.inter (.interval 0 0x7F)
  else s

/-- A set after folding, or its complement. Outside Unicode mode a complement holds bytes that are
no text, which is refused. -/
def Flags.close (fl : Flags) (negated : Bool) (s : CodeSet) : Option CodeSet :=
  if negated then if fl.unicode then some (fl.fold s).complement else none else some (fl.fold s)

/-- The code point of a literal in a class. Outside Unicode mode it has to be in ASCII. -/
def Flags.classChar (fl : Flags) (l : Literal) : Option Nat :=
  if fl.unicode || l.char.toNat < 0x80 then some l.char.toNat else none

/-- The members of a class written by letter, or the characters that are no members. -/
def Flags.letterCodes (fl : Flags) (c : LetterClass) (negated : Bool) : Option CodeSet :=
  if fl.unicode then some (if negated then c.codes.complement else c.codes)
  else if negated then none
  else some c.asciiCodes

/-- The characters with a property. -/
def Flags.propertyCodes (fl : Flags) (q : PropertyQuery) (negated : Bool) : Option CodeSet :=
  if fl.unicode then do
    let s ← match q with
      | .name n => Unicode.findByName? n
      | .value p v => Unicode.findByValue? p v
    fl.close negated s
  else none

mutual

/-- The members of what stands between the brackets of a class. -/
def ClassSet.codes (fl : Flags) : ClassSet → Option CodeSet
  | empty => some .empty
  | literal l => (fl.classChar l).map .singleton
  | range first last => do
    let a ← fl.classChar first
    let b ← fl.classChar last
    return .interval a b
  | named c negated => fl.close negated c.codes
  | letter c negated => fl.letterCodes c negated
  | property q negated => fl.propertyCodes q negated
  | bracketed negated set => do
    let s ← codes fl set
    fl.close negated s
  | union items => do
    let sets ← codesList fl items
    return .ofRanges (sets.flatMap (·.ranges))
  | binary op lhs rhs => do
    let a ← codes fl lhs
    let b ← codes fl rhs
    match op with
    | .intersection => return (fl.fold a).inter (fl.fold b)
    | .difference => return (fl.fold a).sdiff (fl.fold b)
    | .symmetricDifference => return (fl.fold a).symmDiff (fl.fold b)

/-- The members of several sets. -/
def ClassSet.codesList (fl : Flags) : List ClassSet → Option (List CodeSet)
  | [] => some []
  | s :: rest => do
    let a ← codes fl s
    let as ← codesList fl rest
    return a :: as

end

/-! ### Trees -/

/-- What one character of the pattern matches. -/
def Flags.literalExpr (fl : Flags) (l : Literal) : Option Expr :=
  if fl.unicode || l.char.toNat < 0x80 then
    if fl.caseInsensitive then some (.ofSet (fl.fold (.singleton l.char.toNat)))
    else some (.ofChar l.char)
  else if l.isByte then none
  else some (.ofChar l.char)

/-- What the dot matches. -/
def Flags.dotExpr (fl : Flags) : Option Expr :=
  if fl.unicode then
    some (.set (if fl.dotAll then .full
      else if fl.crlf then CodeSet.complement ⟨[(0xA, 0xA), (0xD, 0xD)]⟩
      else CodeSet.complement ⟨[(0xA, 0xA)]⟩))
  else none

mutual

/-- What a tree matches under some flags, and the flags after it. It is `none` when a property is
unknown, or when something other than text would be matched. -/
def Tree.elaborate (fl : Flags) : Tree → Option (Expr × Flags)
  | empty => some (.empty, fl)
  | flags change => some (.empty, fl.change change)
  | literal l => (fl.literalExpr l).map (·, fl)
  | dot => fl.dotExpr.map (·, fl)
  | assertion => some (.look, fl)
  | letter c negated => (fl.letterCodes c negated).map fun s => (.ofSet s, fl)
  | property q negated => (fl.propertyCodes q negated).map fun s => (.ofSet s, fl)
  | bracketed negated set => do
    let s ← set.codes fl
    let s ← fl.close negated s
    return (.ofSet (.ofRanges s.ranges), fl)
  | repetition least most sub => do
    let (e, fl) ← elaborate fl sub
    return (.ofRepetition least most e, fl)
  | group .capture sub => do
    let (e, _) ← elaborate fl sub
    return (.capture e, fl)
  | group (.plain change) sub => do
    let (e, _) ← elaborate (fl.change change) sub
    return (e, fl)
  | alternation branches => do
    let (es, fl) ← elaborateList fl branches
    return (.ofBranches es, fl)
  | concat items => do
    let (es, fl) ← elaborateList fl items
    return (.ofItems es, fl)

/-- What trees match one after the other, each under the flags that the one before left. -/
def Tree.elaborateList (fl : Flags) : List Tree → Option (List Expr × Flags)
  | [] => some ([], fl)
  | t :: rest => do
    let (e, fl) ← elaborate fl t
    let (es, fl) ← elaborateList fl rest
    return (e :: es, fl)

end

end RoutingData.Pattern
