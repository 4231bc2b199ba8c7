/-!
# Syntax trees of patterns

What the text of a regular expression says, before any of it is given a meaning: flags are still
directives, and a class is still an expression over sets.
-/

namespace RoutingData.Pattern

/-- A switch of the notation. -/
inductive Flag where
  /-- Letters stand for both letter cases. -/
  | caseInsensitive
  /-- The line anchors stand at every line. -/
  | multiLine
  /-- The dot stands for line feeds too. -/
  | dotAll
  /-- Greedy and lazy repetition change places. -/
  | swapGreed
  /-- Characters are code points and classes are Unicode's. -/
  | unicode
  /-- Lines end at carriage returns too. -/
  | crlf
  /-- Blanks and comments in the pattern do not count. -/
  | verbose
  deriving DecidableEq, Repr

/-- The flag that a letter stands for. -/
def Flag.ofLetter? : Char → Option Flag
  | 'i' => some caseInsensitive
  | 'm' => some multiLine
  | 's' => some dotAll
  | 'U' => some swapGreed
  | 'u' => some unicode
  | 'R' => some crlf
  | 'x' => some verbose
  | _ => none

/-- A directive that sets some flags and clears others. -/
structure FlagChange where
  /-- The flags to set. -/
  set : List Flag := []
  /-- The flags to clear. -/
  clear : List Flag := []
  deriving DecidableEq, Repr

/-- What the directive makes of a flag, from its value before. -/
def FlagChange.apply (c : FlagChange) (f : Flag) (before : Bool) : Bool :=
  if c.set.contains f then true else if c.clear.contains f then false else before

/-- A character of the pattern that stands for itself. -/
structure Literal where
  /-- The character. -/
  char : Char
  /-- Whether it was written as two hexadecimal digits, which name a byte outside Unicode mode. -/
  isByte : Bool := false
  deriving DecidableEq, Repr

/-- The classes with a one-letter escape. -/
inductive LetterClass where
  /-- Decimal digits. -/
  | digit
  /-- White space. -/
  | space
  /-- Characters of words. -/
  | word
  deriving DecidableEq, Repr

/-- The classes that are written `[:name:]`. -/
inductive NamedClass where
  /-- Letters and digits. -/
  | alnum
  /-- Letters. -/
  | alpha
  /-- All of ASCII. -/
  | ascii
  /-- Space and tab. -/
  | blank
  /-- Control characters. -/
  | cntrl
  /-- Digits. -/
  | digit
  /-- Visible characters. -/
  | graph
  /-- Lower-case letters. -/
  | lower
  /-- Visible characters and the space. -/
  | print
  /-- Punctuation. -/
  | punct
  /-- White space. -/
  | space
  /-- Upper-case letters. -/
  | upper
  /-- Letters, digits and the low line. -/
  | word
  /-- Hexadecimal digits. -/
  | xdigit
  deriving DecidableEq, Repr

/-- The class with the given name. -/
def NamedClass.ofName? (name : List Char) : Option NamedClass :=
  match String.ofList name with
  | "alnum" => some alnum
  | "alpha" => some alpha
  | "ascii" => some ascii
  | "blank" => some blank
  | "cntrl" => some cntrl
  | "digit" => some digit
  | "graph" => some graph
  | "lower" => some lower
  | "print" => some print
  | "punct" => some punct
  | "space" => some space
  | "upper" => some upper
  | "word" => some word
  | "xdigit" => some xdigit
  | _ => none

/-- A query for a Unicode property. -/
inductive PropertyQuery where
  /-- A bare name. -/
  | name (name : List Char)
  /-- A property with one of its values. -/
  | value (property value : List Char)
  deriving DecidableEq, Repr

/-- How two sets in a class are combined. -/
inductive SetOp where
  /-- What is in both. -/
  | intersection
  /-- What is in the first alone. -/
  | difference
  /-- What is in exactly one. -/
  | symmetricDifference
  deriving DecidableEq, Repr

/-- What stands between the brackets of a class. -/
inductive ClassSet where
  /-- Nothing. -/
  | empty
  /-- One character. -/
  | literal (l : Literal)
  /-- The characters from one to another. -/
  | range (first last : Literal)
  /-- A class written by name. -/
  | named (c : NamedClass) (negated : Bool)
  /-- A class written by letter. -/
  | letter (c : LetterClass) (negated : Bool)
  /-- The characters with a property. -/
  | property (q : PropertyQuery) (negated : Bool)
  /-- A class inside a class. -/
  | bracketed (negated : Bool) (set : ClassSet)
  /-- Several items side by side. -/
  | union (items : List ClassSet)
  /-- Two sets under an operator. -/
  | binary (op : SetOp) (lhs rhs : ClassSet)
  deriving Repr

/-- How a group counts. -/
inductive GroupKind where
  /-- What the group matches is recorded. -/
  | capture
  /-- The group only groups, under changed flags. -/
  | plain (change : FlagChange)
  deriving DecidableEq, Repr

/-- The syntax tree of a pattern. -/
inductive Tree where
  /-- The empty pattern. -/
  | empty
  /-- A directive for the rest of the group it stands in. -/
  | flags (change : FlagChange)
  /-- One character. -/
  | literal (l : Literal)
  /-- The dot. -/
  | dot
  /-- An assertion about the place, such as an anchor or a word boundary. -/
  | assertion
  /-- A class written by letter. -/
  | letter (c : LetterClass) (negated : Bool)
  /-- The characters with a property. -/
  | property (q : PropertyQuery) (negated : Bool)
  /-- A class in brackets. -/
  | bracketed (negated : Bool) (set : ClassSet)
  /-- A repetition, unbounded when `most` is `none`. -/
  | repetition (least : Nat) (most : Option Nat) (sub : Tree)
  /-- A group in parentheses. -/
  | group (kind : GroupKind) (sub : Tree)
  /-- Alternatives, two at least. -/
  | alternation (branches : List Tree)
  /-- A sequence of two parts at least. -/
  | concat (items : List Tree)
  deriving Repr

namespace ClassSet

mutual

/-- How deep brackets, unions and operators are nested. -/
def depth : ClassSet → Nat
  | bracketed _ set => depth set + 1
  | union items => depthList items + 1
  | binary _ lhs rhs => max (depth lhs) (depth rhs) + 1
  | _ => 0

/-- The greatest depth in a list. -/
def depthList : List ClassSet → Nat
  | [] => 0
  | s :: rest => max (depth s) (depthList rest)

end

/-- The set of some items side by side. -/
def ofItems : List ClassSet → ClassSet
  | [] => empty
  | [item] => item
  | items => union items

end ClassSet

namespace Tree

mutual

/-- How deep groups, repetitions, sequences, alternatives and classes are nested. -/
def depth : Tree → Nat
  | bracketed _ set => set.depth + 1
  | repetition _ _ sub => depth sub + 1
  | group _ sub => depth sub + 1
  | alternation branches => depthList branches + 1
  | concat items => depthList items + 1
  | _ => 0

/-- The greatest depth in a list. -/
def depthList : List Tree → Nat
  | [] => 0
  | t :: rest => max (depth t) (depthList rest)

end

/-- The sequence of some trees. -/
def ofItems : List Tree → Tree
  | [] => empty
  | [item] => item
  | items => concat items

/-- The alternatives between some trees. -/
def ofBranches : List Tree → Tree
  | [] => empty
  | [branch] => branch
  | branches => alternation branches

/-- Whether a repetition sign may follow. -/
def isRepeatable : Tree → Bool
  | empty | flags _ => false
  | _ => true

end Tree

end RoutingData.Pattern
