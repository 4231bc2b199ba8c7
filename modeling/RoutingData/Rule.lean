import RoutingData.Text.Case
import RoutingData.Text.Pieces

/-!
# Routing rules

A rule says which hosts it matches and carries attributes. The value of a rule is folded to lower
case when the rule is made, a regular expression excepted, and so is every attribute; an attribute
given twice is kept once, where it stood first.
-/

namespace RoutingData

/-- How the value of a rule is compared with a host. -/
inductive RuleKind where
  /-- The host equals the value. -/
  | full
  /-- The host equals the value or is below it. -/
  | domain
  /-- The host contains the value. -/
  | keyword
  /-- The host matches the value as a regular expression. -/
  | regex
  deriving DecidableEq, Repr, Inhabited

namespace RuleKind

/-- The word for a kind in list files. -/
def word : RuleKind → String
  | full => "full"
  | domain => "domain"
  | keyword => "keyword"
  | regex => "regexp"

/-- All kinds. -/
def all : List RuleKind := [full, domain, keyword, regex]

/-- The kind with the given word, in any letter case. -/
def ofWord? (text : String) : Option RuleKind :=
  all.find? fun k => k.word == Text.lower text

end RuleKind

/-- A routing rule. -/
structure Rule where
  /-- How the value is compared. -/
  kind : RuleKind
  /-- What hosts are compared with. -/
  value : String
  /-- Attributes in the order written, none repeated. -/
  attributes : List String
  deriving DecidableEq, Repr, Inhabited

namespace Rule

/-- The value that a rule of the given kind stores. -/
def foldValue (kind : RuleKind) (value : String) : String :=
  if kind = .regex then value else Text.lower value

/-- A rule without attributes. -/
def plain (kind : RuleKind) (value : String) : Rule := ⟨kind, foldValue kind value, []⟩

/-- The rule with one more attribute, unless it has it already. -/
def withAttribute (r : Rule) (key : String) : Rule :=
  let key := Text.lower key
  if r.attributes.contains key then r else { r with attributes := r.attributes ++ [key] }

/-- The rule with more attributes, added one after the other. -/
def withAttributes (r : Rule) (keys : List String) : Rule := keys.foldl withAttribute r

/-- Whether the rule has any attribute. -/
def hasAttributes (r : Rule) : Bool := !r.attributes.isEmpty

/-- Whether the rule has the given attribute, compared as it stands. -/
def hasAttribute (r : Rule) (key : String) : Bool := r.attributes.contains key

/-- The attributes joined in order, each after an at sign. -/
def groupKey (r : Rule) : String := String.join (r.attributes.map ("@" ++ ·))

/-- The labels of the value, which dots separate. -/
def labels (r : Rule) : List String := Text.splitAt '.' r.value

/-- The number of labels. -/
def labelCount (r : Rule) : Nat := r.labels.length

/-- The rule as a line of a list file. -/
def toLine (r : Rule) : String :=
  r.kind.word ++ ":" ++ r.value ++ String.join (r.attributes.map (" @" ++ ·))

instance : ToString Rule := ⟨toLine⟩

end Rule

/-- Which rules of a list an inclusion asks for. -/
inductive Filter where
  /-- Every rule. -/
  | all
  /-- The rules with one attribute. -/
  | attribute (key : String)
  deriving DecidableEq, Repr, Inhabited

end RoutingData
