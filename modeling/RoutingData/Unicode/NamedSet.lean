import RoutingData.Unicode.CodeSet

/-!
# Named sets of code points

Tables of the character database are lists of sets, each under a few names. Names are compared
loosely: letter case, blanks, hyphens, low lines and a leading `is` do not count, and neither does
anything outside ASCII.
-/

namespace RoutingData.Unicode

/-- A set of code points under one or more names, the ranges in hexadecimal. -/
structure NamedSet where
  /-- The names, none of them in loose form. -/
  names : List String
  /-- The ranges, ascending, as `CodeSet.ofHex` reads them. -/
  hex : String

/-- Drops a leading `is`, in any letter case. -/
def dropIs : List Char → List Char
  | a :: b :: rest => if a.toLower = 'i' ∧ b.toLower = 's' then rest else a :: b :: rest
  | cs => cs

/-- The form in which names are compared. A name that comes out as the single letter `c` after a
leading `is` was the abbreviation `isc`, which is kept apart from the category `C`. -/
def looseName (name : String) : List Char :=
  let squeeze (cs : List Char) : List Char :=
    (cs.filter fun c => c.toNat < 0x80 && c != ' ' && c != '_' && c != '-').map Char.toLower
  let cs := name.toList
  let loose := squeeze (dropIs cs)
  if loose = ['c'] ∧ dropIs cs ≠ cs then ['i', 's', 'c'] else loose

/-- Whether one of `names` is `loose` in loose form. -/
def isNamed (names : List String) (loose : List Char) : Bool :=
  names.any fun n => looseName n == loose

/-- The set that has a name with the given loose form. -/
def findNamed? (sets : List NamedSet) (loose : List Char) : Option NamedSet :=
  sets.find? fun s => isNamed s.names loose

/-- The code points of a named set. -/
def NamedSet.codes (s : NamedSet) : CodeSet := .ofHex s.hex

end RoutingData.Unicode
