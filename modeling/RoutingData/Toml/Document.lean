import RoutingData.Toml.Item
import RoutingData.Toml.Scalar

/-!
# Reading TOML

Reads a text as a TOML document: values, which may nest, keys, and the statements made of them, one
a line.
-/

namespace RoutingData.Toml

/-! ### Blanks and comments -/

/-- The text after a comment, or as it is. The line ending stays. -/
def skipComment (cs : List Char) : List Char :=
  match cs with
  | '#' :: rest => rest.dropWhile isPlain
  | _ => cs

/-- The text after the end of a line, which blanks and a comment may precede. The last line needs no
ending. -/
def endLine? (cs : List Char) : Option (List Char) :=
  match skipComment (skipSpace cs) with
  | [] => some []
  | rest => skipNewline? rest

/-- The text after blanks, comments and line endings. -/
def skipFiller (inComment : Bool) : List Char → Option (List Char)
  | [] => some []
  | '\n' :: rest | '\r' :: '\n' :: rest => skipFiller false rest
  | c :: rest =>
    if inComment then if isPlain c then skipFiller true rest else none
    else if isSpace c then skipFiller false rest
    else if c = '#' then skipFiller true rest
    else some (c :: rest)

/-! ### Keys -/

/-- Characters of keys without quotes. -/
def isKeyChar (c : Char) : Bool := c.isAlphanum || c = '-' || c = '_'

/-- One part of a key. -/
def readSimpleKey : Reader String
  | '"' :: rest => readBasic (rest.length + 1) [] rest
  | '\'' :: rest => readLiteral rest
  | cs =>
    let key := cs.takeWhile isKeyChar
    if key.isEmpty then none else some (.ofList key, cs.dropWhile isKeyChar)

/-- The parts of a dotted key, with blanks around each. -/
def readKeyFrom : Nat → Reader (List String)
  | 0, _ => none
  | fuel + 1, cs => do
    let (key, rest) ← readSimpleKey (skipSpace cs)
    match skipSpace rest with
    | '.' :: rest => (readKeyFrom fuel rest).map fun r => (key :: r.1, r.2)
    | rest => some ([key], rest)

/-- How deep arrays, inline tables and dotted keys may go. -/
def maxDepth : Nat := 79

/-- A dotted key: its parts but the last, and the last. -/
def readKey : Reader (List String × String) := fun cs => do
  let (keys, rest) ← readKeyFrom maxDepth cs
  let key ← keys.getLast?
  return ((keys.dropLast, key), rest)

/-! ### Values -/

mutual

/-- A value; arrays and tables in it may nest as deep as `depth` allows. -/
def readValue : Nat → Nat → Reader Item
  | 0, _, _ => none
  | fuel + 1, depth, cs =>
    match cs with
    | [] => none
    | c :: rest =>
      if c = '"' ∨ c = '\'' then (readText fuel cs).map fun r => (.text r.1, r.2)
      else if c = '[' then if depth = 0 then none else readArray fuel (depth - 1) [] rest
      else if c = '\x7b' then if depth = 0 then none else readInline fuel (depth - 1) [] rest
      else if c = '+' ∨ c = '-' ∨ c.isDigit then
        match readMoment cs with
        | some r => some (.moment, r.2)
        | none =>
          match ((readFloat cs).or (readSpecial cs)).or (readInteger cs) with
          | some r => some (.scalar, r.2)
          | none => none
      else (readWord ["true", "false", "inf", "nan"] cs).map fun r => (.scalar, r.2)

/-- The rest of an array, given the values before it, last one first. -/
def readArray : Nat → Nat → List Item → Reader Item
  | 0, _, _, _ => none
  | fuel + 1, depth, items, cs => do
    match ← skipFiller false cs with
    | ']' :: rest => return (.array items.reverse, rest)
    | cs =>
      let (item, rest) ← readValue fuel depth cs
      match ← skipFiller false rest with
      | ']' :: rest => return (.array (item :: items).reverse, rest)
      | ',' :: rest => readArray fuel depth (item :: items) rest
      | _ => none

/-- The rest of a table in braces, given the entries before it. A comma is followed by one more
entry. -/
def readInline : Nat → Nat → Entries → Reader Item
  | 0, _, _, _ => none
  | fuel + 1, depth, entries, cs =>
    match skipSpace cs, entries with
    | '\x7d' :: rest, [] => some (.table .inline [], rest)
    | cs, _ => do
      let ((path, key), rest) ← readKey cs
      let (item, rest) ← readValue fuel depth (skipSpace (← expect '=' rest))
      let entries ← entries.addKey path key item
      match skipSpace rest with
      | '\x7d' :: rest => return (.table .inline entries, rest)
      | ',' :: rest => readInline fuel depth entries rest
      | _ => none

end

/-! ### Statements -/

/-- A header, after its first bracket. -/
def readHeader : Reader Statement
  | '[' :: rest => do
    let ((path, key), rest) ← readKey rest
    let rest ← expect ']' (← expect ']' rest)
    return (.element path key, ← endLine? rest)
  | cs => do
    let ((path, key), rest) ← readKey cs
    return (.table path key, ← endLine? (← expect ']' rest))

/-- An assignment in a text of at most `length` characters. -/
def readAssignment (length : Nat) : Reader Statement := fun cs => do
  let ((path, key), rest) ← readKey cs
  let (item, rest) ← readValue (2 * length + 2) maxDepth (skipSpace (← expect '=' rest))
  return (.assign path key item, ← endLine? rest)

/-- The statements up to the end of the document, given those before, last one first. -/
def readStatements : Nat → List Statement → List Char → Option (List Statement)
  | 0, _, _ => none
  | fuel + 1, statements, cs =>
    match skipSpace cs with
    | [] => some statements.reverse
    | c :: rest =>
      if c = '#' ∨ c = '\n' ∨ c = '\r' then
        (endLine? (c :: rest)).bind (readStatements fuel statements)
      else do
        let (statement, rest) ← if c = '[' then readHeader rest else readAssignment fuel (c :: rest)
        readStatements fuel (statement :: statements) rest

/-- The text after a byte order mark. -/
def dropMark (cs : List Char) : List Char :=
  match cs with
  | '\uFEFF' :: rest => rest
  | _ => cs

/-- The document that a text is, if it is one. -/
def parse? (text : String) : Option Entries := do
  let cs := dropMark text.toList
  let statements ← readStatements (cs.length + 1) [] cs
  ofStatements statements

end RoutingData.Toml
