/-!
# TOML documents

The contents of a TOML document, and how its statements build them up. Numbers, truth values and
dates are known to be there but not kept.

A key may be given once, and a table may be opened by its own header once. Tables that come into
being along the way, as parts of other headers or of dotted keys, stay open for more; `Origin` keeps
track of how a table came into being.
-/

namespace RoutingData.Toml

/-- How a table came into being. -/
inductive Origin where
  /-- Under a header of its own. -/
  | header
  /-- As a part of the header of another table. -/
  | implied
  /-- As a part of a dotted key. -/
  | dotted
  /-- As a value in braces. -/
  | inline
  deriving DecidableEq, Repr

/-- What a key stands for. -/
inductive Item where
  /-- A text. -/
  | text (s : String)
  /-- A number or a truth value. -/
  | scalar
  /-- A date or a time. -/
  | moment
  /-- A sequence of values. -/
  | array (items : List Item)
  /-- A table. -/
  | table (origin : Origin) (entries : List (String × Item))
  /-- A sequence of tables, each under a header with double brackets. -/
  | tables (elements : List (List (String × Item)))
  deriving Repr

/-- The entries of a table. -/
abbrev Entries := List (String × Item)

namespace Entries

/-- The entries with an item under a key, in place of the old one if there is one. -/
def set (es : Entries) (key : String) (item : Item) : Entries :=
  if (es.lookup key).isSome then es.map fun e => if e.1 = key then (key, item) else e
  else es ++ [(key, item)]

/-- Adds an item under a dotted key. Tables along the key are made if there are none. Those that are
there may be extended if they came from dotted keys; a table from a header may be passed through if
its own header has not been seen, but is not extended itself. -/
def addKey : List String → String → Item → Entries → Option Entries
  | [], key, item, es => if (es.lookup key).isSome then none else some (es ++ [(key, item)])
  | k :: path, key, item, es =>
    match es.lookup k with
    | none => (addKey path key item []).map fun inner => set es k (.table .dotted inner)
    | some (.table origin inner) =>
      if origin = .dotted ∨ (origin = .implied ∧ path ≠ []) then
        (addKey path key item inner).map fun inner => set es k (.table origin inner)
      else none
    | some (.tables elements) =>
      if path = [] then none
      else do
        let inner ← elements.getLast?
        let inner ← addKey path key item inner
        return set es k (.tables (elements.dropLast ++ [inner]))
    | some _ => none

/-- Changes the table at a path of header keys. Tables along the path are made if there are none; of
a sequence of tables the last one is meant. -/
def modifyAt (f : Entries → Option Entries) : List String → Entries → Option Entries
  | [], es => f es
  | k :: path, es =>
    match es.lookup k with
    | none => (modifyAt f path []).map fun inner => set es k (.table .implied inner)
    | some (.table origin inner) =>
      if origin = .inline then none
      else (modifyAt f path inner).map fun inner => set es k (.table origin inner)
    | some (.tables elements) => do
      let inner ← elements.getLast?
      let inner ← modifyAt f path inner
      return set es k (.tables (elements.dropLast ++ [inner]))
    | some _ => none

/-- Opens a table under its own header. -/
def openTable (key : String) (es : Entries) : Option Entries :=
  match es.lookup key with
  | none => some (set es key (.table .header []))
  | some (.table .implied inner) => some (set es key (.table .header inner))
  | some _ => none

/-- Starts the next table of a sequence. -/
def openElement (key : String) (es : Entries) : Option Entries :=
  match es.lookup key with
  | none => some (set es key (.tables [[]]))
  | some (.tables elements) => some (set es key (.tables (elements ++ [[]])))
  | some _ => none

end Entries

/-- A statement of a document. A path comes as its keys but the last, and the last. -/
inductive Statement where
  /-- The header of a table. -/
  | table (path : List String) (key : String)
  /-- The header of an element of a sequence of tables. -/
  | element (path : List String) (key : String)
  /-- A value under a dotted key. -/
  | assign (path : List String) (key : String) (item : Item)
  deriving Repr

/-- The document so far, and the path of the table that assignments go to. -/
structure Draft where
  /-- The entries of the document. -/
  root : Entries := []
  /-- The path of the last header. -/
  current : List String := []

/-- The draft after a statement, if the statement is allowed there. -/
def Draft.add (d : Draft) : Statement → Option Draft
  | .table path key => do
    let root ← d.root.modifyAt (Entries.openTable key) path
    return ⟨root, path ++ [key]⟩
  | .element path key => do
    let root ← d.root.modifyAt (Entries.openElement key) path
    return ⟨root, path ++ [key]⟩
  | .assign path key item => do
    let root ← d.root.modifyAt (Entries.addKey path key item) d.current
    return { d with root }

/-- The document that statements make up. -/
def ofStatements (statements : List Statement) : Option Entries :=
  (statements.foldlM Draft.add {}).map (·.root)

end RoutingData.Toml
