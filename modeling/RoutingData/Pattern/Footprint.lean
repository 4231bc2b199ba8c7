import RoutingData.Pattern.Expr

/-!
# Size of automata

The memory that a nondeterministic automaton for an expression takes, in bytes. Two automata are
built for a pattern, one that reads forwards and one that reads backwards, and a pattern is refused
when either is too large. The size of an expression is the sum of the sizes of its parts and of the
states that connect them, so counted repetition multiplies.
-/

namespace RoutingData.Pattern

open Unicode (CodeSet ByteRanges)

/-- In which direction an automaton reads. -/
inductive Direction where
  /-- From the start of the text. -/
  | forward
  /-- From its end. -/
  | backward
  deriving DecidableEq

/-- The size of a state. -/
def stateSize : Nat := 32

/-- The size of an edge that reads a range of bytes. -/
def edgeSize : Nat := 8

/-- The size of an edge that reads nothing. -/
def emptyEdgeSize : Nat := 4

/-- The size of a state with some edges that read nothing. -/
def branchSize (edges : Nat) : Nat := stateSize + emptyEdgeSize * edges

/-! ### Sets -/

/-- The different first ranges, each with what may follow it. -/
def byHead : List ByteRanges → List ((Nat × Nat) × List ByteRanges)
  | [] => []
  | [] :: rest => byHead rest
  | (r :: tail) :: rest =>
    match byHead rest with
    | (r', tails) :: groups =>
      if r = r' then (r, tail :: tails) :: groups else (r, [tail]) :: (r', tails) :: groups
    | [] => [(r, [tail])]

/-- What may follow each beginning of the sequences, the beginning without bytes included, for
sequences of at most `fuel` ranges. -/
def residuals : Nat → List ByteRanges → List (List ByteRanges)
  | 0, _ => []
  | fuel + 1, seqs =>
    if seqs.all List.isEmpty then []
    else seqs :: (byHead seqs).flatMap fun g => residuals fuel g.2

/-- Longest encoding of a character. -/
def maxEncoding : Nat := 4

/-- The size of an automaton that shares equal ends: one state for each different residual. -/
def sharedSize (seqs : List ByteRanges) : Nat :=
  let states := (residuals maxEncoding seqs).eraseDups
  states.foldl (fun size s => size + stateSize + edgeSize * (byHead s).length) stateSize

/-- The different beginnings of the sequences, the empty one excepted. -/
def countPrefixes : Nat → List ByteRanges → Nat
  | 0, _ => 0
  | fuel + 1, seqs => ((byHead seqs).map fun g => 1 + countPrefixes fuel g.2).sum

/-- The size of an automaton that shares equal beginnings and has an edge for each sequence. -/
def branchedSize (seqs : List ByteRanges) : Nat :=
  branchSize seqs.length + stateSize * countPrefixes maxEncoding seqs + stateSize

/-- The size of the automaton for a set. -/
def setSize (d : Direction) (s : CodeSet) : Nat :=
  if s.isAscii then stateSize + edgeSize * s.ranges.length + stateSize
  else
    match d with
    | .forward => sharedSize s.encoded
    | .backward => branchedSize s.encoded

/-! ### Fixed texts -/

/-- The texts without their first bytes, grouped by these. -/
def groups (texts : List (List UInt8)) : List (List (List UInt8)) :=
  (texts.filterMap List.head?).eraseDups.map fun b =>
    texts.filterMap fun
      | c :: rest => if b = c then some rest else none
      | [] => none

/-- The size of the states for the beginnings of texts of at most `fuel` bytes that are shorter than
the texts. -/
def nodesSize : Nat → List (List UInt8) → Nat
  | 0, _ => 0
  | fuel + 1, texts =>
    match groups texts with
    | [] => 0
    | [tails] => branchSize 1 + stateSize + nodesSize fuel tails
    | gs => gs.foldl (fun size tails => size + edgeSize + nodesSize fuel tails)
        (branchSize 1 + stateSize)

/-- The size of the automaton for alternatives between fixed texts, which share beginnings. -/
def textsSize (texts : List (List UInt8)) : Nat :=
  nodesSize (texts.foldl (fun n t => max n t.length) 0) texts + stateSize

/-- The fixed texts, if all expressions are such. -/
def fixedTexts? (es : List Expr) : Option (List (List UInt8)) :=
  es.mapM fun
    | .literal bytes => some bytes
    | _ => none

/-! ### Expressions -/

/-- The size of the automaton for a repetition, from that for what is repeated. -/
def repetitionSize (nullable : Bool) (least : Nat) (most : Option Nat) (sub : Nat) : Nat :=
  match most with
  | none =>
    if least = 0 then
      if nullable then sub + branchSize 2 + branchSize 2 + stateSize else branchSize 2 + sub
    else least * sub + branchSize 2
  | some most =>
    if least = 0 ∧ most = 1 then branchSize 2 + sub + stateSize
    else if least = most then least * sub
    else
      (if least = 0 then stateSize else least * sub) + stateSize +
        (most - least) * (branchSize 2 + sub)

mutual

/-- The size of the automaton for an expression. -/
def Expr.footprint (d : Direction) : Expr → Nat
  | empty | look => stateSize
  | literal bytes => stateSize * bytes.length
  | set codes => setSize d codes
  | repetition least most sub => repetitionSize (isNullable sub) least most (footprint d sub)
  | capture sub =>
    match d with
    | .forward => 2 * stateSize + footprint d sub
    | .backward => footprint d sub
  | concat items => footprintSum d items
  | alternation branches =>
    match fixedTexts? branches with
    | some texts => textsSize (if d = .forward then texts else texts.map List.reverse)
    | none => branchSize branches.length + stateSize + footprintSum d branches

/-- The sum of the sizes. -/
def Expr.footprintSum (d : Direction) : List Expr → Nat
  | [] => 0
  | e :: rest => footprint d e + footprintSum d rest

end

/-- The states around every pattern: the search for a start, the recording of the whole match and
the final state. -/
def frameSize : Nat := branchSize 2 + (stateSize + edgeSize) + stateSize + 3 * stateSize

/-- The largest automaton that is allowed. -/
def maxFootprint : Nat := 10 * 0x100000

/-- Whether both automata are small enough. -/
def Expr.isSmall (e : Expr) : Bool :=
  frameSize + e.footprint .forward ≤ maxFootprint &&
    frameSize + e.footprint .backward ≤ maxFootprint

end RoutingData.Pattern
