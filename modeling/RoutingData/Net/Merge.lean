import RoutingData.Net.Basic

/-!
# Merging networks

Replaces networks by the fewest that have the same addresses, written without host bits. Only one
function does this and puts the networks in order (`IsMerging.eq_merge`). Here each network becomes
the span of its addresses, spans that overlap or touch are joined, and each span is cut into aligned
blocks, the largest possible one first.
-/

namespace RoutingData.Net

/-! ### Spans -/

/-- Addresses that follow each other, from the first one to the one before the stop. -/
@[ext]
structure Span (f : Family) where
  /-- The first address. -/
  start : Nat
  /-- One past the last address. -/
  stop : Nat
  /-- There is an address. -/
  start_lt_stop : start < stop
  /-- All of them are addresses of the family. -/
  stop_le_size : stop ≤ f.size
  deriving DecidableEq

/-- The addresses of a network, if it is one of the family. -/
def span? (f : Family) (n : Net) : Option (Span f) :=
  if h : n.family = f then
    some ⟨n.first, n.last + 1, Nat.lt_succ_of_le n.first_le_last, h ▸ n.last_lt_size⟩
  else none

namespace Span

variable {f : Family}

/-- The addresses of two spans, of which the first starts no later, and those between them. -/
def join (s t : Span f) : Span f where
  start := s.start
  stop := max s.stop t.stop
  start_lt_stop := Nat.lt_of_lt_of_le s.start_lt_stop (Nat.le_max_left _ _)
  stop_le_size := Nat.max_le.2 ⟨s.stop_le_size, t.stop_le_size⟩

/-- Puts a span before spans that start no earlier; what it overlaps or touches is joined to it. -/
def putBefore (s : Span f) : List (Span f) → List (Span f)
  | [] => [s]
  | t :: rest => if t.start ≤ s.stop then (s.join t).putBefore rest else s :: t :: rest

/-- Joins spans until none overlaps or touches another. -/
def joinAll (spans : List (Span f)) : List (Span f) :=
  -- from the last one on, so that each span meets spans that start no earlier
  (spans.mergeSort fun s t => s.start ≤ t.start).foldr putBefore []

end Span

/-! ### Blocks -/

/-- The number of zero bits at the end of a number of `width` bits. -/
def trailingZeros : Nat → Nat → Nat
  | 0, _ => 0
  | width + 1, n => if n % 2 = 0 then trailingZeros width (n / 2) + 1 else 0

/-- The mask length of the largest aligned block that starts at `start` and ends before `stop`. -/
def blockLength (f : Family) (start stop : Nat) : Nat :=
  -- the size is a power of two that goes into what is left and divides the start
  f.width - min (stop - start).log2 (trailingZeros f.width start)

/-- The mask of a block is no longer than an address. -/
theorem blockLength_le (f : Family) (start stop : Nat) : blockLength f start stop ≤ f.width :=
  Nat.sub_le _ _

/-- Cuts the addresses from `start` to the one before `stop` into blocks, each as large as
possible. -/
def blocks (f : Family) (start stop : Nat) (h : stop ≤ f.size) : List Net :=
  if hlt : start < stop then
    let length := blockLength f start stop
    ⟨f, start, length, Nat.lt_of_lt_of_le hlt h, blockLength_le f start stop⟩ ::
      blocks f (start + blockSize f length) stop h
  else []
termination_by stop - start
decreasing_by
  have := blockSize_pos f (blockLength f start stop)
  omega

/-- The blocks of a span. -/
def Span.blocks {f : Family} (s : Span f) : List Net :=
  Net.blocks f s.start s.stop s.stop_le_size

/-! ### Networks -/

/-- Merges the networks of one family. -/
def mergeFamily (f : Family) (nets : List Net) : List Net :=
  (Span.joinAll (nets.filterMap (span? f))).flatMap Span.blocks

/-- Merges networks: those of the shorter addresses first, each family ascending. -/
def merge (nets : List Net) : List Net := mergeFamily .v4 nets ++ mergeFamily .v6 nets

end RoutingData.Net
