import RoutingData.Unicode.CodeSet

/-!
# Encoded ranges

The UTF-8 encodings of a set of characters, as sequences of byte ranges. Each sequence stands for
every encoding that takes one byte from each of its ranges; surrogates have no encoding.
-/

namespace RoutingData.Unicode

/-- A sequence of byte ranges. -/
abbrev ByteRanges := List (Nat × Nat)

/-- The numbers from `lo` to `hi` in base 64, as sequences of digit ranges: one leading digit of any
size and `k` digits after it. -/
def digitRanges : Nat → Nat → Nat → List ByteRanges
  | 0, lo, hi => [[(lo, hi)]]
  | k + 1, lo, hi =>
    let b := 64 ^ (k + 1)
    let first := lo / b
    let last := hi / b
    if first = last then (digitRanges k (lo % b) (hi % b)).map ((first, first) :: ·)
    else
      let cutLow := lo % b ≠ 0
      let cutHigh := hi % b ≠ b - 1
      let start := if cutLow then first + 1 else first
      let stop := if cutHigh then last - 1 else last
      (if cutLow then (digitRanges k (lo % b) (b - 1)).map ((first, first) :: ·) else []) ++
      (if start ≤ stop then [(start, stop) :: List.replicate (k + 1) (0, 63)] else []) ++
      (if cutHigh then (digitRanges k 0 (hi % b)).map ((last, last) :: ·) else [])

/-- Turns digits into bytes: the leading digit is marked with the length, the others with the mark
of continuation bytes. -/
def markDigits (lead : Nat) : ByteRanges → ByteRanges
  | [] => []
  | r :: rest => (r.1 + lead, r.2 + lead) :: rest.map fun s => (s.1 + 0x80, s.2 + 0x80)

/-- The encodings with `k` continuation bytes of the members of a range that lie between two code
points. -/
def encodedPart (k lead lo hi : Nat) (r : Nat × Nat) : List ByteRanges :=
  let a := max lo r.1
  let b := min hi r.2
  if a ≤ b then (digitRanges k a b).map (markDigits lead) else []

/-- The encodings of the characters in a range. -/
def encodedRange (r : Nat × Nat) : List ByteRanges :=
  encodedPart 0 0 0 0x7F r ++ encodedPart 1 0xC0 0x80 0x7FF r ++
    encodedPart 2 0xE0 0x800 0xD7FF r ++
    encodedPart 2 0xE0 0xE000 0xFFFF r ++ encodedPart 3 0xF0 0x10000 maxCode r

/-- The encodings of the characters in a set, ascending. -/
def CodeSet.encoded (s : CodeSet) : List ByteRanges := s.ranges.flatMap encodedRange

end RoutingData.Unicode
