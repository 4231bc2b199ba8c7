import RoutingData.Bytes

/-!
# Variable-length numbers

A number is written in base 128, the least significant digit first, and every byte but the last is
marked. A reader takes at most ten bytes, of which the tenth may hold only the 64th bit.
-/

namespace RoutingData.Wire

/-- The encoding of a number. -/
def varint (n : Nat) : Bytes :=
  if n < 128 then [UInt8.ofNat n] else UInt8.ofNat (n % 128 + 128) :: varint (n / 128)

/-- Reads a number of at most the given number of bytes. -/
def readDigits : Nat → Bytes → Option (Nat × Bytes)
  | 0, _ | _, [] => none
  | left + 1, b :: rest =>
    if b.toNat < 128 then if left = 0 ∧ 2 ≤ b.toNat then none else some (b.toNat, rest)
    else (readDigits left rest).map fun r => (b.toNat % 128 + 128 * r.1, r.2)

/-- The number of bytes that 64 bits take at most. -/
def maxVarintLength : Nat := 10

/-- Reads a number of at most 64 bits; the rest of the bytes comes with it. -/
def readVarint (bytes : Bytes) : Option (Nat × Bytes) := readDigits maxVarintLength bytes

end RoutingData.Wire
