import RoutingData.Net.Basic

/-!
# Reserved networks

The networks for private and special use, which every dataset of addresses lists under one name.
-/

namespace RoutingData.Net

/-- The network of four octets and a mask length. -/
def dotted (a b c d : UInt8) (length : Nat) (h : length ≤ 32 := by decide) : Net where
  family := .v4
  address := ((a.toNat * 256 + b.toNat) * 256 + c.toNat) * 256 + d.toNat
  length := length
  address_lt := by
    have := a.toNat_lt
    have := b.toNat_lt
    have := c.toNat_lt
    have := d.toNat_lt
    simp only [Family.size, Family.width, Nat.pow_eq]
    omega
  length_le := h

/-- The network of long addresses whose first and last group of 16 bits are given, the groups
between being zero. -/
def sparse (first last : UInt16) (length : Nat) (h : length ≤ 128 := by decide) : Net where
  family := .v6
  address := first.toNat * Nat.pow 2 112 + last.toNat
  length := length
  address_lt := by
    have := first.toNat_lt
    have := last.toNat_lt
    simp only [Family.size, Family.width, Nat.pow_eq]
    omega
  length_le := h

/-- The name under which the reserved networks are listed. -/
def reservedName : String := "PRIVATE"

/-- The reserved networks in the order in which they are listed. -/
def reserved : List Net := [
  dotted 0 0 0 0 8, dotted 10 0 0 0 8, dotted 100 64 0 0 10, dotted 127 0 0 0 8,
  dotted 169 254 0 0 16, dotted 172 16 0 0 12, dotted 192 0 0 0 24, dotted 192 0 2 0 24,
  dotted 192 88 99 0 24, dotted 192 168 0 0 16, dotted 198 18 0 0 15, dotted 198 51 100 0 24,
  dotted 203 0 113 0 24, dotted 224 0 0 0 4, dotted 240 0 0 0 4, dotted 255 255 255 255 32,
  sparse 0 0 128, sparse 0 1 128, sparse 0xFC00 0 7, sparse 0xFF00 0 8, sparse 0xFE80 0 10]

end RoutingData.Net
