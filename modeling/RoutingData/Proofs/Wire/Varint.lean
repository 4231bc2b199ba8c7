import Mathlib.Algebra.Group.Nat.Defs
import RoutingData.Wire.Varint

/-!
# Reading numbers back

A reader finds the number that was written and stops right behind it, whatever comes next
(`readVarint_varint`). The bound on the number shrinks with the bytes that are left: with `left + 1`
bytes to go the number is below `2 ^ (7 * left + 1)`, so on the last byte it is below two.
-/

namespace RoutingData.Wire

/-- A number that fits into a byte is the value of that byte. -/
theorem toNat_byte {n : Nat} (h : n < 256) : (UInt8.ofNat n).toNat = n :=
  UInt8.toNat_ofNat_of_lt' h

/-- A number that has one byte is written as that byte. -/
theorem varint_of_lt {n : Nat} (h : n < 128) : varint n = [UInt8.ofNat n] := by
  rw [varint, if_pos h]

/-- A larger number has its lowest digit, marked, before the rest. -/
theorem varint_of_le {n : Nat} (h : 128 ≤ n) :
    varint n = UInt8.ofNat (n % 128 + 128) :: varint (n / 128) := by
  rw [varint, if_neg (Nat.not_lt.2 h)]

/-- Every number takes a byte. -/
theorem length_varint_pos (n : Nat) : 0 < (varint n).length := by
  rw [varint]
  split
  · exact Nat.one_pos
  · exact Nat.succ_pos _

/-- A number is read back when the bytes that are left leave room for it. -/
theorem readDigits_varint {left : Nat} (hleft : left ≤ 9) :
    ∀ {n : Nat}, n < 2 ^ (7 * left + 1) →
      ∀ rest, readDigits (left + 1) (varint n ++ rest) = some (n, rest) := by
  induction left with
  | zero =>
    intro n hn rest
    have hbyte : (UInt8.ofNat n).toNat = n := toNat_byte (by omega)
    rw [varint_of_lt (by omega), List.singleton_append, readDigits, hbyte, if_pos (by omega),
      if_neg (by omega)]
  | succ left ih =>
    intro n hn rest
    by_cases hlast : n < 128
    · have hbyte : (UInt8.ofNat n).toNat = n := toNat_byte (by omega)
      rw [varint_of_lt hlast, List.singleton_append, readDigits, hbyte, if_pos hlast,
        if_neg (by omega)]
    · have hbyte : (UInt8.ofNat (n % 128 + 128)).toNat = n % 128 + 128 := toNat_byte (by omega)
      -- the other digits are a number with seven bits less
      have hdigits : n / 128 < 2 ^ (7 * left + 1) := by
        rw [Nat.div_lt_iff_lt_mul (by decide)]
        calc n < 2 ^ (7 * (left + 1) + 1) := hn
          _ = 2 ^ (7 * left + 1 + 7) := by rw [Nat.mul_succ, Nat.add_right_comm]
          _ = 2 ^ (7 * left + 1) * 128 := Nat.pow_add _ _ _
      rw [varint_of_le (by omega), List.cons_append, readDigits, hbyte, if_neg (by omega),
        ih (by omega) hdigits]
      simp only [Option.map_some, Option.some.injEq, Prod.mk.injEq, and_true]
      omega

/-- A number of 64 bits is read back, and what comes after it is left. -/
theorem readVarint_varint {n : Nat} (h : n < 2 ^ 64) (rest : Bytes) :
    readVarint (varint n ++ rest) = some (n, rest) :=
  readDigits_varint (Nat.le_refl 9) h rest

end RoutingData.Wire
