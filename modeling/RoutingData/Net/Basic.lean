/-!
# Networks

A network is an address with the number of its leading bits that count. The bits after those, the
host bits, are kept as they are given; they do not change which addresses the network contains.
-/

namespace RoutingData

/-- The family of an address. -/
inductive Family where
  /-- Addresses of 32 bits. -/
  | v4
  /-- Addresses of 128 bits. -/
  | v6
  deriving DecidableEq, Repr, Inhabited

namespace Family

/-- The number of bits of an address. -/
def width : Family → Nat
  | v4 => 32
  | v6 => 128

/-- The number of bytes of an address. -/
def byteCount : Family → Nat
  | v4 => 4
  | v6 => 16

/-- The number of addresses. -/
def size (f : Family) : Nat := Nat.pow 2 f.width

end Family

/-- A network. -/
structure Net where
  /-- The family of its addresses. -/
  family : Family
  /-- The address as a number. -/
  address : Nat
  /-- How many leading bits of the address count. -/
  length : Nat
  /-- The address has no more bits than its family allows. -/
  address_lt : address < family.size
  /-- The mask is no longer than the address. -/
  length_le : length ≤ family.width
  deriving DecidableEq

namespace Net

/-- The number of addresses of a network with the given mask length. -/
def blockSize (f : Family) (length : Nat) : Nat := Nat.pow 2 (f.width - length)

/-- The first address that agrees with `address` in its leading bits. -/
def firstOf (f : Family) (address length : Nat) : Nat :=
  address / blockSize f length * blockSize f length

/-- The last address that agrees with `address` in its leading bits. -/
def lastOf (f : Family) (address length : Nat) : Nat :=
  firstOf f address length + (blockSize f length - 1)

/-- The first address of the network. -/
def first (n : Net) : Nat := firstOf n.family n.address n.length

/-- The last address of the network. -/
def last (n : Net) : Nat := lastOf n.family n.address n.length

/-- Whether the network contains an address. -/
def contains (n : Net) (f : Family) (address : Nat) : Prop :=
  n.family = f ∧ n.first ≤ address ∧ address ≤ n.last

instance (n : Net) (f : Family) (address : Nat) : Decidable (n.contains f address) :=
  inferInstanceAs (Decidable (_ ∧ _ ∧ _))

/-- A block is not empty. -/
theorem blockSize_pos (f : Family) (length : Nat) : 0 < blockSize f length :=
  Nat.two_pow_pos _

/-- Clearing the host bits makes no address larger. -/
theorem firstOf_le (f : Family) (address length : Nat) : firstOf f address length ≤ address :=
  Nat.div_mul_le_self _ _

/-- The first address of a network is not after its last. -/
theorem first_le_last (n : Net) : n.first ≤ n.last := Nat.le_add_right _ _

/-- A network ends within its family: its blocks fill the family. -/
theorem last_lt_size (n : Net) : n.last < n.family.size := by
  have hsize : n.family.size = blockSize n.family n.length * 2 ^ n.length := by
    show 2 ^ n.family.width = 2 ^ (n.family.width - n.length) * 2 ^ n.length
    rw [← Nat.pow_add, Nat.sub_add_cancel n.length_le]
  have hblock : n.address / blockSize n.family n.length < 2 ^ n.length :=
    Nat.div_lt_of_lt_mul (hsize ▸ n.address_lt)
  have hpos := blockSize_pos n.family n.length
  calc n.last
    _ < n.first + blockSize n.family n.length := by
      show n.first + (blockSize n.family n.length - 1) < _
      omega
    _ = (n.address / blockSize n.family n.length + 1) * blockSize n.family n.length :=
      (Nat.succ_mul _ _).symm
    _ ≤ 2 ^ n.length * blockSize n.family n.length := Nat.mul_le_mul_right _ hblock
    _ = n.family.size := by rw [hsize, Nat.mul_comm]

/-- The network of an address and a mask length, if the mask is not too long. -/
def ofParts? (f : Family) (address length : Nat) : Option Net :=
  if h : address < f.size ∧ length ≤ f.width then some ⟨f, address, length, h.1, h.2⟩ else none

/-- The network with its host bits cleared. -/
def truncate (n : Net) : Net :=
  { n with
    address := n.first
    address_lt := Nat.lt_of_le_of_lt (firstOf_le _ _ _) n.address_lt }

/-! ### Bytes -/

/-- The number that bytes spell, the most significant one first. -/
def ofBigEndian (bytes : List UInt8) : Nat := bytes.foldl (fun n b => 256 * n + b.toNat) 0

/-- The lowest `count` bytes of a number, the most significant one first. -/
def bigEndian : Nat → Nat → List UInt8
  | 0, _ => []
  | count + 1, n => bigEndian count (n / 256) ++ [UInt8.ofNat n]

/-- The bytes of the address. -/
def addressBytes (n : Net) : List UInt8 := bigEndian n.family.byteCount n.address

/-- The family of addresses with the given number of bytes. -/
def familyOfByteCount? : Nat → Option Family
  | 4 => some .v4
  | 16 => some .v6
  | _ => none

/-- The network of an address in bytes and a mask length. -/
def ofBytes? (bytes : List UInt8) (length : Nat) : Option Net := do
  let f ← familyOfByteCount? bytes.length
  ofParts? f (ofBigEndian bytes) length

end Net

end RoutingData
