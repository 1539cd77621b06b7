import SyscallFilter.Bytes

/-! Numbers of a fixed number of bytes, stored with the least or the most significant byte first. -/

namespace SyscallFilter

/-- Which byte of a stored number comes first. -/
inductive ByteOrder where
  | little
  | big
  deriving DecidableEq

namespace ByteOrder

/-- The lowest `count` bytes of a number, the least significant first. -/
def lowBytes : (count : Nat) → Nat → Bytes
  | 0, _ => []
  | count + 1, n => .ofNat n :: lowBytes count (n / 256)

/-- The number that bytes stand for, the least significant first. -/
def ofLowBytes : Bytes → Nat
  | [] => 0
  | b :: rest => b.toNat + 256 * ofLowBytes rest

/-- A number stored in `count` bytes. -/
def write (order : ByteOrder) (count n : Nat) : Bytes :=
  match order with
  | .little => lowBytes count n
  | .big => (lowBytes count n).reverse

/-- The number that stored bytes stand for. -/
def read (order : ByteOrder) (bytes : Bytes) : Nat :=
  match order with
  | .little => ofLowBytes bytes
  | .big => ofLowBytes bytes.reverse

end ByteOrder

end SyscallFilter
