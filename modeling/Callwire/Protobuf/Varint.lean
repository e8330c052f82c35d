import Callwire.Bytes

/-!
# Varints

A number in groups of seven bits, the lowest first. Every byte but the last has
its high bit set.
-/

set_option autoImplicit false

namespace Callwire.Protobuf

def maxVarint : Nat := 10

def writeVarint (n : Nat) : Bytes :=
  if n < 128 then [UInt8.ofNat n]
  else UInt8.ofNat (n % 128 + 128) :: writeVarint (n / 128)
termination_by n
decreasing_by omega

def groups : Nat → Bytes → Option (Nat × Bytes)
  | 0, _ => none
  | _, [] => none
  | limit + 1, b :: rest =>
    if b < 128 then some (b.toNat, rest)
    else (groups limit rest).map fun (n, rest) => (b.toNat % 128 + 128 * n, rest)

/-- Bits beyond the 64th are dropped. -/
def readVarint (b : Bytes) : Option (Nat × Bytes) :=
  (groups maxVarint b).map fun (n, rest) => (n % UInt64.size, rest)

end Callwire.Protobuf
