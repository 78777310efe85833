import TxTemplate.Bytes.Radix

set_option autoImplicit false

/-! Counts in as few bytes as they need: seven bits a byte, the lowest first, and the high bit of
every byte but the last. -/

namespace TxTemplate.CompactCount

def limit : Nat := Nat.pow 2 16

/-- The bytes of a count; the first argument bounds their number. -/
def encodeUpTo : Nat → Nat → Bytes
  | 0, n => [UInt8.ofNat n]
  | more + 1, n =>
    if n < 128 then [UInt8.ofNat n] else UInt8.ofNat (128 + n % 128) :: encodeUpTo more (n / 128)

def encode (n : Nat) : Bytes := encodeUpTo 2 n

end TxTemplate.CompactCount
