import TxTemplate.Bytes.Radix

set_option autoImplicit false

/-! Words of a fixed number of bytes, least significant byte first. -/

namespace TxTemplate.LittleEndian

def encode : Nat → Nat → Bytes
  | 0, _ => []
  | width + 1, n => UInt8.ofNat n :: encode width (n / 256)

def decode : Bytes → Nat
  | [] => 0
  | byte :: rest => byte.toNat + 256 * decode rest

end TxTemplate.LittleEndian
