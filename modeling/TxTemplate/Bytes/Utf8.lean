import TxTemplate.Bytes.Radix

set_option autoImplicit false

/-! Text as bytes. Reading replaces what is not well formed: each longest start of a sequence that
cannot be completed becomes one replacement character. -/

namespace TxTemplate.Utf8

def encode (text : List Char) : Bytes := text.flatMap String.utf8EncodeChar

def bytes (text : String) : Bytes := encode text.toList

def replacement : Char := Char.ofNat 0xFFFD

/-- What a first byte announces: how many bytes follow it, the bits it contributes, and the range
of the byte after it. -/
def lead? (byte : UInt8) : Option (Nat × Nat × Nat × Nat) :=
  let n := byte.toNat
  if n < 0x80 then some (0, n, 0, 0)
  else if n < 0xC2 then none
  else if n < 0xE0 then some (1, n - 0xC0, 0x80, 0xBF)
  else if n = 0xE0 then some (2, 0, 0xA0, 0xBF)
  else if n = 0xED then some (2, 0xD, 0x80, 0x9F)
  else if n < 0xF0 then some (2, n - 0xE0, 0x80, 0xBF)
  else if n = 0xF0 then some (3, 0, 0x90, 0xBF)
  else if n < 0xF4 then some (3, n - 0xF0, 0x80, 0xBF)
  else if n = 0xF4 then some (3, 4, 0x80, 0x8F)
  else none

/-- Read the following bytes of a sequence: the character, or the replacement mark where a byte is
missing or out of range, and the bytes left. -/
def continueWith : Nat → Nat → Nat → Nat → Bytes → Char × Bytes
  | 0, bits, _, _, rest => (Char.ofNat bits, rest)
  | _ + 1, _, _, _, [] => (replacement, [])
  | more + 1, bits, low, high, byte :: rest =>
    if low ≤ byte.toNat ∧ byte.toNat ≤ high then
      continueWith more (bits * 64 + (byte.toNat - 0x80)) 0x80 0xBF rest
    else (replacement, byte :: rest)

def next (byte : UInt8) (rest : Bytes) : Char × Bytes :=
  match lead? byte with
  | none => (replacement, rest)
  | some (more, bits, low, high) => continueWith more bits low high rest

def decodeUpTo : Nat → Bytes → List Char
  | 0, _ => []
  | _ + 1, [] => []
  | steps + 1, byte :: rest => (next byte rest).1 :: decodeUpTo steps (next byte rest).2

/-- Every character takes at least one byte, so the number of bytes bounds the steps. -/
def decode (bytes : Bytes) : List Char := decodeUpTo bytes.length bytes

def text (bytes : Bytes) : String := String.ofList (decode bytes)

/-- A byte string is text exactly when writing what was read gives it back. -/
def isText (bytes : Bytes) : Bool := encode (decode bytes) == bytes

end TxTemplate.Utf8
