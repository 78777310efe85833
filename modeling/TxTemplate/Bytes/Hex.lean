import TxTemplate.Bytes.Radix
import TxTemplate.Text.Blank

set_option autoImplicit false

/-! Hexadecimal text: two lower case digits a byte when written; either case, and blanks between
bytes, when read. -/

namespace TxTemplate.Hex

def digit (value : Nat) : Char :=
  if value < 10 then Char.ofNat (48 + value) else Char.ofNat (87 + value)

def value? (c : Char) : Option Nat :=
  let code := c.toNat
  if 48 ≤ code ∧ code ≤ 57 then some (code - 48)
  else if 97 ≤ code ∧ code ≤ 102 then some (code - 87)
  else if 65 ≤ code ∧ code ≤ 70 then some (code - 55)
  else none

def encode : Bytes → List Char
  | [] => []
  | byte :: rest => digit (byte.toNat / 16) :: digit (byte.toNat % 16) :: encode rest

/-- Refuses a half byte and any other character; blanks may stand before, between and after
bytes. -/
def decode : List Char → Option Bytes
  | [] => some []
  | [c] => if Text.isAsciiBlank c then some [] else none
  | c :: d :: rest =>
    if Text.isAsciiBlank c then decode (d :: rest)
    else
      match value? c, value? d, decode rest with
      | some high, some low, some bytes => some (UInt8.ofNat (16 * high + low) :: bytes)
      | _, _, _ => none

def text (bytes : Bytes) : String := String.ofList (encode bytes)

end TxTemplate.Hex
