import TxTemplate.Bytes.Radix

set_option autoImplicit false

/-! Base 64 text with padding. Reading is strict about the alphabet and the padding: an incomplete
last group is padded to four characters exactly. A text of complete groups may carry any padding
after them, and unused bits of the last digit are not looked at. -/

namespace TxTemplate.Base64

def alphabet : List Char :=
  "ABCDEFGHIJKLMNOPQRSTUVWXYZabcdefghijklmnopqrstuvwxyz0123456789+/".toList

def digit (value : Nat) : Char := alphabet.getD value 'A'

def value? (c : Char) : Option Nat := alphabet.idxOf? c

def encode : Bytes → List Char
  | [] => []
  | [a] => [digit (a.toNat / 4), digit (a.toNat % 4 * 16), '=', '=']
  | [a, b] =>
    [digit (a.toNat / 4), digit (a.toNat % 4 * 16 + b.toNat / 16), digit (b.toNat % 16 * 4), '=']
  | a :: b :: c :: rest =>
    digit (a.toNat / 4) :: digit (a.toNat % 4 * 16 + b.toNat / 16) ::
      digit (b.toNat % 16 * 4 + c.toNat / 64) :: digit (c.toNat % 64) :: encode rest

/-- The bytes of a run of digit values, four values to three bytes. A single value left over has
no byte. -/
def join : List Nat → Bytes
  | [] => []
  | [_] => []
  | [a, b] => [UInt8.ofNat (a * 4 + b / 16)]
  | [a, b, c] => [UInt8.ofNat (a * 4 + b / 16), UInt8.ofNat (b % 16 * 16 + c / 4)]
  | a :: b :: c :: d :: rest =>
    UInt8.ofNat (a * 4 + b / 16) :: UInt8.ofNat (b % 16 * 16 + c / 4) ::
      UInt8.ofNat (c % 4 * 64 + d) :: join rest

def scan : List Char → List Nat × List Char
  | [] => ([], [])
  | c :: rest =>
    match value? c with
    | some value => (value :: (scan rest).1, (scan rest).2)
    | none => ([], c :: rest)

def paddingFits (digits padding : Nat) : Bool :=
  match digits % 4 with
  | 0 => digits != 0 || padding == 0
  | 1 => false
  | 2 => padding == 2
  | _ => padding == 1

def decode (text : List Char) : Option Bytes :=
  let (values, padding) := scan text
  if padding.all (· == '=') && paddingFits values.length padding.length then some (join values)
  else none

def text (bytes : Bytes) : String := String.ofList (encode bytes)

end TxTemplate.Base64
