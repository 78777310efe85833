import TxTemplate.Bytes.Radix
import TxTemplate.Text.Blank

set_option autoImplicit false

/-! Base 58 text. A byte string is read as one number, most significant byte first, and written in
base 58; every leading zero byte is written as one leading `1`. -/

namespace TxTemplate.Base58

def alphabet : List Char :=
  "123456789ABCDEFGHJKLMNPQRSTUVWXYZabcdefghijkmnopqrstuvwxyz".toList

def digit (value : Nat) : Char := alphabet.getD value '1'

def value? (c : Char) : Option Nat := alphabet.idxOf? c

def encodeNumber (n : Nat) : List Char := ((Radix.digits 58 n).map digit).reverse

def numberBytes (n : Nat) : Bytes := ((Radix.digits 256 n).map UInt8.ofNat).reverse

/-- The number that bytes stand for, most significant first. -/
def bytesNumber (bytes : Bytes) : Nat := Radix.value 256 (bytes.reverse.map UInt8.toNat)

def encode (bytes : Bytes) : List Char :=
  List.replicate (bytes.takeWhile (· == 0)).length '1' ++
    encodeNumber (bytesNumber (bytes.dropWhile (· == 0)))

def decode (text : List Char) : Option Bytes :=
  match text.mapM value? with
  | none => none
  | some values =>
    some (List.replicate (values.takeWhile (· == 0)).length 0 ++
      numberBytes (Radix.value 58 (values.dropWhile (· == 0)).reverse))

def decodeTrimmed (text : List Char) : Option Bytes :=
  decode (Text.dropEndWhile Text.isBlank text)

def text (bytes : Bytes) : String := String.ofList (encode bytes)

end TxTemplate.Base58
