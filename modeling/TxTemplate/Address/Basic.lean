import TxTemplate.Bytes.Base58
import TxTemplate.Fault

set_option autoImplicit false

/-! Addresses: thirty-two bytes, written in base 58. -/

namespace TxTemplate

structure Address where
  bytes : Bytes
  length_bytes : bytes.length = 32
  deriving DecidableEq, Repr

namespace Address

def ofBytes? (bytes : Bytes) : Option Address :=
  if sized : bytes.length = 32 then some ⟨bytes, sized⟩ else none

def text (address : Address) : String := Base58.text address.bytes

def maxTextBytes : Nat := 44

/-- The address that a text names. Its size is looked at first, then its characters, then the
number of bytes. -/
def read (text : String) : Except AddressFlaw Address :=
  if maxTextBytes < text.utf8ByteSize then .error .wrongSize
  else
    match Base58.decode text.toList with
    | none => .error .notBase58
    | some bytes =>
      match ofBytes? bytes with
      | some address => .ok address
      | none => .error .wrongSize

def parse (text : String) : Except Fault Address :=
  match read text with
  | .ok address => .ok address
  | .error flaw => .error (.codec (.invalidAddress (.text text flaw)))

/-- The address that a value names; only a text can name one. -/
def ofValue : Json → Except Fault Address
  | .str text => parse text
  | _ => .error (.shape .wrongKind)

def isText (text : String) : Bool :=
  match read text with
  | .ok _ => true
  | .error _ => false

/-- Order by bytes, most significant first. -/
def before : Bytes → Bytes → Bool
  | [], _ => true
  | _ :: _, [] => false
  | a :: as, b :: bs => a < b || (a == b && before as bs)

def le (a b : Address) : Bool := before a.bytes b.bytes

theorem ofBytes?_bytes (address : Address) : ofBytes? address.bytes = some address := by
  cases address with
  | mk bytes sized => simp [ofBytes?, sized]

end Address

end TxTemplate
