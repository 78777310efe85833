import TxTemplate.Bytes.Base58
import TxTemplate.Address.Basic
import TxTemplate.Curve.Edwards
import TxTemplate.Placeholder
import TxTemplate.Storage.Directory

set_option autoImplicit false

/-! Keypairs: a secret seed and the address of its public key. They are given as a list of the
sixty-four bytes, as a file that holds such a list, or as the bytes in base 58. -/

namespace TxTemplate

structure Keypair where
  seed : Bytes
  address : Address
  deriving DecidableEq, Repr

namespace Keypair

def secret (keypair : Keypair) : Bytes := keypair.seed ++ keypair.address.bytes

def sign (keypair : Keypair) (message : Bytes) : Bytes := Edwards.sign keypair.seed message

def size : Nat := 64

def ofBytes? (bytes : Bytes) : Option Keypair :=
  let seed := bytes.take 32
  let key := bytes.drop 32
  if Edwards.publicKey seed == key then (Address.ofBytes? key).map fun address => ⟨seed, address⟩
  else none

def byte? : Json → Option UInt8
  | .int n => if 0 ≤ n ∧ n ≤ 255 then some (UInt8.ofNat n.toNat) else none
  | _ => none

def ofBytes (bytes : Bytes) : Except Fault Keypair :=
  if bytes.length ≠ size then .error (.keypair (.length bytes.length))
  else
    match ofBytes? bytes with
    | some keypair => .ok keypair
    | none => .error (.keypair .signature)

def ofItems (items : List Json) : Except Fault Keypair :=
  match items.mapM byte? with
  | none => .error (.keypair .array)
  | some bytes => ofBytes bytes

def ofFile (directory : Directory) (path : String) : Except Fault Keypair :=
  match directory.readDocument path with
  | .error fault => .error fault
  | .ok (.ok (.arr items)) => ofItems items
  | .ok (.error (.longNumeral digits)) => .error (.document path (.longNumeral digits))
  | .ok _ => .error (.keypair (.document path))

def load (directory : Directory) (source : Json) : Except Fault Keypair :=
  match source with
  | .arr items => ofItems items
  | .str text =>
    if directory.has text then ofFile directory text
    else
      match Base58.decodeTrimmed text.toList with
      | some bytes => ofBytes bytes
      | none => .error (.keypair (.text text))
  | other => .error (.keypair (.unsupported other))

def resolve (directory : Directory) (params : Params) (source : Json) : Except Fault Keypair := do
  let resolved ← Placeholder.resolve params source
  load directory resolved

end Keypair

end TxTemplate
