import TxTemplate.Address.Program
import TxTemplate.Curve.Edwards

set_option autoImplicit false

/-! Derived addresses. The digest of some seeds, a bump byte and a program names an account that no
key can sign for, provided it is no point of the curve; the bump counts down until it is none. -/

namespace TxTemplate.Address

def derivationMark : Bytes := Utf8.bytes "ProgramDerivedAddress"

def derivationDigest (seeds : Bytes) (program : Address) (bump : Nat) : Bytes :=
  sha256 (seeds ++ UInt8.ofNat bump :: program.bytes ++ derivationMark)

/-- The first digest off the curve, with bumps from the given one down to one. -/
def deriveFrom (seeds : Bytes) (program : Address) : Nat → Option Address
  | 0 => none
  | bump + 1 =>
    let digest := derivationDigest seeds program (bump + 1)
    if Edwards.isPoint digest then deriveFrom seeds program bump else ofBytes? digest

def derive? (seeds : Bytes) (program : Address) : Option Address := deriveFrom seeds program 255

def associated? (owner mint : Address) : Option Address :=
  derive? (owner.bytes ++ tokenProgram.bytes ++ mint.bytes) associatedTokenProgram

def associated (owner mint : Address) : Except Fault Address :=
  (associated? owner mint).elim (.error .derivation) .ok

end TxTemplate.Address
