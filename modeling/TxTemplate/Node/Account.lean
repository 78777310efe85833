import TxTemplate.Address.Program
import TxTemplate.Bytes.Base64
import TxTemplate.Bytes.LittleEndian
import TxTemplate.Message.Basic

set_option autoImplicit false

/-! Accounts as a node reports them, and what their data holds: the executable part of a program,
the address that a program keeps its data under, and the addresses of a lookup table. -/

namespace TxTemplate

structure Account where
  lamports : Nat
  data : Bytes
  owner : Address
  executable : Bool
  rentEpoch : Nat
  deriving DecidableEq, Repr

namespace Account

def fields (account : Account) : Fields :=
  [("lamports", .int account.lamports),
   ("data", .arr [.str (Base64.text account.data), .str "base64"]),
   ("owner", .str account.owner.text),
   ("executable", .bool account.executable),
   ("rentEpoch", .int account.rentEpoch),
   ("space", .int account.data.length)]

def toJson (address : Address) (account : Account) : Json :=
  .obj [("pubkey", .str address.text), ("account", .obj account.fields)]

end Account

namespace Program

def magic : Bytes := [0x7F, 0x45, 0x4C, 0x46]

def executable? : Bytes → Option Bytes
  | [] => none
  | byte :: rest =>
    if magic.isPrefixOf (byte :: rest) then some (byte :: rest) else executable? rest

def replaceableTag : Nat := 2

def dataAddress? (data : Bytes) : Option Address :=
  if LittleEndian.decode (data.take 4) = replaceableTag then
    Address.ofBytes? ((data.drop 4).take 32)
  else none

end Program

namespace LookupTable

def headSize : Nat := 56

def neverDeactivated : Nat := Nat.pow 2 64 - 1

def addressesUpTo : Nat → Bytes → Option (List Address)
  | 0, bytes => if bytes.isEmpty then some [] else none
  | count + 1, bytes =>
    match bytes with
    | [] => some []
    | _ => do
      let first ← Address.ofBytes? (bytes.take 32)
      let rest ← addressesUpTo count (bytes.drop 32)
      pure (first :: rest)

/-- The slot of deactivation and the addresses of a table. Its data starts with a tag, two slots,
the place of the last extension, and the mark of an authority. -/
def read (data : Bytes) : Except Fault (Nat × List Address) :=
  let tag := LittleEndian.decode (data.take 4)
  if data.length < 4 ∨ 1 < tag then .error (.answer .tableMalformed)
  else if tag = 0 then .error (.answer .tableUninitialized)
  else if data.length < headSize ∨ 1 < (data.getD 21 0).toNat then .error (.answer .tableMalformed)
  else
    match addressesUpTo data.length (data.drop headSize) with
    | some addresses => .ok (LittleEndian.decode ((data.drop 4).take 8), addresses)
    | none => .error (.answer .tableMalformed)

def ofAccount (address : Address) (account : Account) : Except Fault LookupTable := do
  let (deactivation, addresses) ← read account.data
  if deactivation ≠ neverDeactivated then throw (.answer (.tableInactive address.text))
  pure ⟨address, addresses⟩

end LookupTable

end TxTemplate
