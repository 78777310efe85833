import TxTemplate.Instruction

set_option autoImplicit false

/-! The keys of a message. Every address of the instructions is a key once, with all the rights
that any of its mentions asks for; the keys are held in ascending order of their bytes. -/

namespace TxTemplate

/-- What a message asks of a key: its signature, the right to write it, its being run as a
program. -/
structure KeyRights where
  signer : Bool
  writable : Bool
  invoked : Bool
  deriving DecidableEq, Repr

namespace KeyRights

def none : KeyRights := ⟨false, false, false⟩

def payer : KeyRights := ⟨true, true, false⟩

def program : KeyRights := ⟨false, false, true⟩

def ofAccount (account : AccountMeta) : KeyRights := ⟨account.signer, account.writable, false⟩

def join (a b : KeyRights) : KeyRights :=
  ⟨a.signer || b.signer, a.writable || b.writable, a.invoked || b.invoked⟩

def movable (rights : KeyRights) : Bool := !rights.signer && !rights.invoked

end KeyRights

structure MessageKey where
  address : Address
  rights : KeyRights
  deriving DecidableEq, Repr

/-- Keys in ascending order, no two of one address. -/
abbrev MessageKeys := List MessageKey

namespace MessageKeys

def grant (address : Address) (rights : KeyRights) : MessageKeys → MessageKeys
  | [] => [⟨address, rights⟩]
  | key :: rest =>
    if key.address = address then ⟨address, key.rights.join rights⟩ :: rest
    else if address.le key.address then ⟨address, rights⟩ :: key :: rest
    else key :: grant address rights rest

def grantAccounts (keys : MessageKeys) (accounts : List AccountMeta) : MessageKeys :=
  accounts.foldl (fun keys account => grant account.address (.ofAccount account) keys) keys

def withInstruction (keys : MessageKeys) (instruction : Instruction) : MessageKeys :=
  grantAccounts (grant instruction.program .program keys) instruction.accounts

def ofInstructions (payer : Address) (instructions : List Instruction) : MessageKeys :=
  grant payer .payer (instructions.foldl withInstruction [])

def having (keys : MessageKeys) (kind : KeyRights → Bool) : List Address :=
  (keys.filter fun key => kind key.rights).map fun key => key.address

end MessageKeys

/-- The keys of a message by their place in it: signers before others, and among both those that
may be written before those that may not. The account that pays comes first. -/
structure KeyGroups where
  writableSigners : List Address
  readonlySigners : List Address
  writableOthers : List Address
  readonlyOthers : List Address
  deriving DecidableEq, Repr

namespace KeyGroups

def of (payer : Address) (keys : MessageKeys) : KeyGroups :=
  let others : MessageKeys := keys.filter fun key => key.address != payer
  { writableSigners := payer :: others.having fun rights => rights.signer && rights.writable
    readonlySigners := others.having fun rights => rights.signer && !rights.writable
    writableOthers := others.having fun rights => !rights.signer && rights.writable
    readonlyOthers := others.having fun rights => !rights.signer && !rights.writable }

def addresses (groups : KeyGroups) : List Address :=
  groups.writableSigners ++ groups.readonlySigners ++ groups.writableOthers ++ groups.readonlyOthers

end KeyGroups

end TxTemplate
