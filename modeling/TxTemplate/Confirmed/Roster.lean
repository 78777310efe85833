import TxTemplate.Json.Access
import TxTemplate.Json.Number

set_option autoImplicit false

/-! The accounts of a confirmed transaction with their rights. A message either states the rights
of every account, or orders its keys so that three counts in its header tell them: the signers come
first, and the accounts that may only be read come last among the signers and among the others. -/

namespace TxTemplate

structure RosterEntry where
  account : String
  signer : Bool
  writable : Bool
  deriving DecidableEq, Repr

abbrev Roster := List RosterEntry

namespace Roster

def entryOfParsed (key : Json) : Except Fault RosterEntry := do
  let account ← key.member "pubkey"
  let signer ← key.fieldOrNull "signer"
  let writable ← key.fieldOrNull "writable"
  pure ⟨account.display, signer.isTruthy, writable.isTruthy⟩

def ofParsed (message : Json) : Except Fault Roster := do
  let keys ← ((← message.field? "accountKeys").getD (.arr [])).elements
  keys.mapM entryOfParsed

structure Header where
  signers : Json
  readonlySigners : Json
  readonlyOthers : Json

def Header.ofMessage (message : Json) : Except Fault Header := do
  let header := (← message.field? "header").getD (.obj [])
  let count (key : String) : Except Fault Json := do
    pure ((← header.field? key).getD (.int 0))
  pure ⟨← count "numRequiredSignatures", ← count "numReadonlySignedAccounts",
    ← count "numReadonlyUnsignedAccounts"⟩

def entryOfKey (header : Header) (total position : Nat) (key : Json) : Except Fault RosterEntry :=
  do
  let place := Json.int position
  let signer ← place.isBelow header.signers
  let bound ← if signer then header.signers.minus header.readonlySigners
    else (Json.int total).minus header.readonlyOthers
  let writable ← place.isBelow bound
  pure ⟨key.display, signer, writable⟩

def entriesOfKeys (header : Header) (total : Nat) : Nat → List Json → Except Fault Roster
  | _, [] => .ok []
  | position, key :: rest => do
    let entry ← entryOfKey header total position key
    let entries ← entriesOfKeys header total (position + 1) rest
    pure (entry :: entries)

/-- Accounts that a lookup table brought in; they never sign. -/
def loaded (addresses : Json) (kind : String) (writable : Bool) : Except Fault Roster := do
  let keys ← ((← addresses.field? kind).getD (.arr [])).elements
  pure (keys.map fun key => ⟨key.display, false, writable⟩)

/-- The accounts of a message whose header tells their rights, and behind them those from lookup
tables, the writable ones first. -/
def ofRaw (message addresses : Json) : Except Fault Roster := do
  let header ← Header.ofMessage message
  let keys := (← message.field? "accountKeys").getD (.arr [])
  let items ← keys.elements
  let own ← entriesOfKeys header items.length 0 items
  if addresses.isTruthy then
    let writable ← loaded addresses "writable" true
    let readonly ← loaded addresses "readonly" false
    pure (own ++ writable ++ readonly)
  else pure own

/-- Whether a message states the rights of its accounts: its first key is an object. -/
def isParsed (keys : Json) : Except Fault Bool :=
  if keys.isTruthy then do
    match ← keys.itemAt 0 with
    | .obj _ => pure true
    | _ => pure false
  else pure false

def ofMessage (message : Fields) (outcome : Json) : Except Fault Roster := do
  let keys := (message.lookup "accountKeys").getD (.arr [])
  if ← isParsed keys then ofParsed (.obj message)
  else ofRaw (.obj message) (← outcome.fieldOrNull "loadedAddresses")

def signers (roster : Roster) : List String :=
  ((roster.filter fun entry => entry.signer).map fun entry => entry.account).eraseDups

def isWritable (roster : Roster) (account : String) : Bool :=
  roster.any fun entry => entry.writable && entry.account == account

end Roster

/-- The message of a confirmed transaction, if it is encoded as JSON. -/
def messageOf? (transaction : Json) : Except Fault (Option Fields) := do
  match ← transaction.fieldOrNull "transaction" with
  | .obj fields =>
    match fields.lookup "message" with
    | some (.obj message) => pure (some message)
    | _ => pure none
  | _ => pure none

/-- What the ledger recorded about a transaction; empty where it recorded nothing. -/
def recordOf (transaction : Json) : Except Fault Json := do
  pure ((← transaction.fieldOrNull "meta").orElse (.obj []))

end TxTemplate
