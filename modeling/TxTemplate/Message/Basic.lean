import TxTemplate.Message.Keys
import TxTemplate.Fault

set_option autoImplicit false

/-! Messages: what is signed. The instructions of a message name their program and accounts by the
place of a key. A plain message holds all its keys; a versioned message may leave keys to lookup
tables, and their places follow those of its own keys. -/

namespace TxTemplate

structure MessageHeader where
  signers : Nat
  readonlySigners : Nat
  readonlyOthers : Nat
  deriving DecidableEq, Repr

structure IndexedInstruction where
  program : UInt8
  accounts : List UInt8
  data : Bytes
  deriving DecidableEq, Repr

structure TableLookup where
  table : Address
  writable : List UInt8
  readonly : List UInt8
  deriving DecidableEq, Repr

structure Message where
  header : MessageHeader
  keys : List Address
  /-- The hash of a recent block; it has the form of an address. -/
  blockhash : Address
  instructions : List IndexedInstruction
  /-- The lookups of a versioned message; a plain message has none. -/
  lookups : Option (List TableLookup)
  deriving DecidableEq, Repr

structure LookupTable where
  key : Address
  addresses : List Address
  deriving DecidableEq, Repr

namespace MessageHeader

def limit : Nat := 255

def ofGroups (groups : KeyGroups) : MessageHeader where
  signers := groups.writableSigners.length + groups.readonlySigners.length
  readonlySigners := groups.readonlySigners.length
  readonlyOthers := groups.readonlyOthers.length

def fits (header : MessageHeader) : Bool :=
  header.signers ≤ limit && header.readonlySigners ≤ limit && header.readonlyOthers ≤ limit

end MessageHeader

namespace IndexedInstruction

def place (keys : List Address) (address : Address) : UInt8 := UInt8.ofNat (keys.idxOf address)

def ofInstruction (keys : List Address) (instruction : Instruction) : IndexedInstruction where
  program := place keys instruction.program
  accounts := instruction.accounts.map fun account => place keys account.address
  data := instruction.data

end IndexedInstruction

/-- What a lookup table takes over: the lookup, and the addresses it stands for. -/
structure Extraction where
  lookup : TableLookup
  writable : List Address
  readonly : List Address

namespace Extraction

def found (table : LookupTable) (addresses : List Address) :
    Except Fault (List (Address × UInt8)) :=
  let held := addresses.filter fun address => table.addresses.contains address
  if held.all fun address => table.addresses.idxOf address < 256 then
    .ok (held.map fun address => (address, IndexedInstruction.place table.addresses address))
  else .error (.job .tableLimit)

def ofKeys (table : LookupTable) (keys : MessageKeys) : Except Fault Extraction := do
  let writable ← found table (keys.having fun rights => rights.movable && rights.writable)
  let readonly ← found table (keys.having fun rights => rights.movable && !rights.writable)
  pure ⟨⟨table.key, writable.map Prod.snd, readonly.map Prod.snd⟩, writable.map Prod.fst,
    readonly.map Prod.fst⟩

def isEmpty (extraction : Extraction) : Bool :=
  extraction.writable.isEmpty && extraction.readonly.isEmpty

def leave (extraction : Extraction) (keys : MessageKeys) : MessageKeys :=
  keys.filter fun key =>
    !extraction.writable.contains key.address && !extraction.readonly.contains key.address

/-- What tables take over one after the other, and the keys that are left in the end. A table that
holds no key is not used. -/
def ofTables : List LookupTable → MessageKeys → Except Fault (List Extraction × MessageKeys)
  | [], keys => .ok ([], keys)
  | table :: rest, keys => do
    let extraction ← ofKeys table keys
    let (more, left) ← ofTables rest (extraction.leave keys)
    pure (if extraction.isEmpty then more else extraction :: more, left)

end Extraction

namespace Message

/-- The plain message of instructions. Its header has to hold the counts of its keys. -/
def plain (payer : Address) (instructions : List Instruction) (blockhash : Address) :
    Except Fault Message :=
  let groups := KeyGroups.of payer (.ofInstructions payer instructions)
  let header := MessageHeader.ofGroups groups
  let keys := groups.addresses
  if header.fits then
    .ok ⟨header, keys, blockhash, instructions.map (.ofInstruction keys), none⟩
  else .error (.signing .tooLarge)

def keyLimit : Nat := 256

def versioned (payer : Address) (instructions : List Instruction) (tables : List LookupTable)
    (blockhash : Address) : Except Fault Message := do
  let (extractions, left) ← Extraction.ofTables tables (.ofInstructions payer instructions)
  let groups := KeyGroups.of payer left
  let header := MessageHeader.ofGroups groups
  let places := groups.addresses ++ extractions.flatMap (fun extraction => extraction.writable) ++
    extractions.flatMap fun extraction => extraction.readonly
  if !header.fits || keyLimit < places.length then throw (.job .accountLimit)
  pure ⟨header, groups.addresses, blockhash, instructions.map (.ofInstruction places),
    some (extractions.map fun extraction => extraction.lookup)⟩

def signers (message : Message) : List Address := message.keys.take message.header.signers

end Message

end TxTemplate
