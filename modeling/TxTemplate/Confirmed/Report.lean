import TxTemplate.Confirmed.Decompile

set_option autoImplicit false

/-! Reports on blocks: every transaction with its instructions, its log and the change of every
account's balance. Addresses stay as they are. -/

namespace TxTemplate.Report

def nestedKeys : List String := ["pubkey", "wallet", "owner"]

/-- Whether a value of an info names an account: it is its text, a list with it, or an object that
names it under one of the known keys. -/
def names (account : String) : Json → Bool
  | .str text => text = account
  | .arr items => items.any (Json.isText account)
  | .obj fields =>
    nestedKeys.any fun key => ((fields.lookup key).getD .null).isText account
  | _ => false

def nameOf? (account : String) : Json → Option String
  | .obj fields => (fields.find? fun field => names account field.2).map fun field => field.1
  | _ => none

/-- The entry at a position; positions are numbers, and one in range has to be whole. -/
def entryAt (roster : Roster) (index : Json) : Except Fault (Option RosterEntry) :=
  match Number.ofJson? index with
  | none => .error (.shape .wrongKind)
  | some (.int n) => .ok (if n < 0 then none else roster[n.toNat]?)
  | some (.float x) =>
    if 0.0 ≤ x && Number.floatBefore x roster.length then .error (.shape .wrongKind) else .ok none

def partsOf (roster : Roster) (instruction : Json) : Except Fault (String × List String) := do
  if ← instruction.contains "programIdIndex" then
    let program ← entryAt roster (← instruction.member "programIdIndex")
    let indices ← ((← instruction.field? "accounts").getD (.arr [])).elements
    let entries ← indices.mapM (entryAt roster)
    pure ((program.map fun entry => entry.account).getD "",
      entries.filterMap fun entry => entry.map fun entry => entry.account)
  else
    let program := ((← instruction.field? "programId").getD (.str "")).display
    let accounts ← ((← instruction.field? "accounts").getD (.arr [])).elements
    pure (program, accounts.map Json.display)

/-- What is known of an instruction before its data is turned into hexadecimal text. -/
structure Reading where
  program : String
  accounts : List String
  data : Json
  info : Json

def read (roster : Roster) (instruction : Json) : Except Fault Reading := do
  let (program, accounts) ← partsOf roster instruction
  let data ← instruction.fieldOrNull "data"
  match ← instruction.field? "parsed" with
  | none => pure ⟨program, accounts, data, .null⟩
  | some parsed =>
    let reading ← NativeReading.read program parsed
    let info := match parsed with
      | .obj fields => (fields.lookup "info").getD .null
      | _ => .null
    let data := match reading.data with
      | .null => parsedData parsed
      | known => known
    pure ⟨program, reading.accounts, data, info⟩

def accountLine (roster : Roster) (info : Json) (account : String) : Json :=
  let entry := roster.reverse.find? fun entry => entry.account == account
  let rights : Fields :=
    [("pubkey", .str account),
     ("isSigner", .bool ((entry.map fun entry => entry.signer).getD false)),
     ("isWritable", .bool ((entry.map fun entry => entry.writable).getD false))]
  match nameOf? account info with
  | some name => .obj (if name.isEmpty then rights else rights ++ [("name", .str name)])
  | none => .obj rights

def instructionLine (roster : Roster) (instruction : Json) : Except Fault Json := do
  let reading ← read roster instruction
  let data ← dataOfJson reading.data
  pure (.obj [("program", .str reading.program), ("data", data),
    ("accounts", .arr (reading.accounts.map (accountLine roster reading.info)))])

def balanceAt (balances : Json) (position : Nat) : Except Fault Json := do
  if position < (← balances.size) then balances.itemAt position else pure .null

/-- An account with its balances; the change is nought where one of them is missing. -/
def balanceLine (earlier later : Json) (position : Nat) (entry : RosterEntry) : Except Fault Json :=
  do
  let old ← balanceAt earlier position
  let new ← balanceAt later position
  let change ← match old, new with
    | .null, _ => pure (.int 0)
    | _, .null => pure (.int 0)
    | old, new => new.minus old
  pure (.obj [("pubkey", .str entry.account), ("isSigner", .bool entry.signer),
    ("isWritable", .bool entry.writable), ("preBalance", old), ("postBalance", new),
    ("balanceChange", change)])

def balanceLines (earlier later : Json) : Nat → Roster → Except Fault (List Json)
  | _, [] => .ok []
  | position, entry :: rest => do
    let line ← balanceLine earlier later position entry
    let lines ← balanceLines earlier later (position + 1) rest
    pure (line :: lines)

/-- The summary of a transaction, if it is encoded as JSON. -/
def transactionLine (transaction : Json) : Except Fault (Option Json) := do
  match ← messageOf? transaction with
  | none => pure none
  | some message =>
    let record ← recordOf transaction
    let roster ← Roster.ofMessage message record
    let earlier := (← record.fieldOrNull "preBalances").orElse (.arr [])
    let later := (← record.fieldOrNull "postBalances").orElse (.arr [])
    let accounts ← balanceLines earlier later 0 roster
    let signatures := (← (← transaction.fieldOrNull "transaction").fieldOrNull "signatures").orElse
      (.arr [.str ""])
    let signature ← signatures.itemAt 0
    let instructions ← ((message.lookup "instructions").getD (.arr [])).elements
    let lines ← instructions.mapM (instructionLine roster)
    let log := (← record.fieldOrNull "logMessages").orElse (.arr [])
    pure (some (.obj [("signature", signature), ("ixs", .arr lines),
      ("meta", .obj [("logs", log), ("accounts", .arr accounts)])]))

def transactionLines : List Json → Traced (List Json)
  | [] => pure []
  | transaction :: rest => do
    match ← transactionLine transaction with
    | some line => do
      let lines ← transactionLines rest
      pure (line :: lines)
    | none => do
      Traced.note .reporting .debug "Skipping transaction that is not JSON encoded"
      transactionLines rest

def ofBlock (block slot : Json) : Traced Json := do
  let transactions ← ((← block.fieldOrNull "transactions").orElse (.arr [])).elements
  let lines ← transactionLines transactions
  pure (.obj [("slot", .str slot.display), ("txs", .arr lines)])

end TxTemplate.Report
