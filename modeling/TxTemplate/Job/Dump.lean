import TxTemplate.Confirmed.Decompile
import TxTemplate.Confirmed.Report
import TxTemplate.Confirmed.Touched
import TxTemplate.Job.Submit
import TxTemplate.Slot

set_option autoImplicit false

/-! Jobs that store what a node holds: accounts, programs, transactions and blocks, as they are, as
templates or as reports. The folder is given as a value; one that is no text is a fault of shape
where it is first used. -/

namespace TxTemplate.Job

def makeFolder (folder : Json) : Action String :=
  match folder with
  | .str path => do
    let (outcome, made) := (← Action.files).makeFolders path
    modify fun session => { session with directory := made }
    Action.ofExcept outcome
    pure path
  | _ => throw (.shape .wrongKind)

def store (folder : Json) (name : String) (document : Json) : Action String := do
  let folder ← makeFolder folder
  let path := Path.join folder (name ++ ".json")
  Action.write path (.text (Json.write document))
  pure path

def programData (client : Client) (account : Account) : Action Bytes := do
  if account.owner = Address.upgradeableLoader then
    match Program.dataAddress? account.data with
    | none => pure account.data
    | some address =>
      tryCatch (do
        let holder ← client.accountInfo address
        pure holder.data)
        fun fault => do
          if !fault.isRefusal then throw fault
          Action.note .dumping .warning ("Program data account unavailable: " ++ fault.message)
          pure account.data
  else pure account.data

def dumpAccount (client : Client) (address : String) (folder : Json) : Action String := do
  let folder ← makeFolder folder
  let key ← Address.parse address
  let account ← client.accountInfo key
  if account.executable then
    Action.note .dumping .info ("Dumping program " ++ address ++ "...")
    match Program.executable? (← programData client account) with
    | none => throw (.job (.notElf address))
    | some executable =>
      let path := Path.join folder (address ++ ".so")
      Action.write path (.binary executable)
      Action.note .dumping .info ("Program dumped to " ++ path)
      pure path
  else
    Action.note .dumping .info ("Dumping account " ++ address ++ "...")
    let path := Path.join folder (address ++ ".json")
    Action.write path (.text (Json.write (account.toJson key)))
    Action.note .dumping .info ("Account dumped to " ++ path)
    pure path

def tryDumpAccount (client : Client) (folder : Json) (address : String) : Action Unit :=
  tryCatch (discard (dumpAccount client address folder)) fun fault => do
    if !fault.isRefusal then throw fault
    Action.note .dumping .error ("Failed to dump account " ++ address ++ ": " ++ fault.message)

def dumpAccounts (client : Client) (addresses : List String) (folder : Json) : Action Unit :=
  (Touched.sorted addresses).forM (tryDumpAccount client folder)

def dumpTouched (client : Client) (signature : String) (folder : Json) : Action (List String) := do
  let transaction ← client.transaction signature
  let addresses ← Touched.addresses transaction
  Action.note .dumping .info
    ("Dumping " ++ Decimal.natText addresses.length ++ " accounts of transaction " ++ signature ++
      "...")
  dumpAccounts client addresses folder
  pure addresses

def accountsOf (compiled : CompiledTransaction) : List String :=
  compiled.instructions.flatMap fun instruction =>
    instruction.accounts.map fun account => account.address.text

def dumpNeeded (client : Client) (template : String) (folder : Json) (params : Params) :
    Action Unit := do
  let compiled ← compileFile template params
  dumpAccounts client (accountsOf compiled) folder

def dumpTransaction (client : Client) (signature : String) (folder : Json) : Action String := do
  let transaction ← client.transaction signature
  let path ← store folder signature transaction
  Action.note .dumping .info ("Raw transaction dumped to " ++ path)
  pure path

def dumpBlock (client : Client) (slot folder : Json) : Action String := do
  let slot ← Slot.parse slot
  let block ← client.block (.int slot)
  let path ← store folder (Decimal.natText slot) block
  Action.note .dumping .info ("Raw block dumped to " ++ path)
  pure path

def decompile (client : Client) (signature : String) (folder : Json) : Action String := do
  let transaction ← client.transaction signature
  Action.note .reporting .info ("Parsing transaction " ++ signature ++ "...")
  let template ← Action.ofTraced (decompileTransaction transaction)
  let path ← store folder signature template.toJson
  Action.note .reporting .info ("Transaction dumped to " ++ path)
  pure path

def reportBlock (client : Client) (slot folder : Json) : Action String := do
  let slot ← Slot.parse slot
  let block ← client.block (.int slot)
  let number := Decimal.natText slot
  Action.note .reporting .info ("Parsing block " ++ number ++ "...")
  let report ← Action.ofTraced (Report.ofBlock block (.int slot))
  let path ← store folder number report
  Action.note .reporting .info ("Parsed block saved to " ++ path)
  pure path

end TxTemplate.Job
