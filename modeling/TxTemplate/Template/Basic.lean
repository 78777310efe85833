import TxTemplate.Json.Access

set_option autoImplicit false

/-! Templates of transactions, as documents hold them: nothing in them is resolved yet. Fields that
an instruction does not know are kept; shorthands read their arguments from them. -/

namespace TxTemplate

structure AccountTemplate where
  address : Json
  signer : Bool
  writable : Bool

structure InstructionTemplate where
  program : Json
  data : Json
  accounts : List AccountTemplate
  extra : Fields

structure TransactionTemplate where
  instructions : List InstructionTemplate
  signers : List Json
  lookupTables : Json

namespace AccountTemplate

def ofJson (document : Json) : Except Fault AccountTemplate := do
  if !(← document.contains "pubkey") then throw (.codec (.missing .accountAddress))
  let address ← document.member "pubkey"
  let signer ← document.fieldOrNull "is_signer"
  let writable ← document.fieldOrNull "is_writable"
  pure ⟨address, signer.isTruthy, writable.isTruthy⟩

def toJson (account : AccountTemplate) : Json :=
  .obj [("pubkey", account.address), ("is_signer", .bool account.signer),
    ("is_writable", .bool account.writable)]

end AccountTemplate

namespace InstructionTemplate

def ownKeys : List String := ["program_id", "data", "accounts"]

def ofJson (document : Json) : Except Fault InstructionTemplate := do
  if !(← document.contains "program_id") then throw (.codec (.missing .program))
  match document with
  | .obj fields =>
    let extra := fields.filter fun field => !ownKeys.contains field.1
    let accounts ← (((fields.lookup "accounts").getD .null).orElse (.arr [])).elements
    let accounts ← accounts.mapM AccountTemplate.ofJson
    pure ⟨(fields.lookup "program_id").getD .null, (fields.lookup "data").getD .null,
      accounts, extra⟩
  | _ => throw (.shape .noFields)

def toJson (instruction : InstructionTemplate) : Json :=
  .obj ([("program_id", instruction.program), ("data", instruction.data),
    ("accounts", .arr (instruction.accounts.map AccountTemplate.toJson))] ++ instruction.extra)

def argument (instruction : InstructionTemplate) (key : String) : Except Fault Json :=
  match instruction.extra.lookup key with
  | some value => .ok value
  | none => .error (.codec (.missing (.inShorthand key instruction.program)))

end InstructionTemplate

namespace TransactionTemplate

def ofJson (document : Json) : Except Fault TransactionTemplate := do
  if !(← document.contains "instructions") then throw (.codec (.missing .instructions))
  let instructions ← (← document.member "instructions").elements
  let instructions ← instructions.mapM InstructionTemplate.ofJson
  let signers ← ((← document.fieldOrNull "signers").orElse (.arr [])).elements
  let lookupTables ← document.fieldOrNull "lookup_tables"
  pure ⟨instructions, signers, lookupTables⟩

def toJson (transaction : TransactionTemplate) : Json :=
  .obj [("instructions", .arr (transaction.instructions.map InstructionTemplate.toJson)),
    ("signers", .arr transaction.signers), ("lookup_tables", transaction.lookupTables)]

end TransactionTemplate

end TxTemplate
