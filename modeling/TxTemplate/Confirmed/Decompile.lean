import TxTemplate.Bytes.Hex
import TxTemplate.Confirmed.Associated
import TxTemplate.Confirmed.Native
import TxTemplate.Confirmed.Roster
import TxTemplate.Placeholder

set_option autoImplicit false

/-! Decompiling: a confirmed transaction becomes a template. Signers become placeholders, numbered
in their order; derived token accounts become descriptors; opaque data becomes hexadecimal text. -/

namespace TxTemplate

/-- Base 58 or base 64 data as hexadecimal text. What is neither, or holds no byte, stays. -/
def dataAsHex (text : String) : Except Fault String :=
  if text.isEmpty then .ok text
  else
    let written (bytes : Bytes) : String :=
      if bytes.isEmpty then text else "0x" ++ Hex.text bytes
    match Base58.decodeTrimmed text.toList with
    | some bytes => .ok (written bytes)
    | none =>
      if !Scalar.isAscii text.toList then .error .nonAscii
      else
        match Base64.decode text.toList with
        | some bytes => .ok (written bytes)
        | none => .ok text

def dataOfJson (data : Json) : Except Fault Json :=
  match data with
  | .str text => (dataAsHex text).map fun hex => .str hex
  | other => .ok other

structure Decompiler where
  roster : Roster
  signers : List String
  associated : List AssociatedAccount

namespace Decompiler

def ofRoster (roster : Roster) : Traced Decompiler := do
  let signers := roster.signers
  Traced.note .decompiling .info ("Signers accounts: " ++ String.intercalate ", " signers)
  let associated ← AssociatedAccount.find (roster.map fun entry => entry.account)
  pure ⟨roster, signers, associated⟩

/-- The account at an index; other values, and indices out of range, stand for none. -/
def accountAt? (decompiler : Decompiler) (index : Json) : Option String :=
  let entry (n : Int) : Option String :=
    if n < 0 then none else (decompiler.roster[n.toNat]?).map fun entry => entry.account
  match index with
  | .int n => entry n
  | .bool flag => entry (if flag then 1 else 0)
  | _ => none

/-- A signer as its placeholder; any other account as it is. -/
def withPlaceholder (decompiler : Decompiler) (account : String) : Json :=
  match decompiler.signers.idxOf? account with
  | some index => .str (Placeholder.text index)
  | none => .str account

def descriptor (decompiler : Decompiler) (account : String) : Json :=
  match decompiler.associated.find? fun known => known.account == account with
  | some known => Descriptor.associated (decompiler.withPlaceholder known.owner) (.str known.mint)
  | none => decompiler.withPlaceholder account

def accountTemplate (decompiler : Decompiler) (account : String) : AccountTemplate where
  address := decompiler.descriptor account
  signer := decompiler.signers.contains account
  writable := decompiler.roster.isWritable account

structure Parts where
  program : String
  accounts : List String
  data : Json

def indexedParts (decompiler : Decompiler) (instruction : Json) : Except Fault Parts := do
  let program := (decompiler.accountAt? (← instruction.member "programIdIndex")).getD ""
  let indices ← ((← instruction.field? "accounts").getD (.arr [])).elements
  let data := (← instruction.field? "data").getD (.str "")
  pure ⟨program, indices.filterMap decompiler.accountAt?, data⟩

def namedParts (instruction : Json) : Except Fault Parts := do
  let program := ((← instruction.field? "programId").getD (.str "")).display
  match ← instruction.field? "parsed" with
  | some parsed =>
    let reading ← NativeReading.read program parsed
    let data := match reading.data with
      | .null => parsedData parsed
      | known => known
    pure ⟨program, reading.accounts, data⟩
  | none =>
    let accounts ← ((← instruction.field? "accounts").getD (.arr [])).elements
    let data := (← instruction.field? "data").getD (.str "")
    pure ⟨program, accounts.map Json.display, data⟩

def parts (decompiler : Decompiler) (instruction : Json) : Except Fault Parts := do
  if ← instruction.contains "programIdIndex" then decompiler.indexedParts instruction
  else namedParts instruction

def decompile (decompiler : Decompiler) (instruction : Json) : Traced InstructionTemplate := do
  let parts ← decompiler.parts instruction
  Traced.note .decompiling .debug ("Parsing instruction for program " ++ parts.program ++ "...")
  let data ← dataOfJson parts.data
  pure ⟨.str parts.program, data, parts.accounts.map decompiler.accountTemplate, []⟩

def signerParams (decompiler : Decompiler) : List Json :=
  let count := decompiler.signers.length
  (List.range count).map fun index => .str (Placeholder.text (count + index : Nat))

end Decompiler

structure DecompiledTransaction where
  instructions : List InstructionTemplate
  signers : List Json

def DecompiledTransaction.toJson (transaction : DecompiledTransaction) : Json :=
  .obj [("instructions", .arr (transaction.instructions.map InstructionTemplate.toJson)),
    ("signers", .arr transaction.signers)]

def decompileTransaction (transaction : Json) : Traced DecompiledTransaction := do
  match ← messageOf? transaction with
  | none => throw (.job .notJsonEncoded)
  | some message =>
    let outcome ← recordOf transaction
    let roster ← Roster.ofMessage message outcome
    let decompiler ← Decompiler.ofRoster roster
    let instructions ← ((message.lookup "instructions").getD (.arr [])).elements
    let instructions ← instructions.mapM decompiler.decompile
    pure ⟨instructions, decompiler.signerParams⟩

end TxTemplate
