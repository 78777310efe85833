import TxTemplate.Instruction
import TxTemplate.Keypair
import TxTemplate.Template.Shorthand
import TxTemplate.Json.Writer
import TxTemplate.TypedData.Pack

set_option autoImplicit false

/-! Compiling: a template and the caller's parameters give instructions, the keypairs that sign
them, and the lookup tables to use. -/

namespace TxTemplate

structure CompiledTransaction where
  instructions : List Instruction
  signers : List Keypair
  lookupTables : List Address

namespace InstructionTemplate

def resolveAccount (params : Params) (account : AccountTemplate) : Except Fault AccountMeta := do
  let address ← Descriptor.resolve params account.address
  pure ⟨address, account.signer, account.writable⟩

def resolveAccounts (params : Params) (accounts : List AccountTemplate) :
    Except Fault (List AccountMeta) :=
  accounts.mapM (resolveAccount params)

/-- The instruction of a full template: the program first, then the accounts, then the data. -/
def compileFull (params : Params) (template : InstructionTemplate) : Traced Instruction := do
  let program ← Descriptor.resolve params template.program
  let accounts ← resolveAccounts params template.accounts
  let data ← TypedData.pack params template.data
  pure ⟨program, data, accounts⟩

def compile (params : Params) (template : InstructionTemplate) : Traced Instruction := do
  match ← Shorthand.expand template with
  | some full => compileFull params full
  | none => compileFull params template

end InstructionTemplate

namespace TransactionTemplate

def resolveSigners (directory : Directory) (params : Params) (template : TransactionTemplate) :
    Except Fault (List Keypair) :=
  template.signers.mapM (Keypair.resolve directory params)

def resolveTables (params : Params) (template : TransactionTemplate) :
    Except Fault (List Address) := do
  let tables ← (template.lookupTables.orElse (.arr [])).elements
  tables.mapM (Descriptor.resolve params)

/-- Instructions first, then signers, then lookup tables. -/
def compile (directory : Directory) (params : Params) (template : TransactionTemplate) :
    Traced CompiledTransaction := do
  let instructions ← template.instructions.mapM (InstructionTemplate.compile params)
  let signers ← resolveSigners directory params template
  let tables ← resolveTables params template
  pure ⟨instructions, signers, tables⟩

def load (directory : Directory) (path : String) : Except Fault TransactionTemplate := do
  match ← directory.readDocument path with
  | .ok document => ofJson document
  | .error cause => throw (.document path cause)

def save (directory : Directory) (path : String) (template : TransactionTemplate) :
    Except Fault Directory :=
  directory.write path (.text (Json.write template.toJson))

def compileFile (directory : Directory) (path : String) (params : Params) :
    Traced CompiledTransaction := do
  let template ← load directory path
  template.compile directory params

end TransactionTemplate

end TxTemplate
