import TxTemplate.Address.Descriptor
import TxTemplate.Template.Basic

set_option autoImplicit false

/-! Shorthands: instructions that are named for what they do and expand to a full template. -/

namespace TxTemplate.Shorthand

def typed (kind : String) (data : Json) : Json := .obj [("type", .str kind), ("data", data)]

def record (entries : List Json) : Json := typed "object" (.arr entries)

def transferTag : Int := 2

def computeLimit (limit : Json) : InstructionTemplate where
  program := .str Address.computeBudgetProgram.text
  data := record [typed "u8" (.int 2), typed "u32" limit]
  accounts := []
  extra := []

def transferData (amount : Json) : Json :=
  record [typed "u32" (.int transferTag), typed "u64" amount]

def transfer (source destination amount : Json) : InstructionTemplate where
  program := .str Address.systemProgram.text
  data := transferData amount
  accounts := [⟨source, true, true⟩, ⟨destination, false, true⟩]
  extra := []

def createAssociated (owner mint : Json) : InstructionTemplate where
  program := .str Address.associatedTokenProgram.text
  data := .int 0
  accounts :=
    [⟨owner, true, true⟩, ⟨Descriptor.associated owner mint, false, true⟩, ⟨owner, true, true⟩,
     ⟨mint, false, false⟩, ⟨.str Address.systemProgram.text, false, false⟩,
     ⟨.str Address.tokenProgram.text, false, false⟩]
  extra := []

def closeAssociated (owner mint : Json) : InstructionTemplate where
  program := .str Address.tokenProgram.text
  data := typed "u8" (.int 9)
  accounts :=
    [⟨Descriptor.associated owner mint, false, true⟩, ⟨owner, true, true⟩, ⟨owner, true, true⟩]
  extra := []

def expand (instruction : InstructionTemplate) : Except Fault (Option InstructionTemplate) :=
  match instruction.program with
  | .str "set_cu_limit" => do
    let limit ← instruction.argument "limit"
    pure (some (computeLimit limit))
  | .str "transfer" => do
    let source ← instruction.argument "from"
    let destination ← instruction.argument "to"
    let amount ← instruction.argument "amount"
    pure (some (transfer source destination amount))
  | .str "create_ata" => do
    let owner ← instruction.argument "owner"
    let mint ← instruction.argument "mint"
    pure (some (createAssociated owner mint))
  | .str "close_ata" => do
    let owner ← instruction.argument "owner"
    let mint ← instruction.argument "mint"
    pure (some (closeAssociated owner mint))
  | _ => pure none

end TxTemplate.Shorthand
