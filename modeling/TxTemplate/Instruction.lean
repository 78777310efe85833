import TxTemplate.Address.Basic

set_option autoImplicit false

/-! Instructions as the ledger takes them: a program, its accounts with their rights, and bytes. -/

namespace TxTemplate

/-- An account of an instruction: whether it signs and whether it may be written. -/
structure AccountMeta where
  address : Address
  signer : Bool
  writable : Bool
  deriving DecidableEq, Repr

structure Instruction where
  program : Address
  data : Bytes
  accounts : List AccountMeta
  deriving DecidableEq, Repr

end TxTemplate
