import TxTemplate.Address.Descriptor
import TxTemplate.Amount
import TxTemplate.Node.Client

set_option autoImplicit false

/-! Jobs that ask for balances. -/

namespace TxTemplate.Job

def balance (client : Client) (address : String) : Action Int := do
  let account ← Address.parse address
  let lamports ← client.balance account
  Action.note .submitting .info
    ("Balance of " ++ address ++ ": " ++ Amount.formatInt lamports ++ " lamports")
  pure lamports

def tokenBalance (client : Client) (owner : String) (mint : Json) : Action String := do
  let account ← Descriptor.resolve [] (Descriptor.associated (.str owner) mint)
  let amount := (← client.tokenBalance account).getD "0"
  Action.note .submitting .info
    ("Balance of " ++ owner ++ " for token " ++ mint.display ++ ": " ++ Amount.format amount ++
      " tokens")
  pure amount

end TxTemplate.Job
