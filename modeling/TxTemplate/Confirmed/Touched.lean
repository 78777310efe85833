import TxTemplate.Confirmed.Roster

set_option autoImplicit false

/-! The addresses that a confirmed transaction touched: its keys, those from lookup tables, and the
mints and owners of its token balances. -/

namespace TxTemplate.Touched

def ofKey : Json → Json
  | .obj fields => (fields.lookup "pubkey").getD .null
  | key => key

def joined (first second : Json) : Except Fault (List Json) :=
  match first, second with
  | .arr items, .arr more => .ok (items ++ more)
  | .str _, .str _ => .error (.shape .noFields)
  | _, _ => .error (.shape .wrongKind)

def ofBalance (balance : Json) : Except Fault (List Json) := do
  let mint ← balance.fieldOrNull "mint"
  let owner ← balance.fieldOrNull "owner"
  pure [mint, owner]

def values (transaction : Json) : Except Fault (List Json) := do
  match ← messageOf? transaction with
  | none => throw (.job .notJsonEncoded)
  | some message =>
    let keys ← ((message.lookup "accountKeys").getD (.arr [])).elements
    let record ← recordOf transaction
    let loaded := (← record.fieldOrNull "loadedAddresses").orElse (.obj [])
    let writable ← ((← loaded.field? "writable").getD (.arr [])).elements
    let readonly ← ((← loaded.field? "readonly").getD (.arr [])).elements
    let earlier := (← record.fieldOrNull "preTokenBalances").orElse (.arr [])
    let later := (← record.fieldOrNull "postTokenBalances").orElse (.arr [])
    let balances ← joined earlier later
    let parties ← balances.mapM ofBalance
    pure (keys.map ofKey ++ writable ++ readonly ++ parties.flatten)

def text? : Json → Option String
  | .str text => if text.isEmpty then none else some text
  | _ => none

def sorted (texts : List String) : List String := texts.eraseDups.mergeSort fun a b => a ≤ b

def addresses (transaction : Json) : Except Fault (List String) := do
  let values ← values transaction
  pure (sorted (values.filterMap text?))

end TxTemplate.Touched
