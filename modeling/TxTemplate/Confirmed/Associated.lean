import TxTemplate.Address.Derivation
import TxTemplate.Journal

set_option autoImplicit false

/-! Derived token accounts among the accounts of a transaction: an account that two listed
addresses derive, as owner and mint, is found for the first such pair in the order of the list. -/

namespace TxTemplate

structure AssociatedAccount where
  account : String
  owner : String
  mint : String
  deriving DecidableEq, Repr

namespace AssociatedAccount

/-- The distinct texts that name addresses, in the order of the list. -/
def keys (accounts : List String) : List (String × Address) :=
  accounts.eraseDups.filterMap fun account =>
    match Address.read account with
    | .ok address => some (account, address)
    | .error _ => none

def pairs (keys : List (String × Address)) : List ((String × Address) × (String × Address)) :=
  keys.flatMap fun owner => keys.map fun mint => (owner, mint)

/-- Take the account that a pair derives, if it is listed and not yet taken. -/
def take (accounts : List String) (found : List AssociatedAccount)
    (pair : (String × Address) × (String × Address)) : Traced (List AssociatedAccount) := do
  let derived ← Address.associated pair.1.2 pair.2.2
  let account := derived.text
  if accounts.contains account && !(found.any fun known => known.account == account) then
    Traced.note .decompiling .info ("Found ATA: " ++ account ++ " for owner: " ++ pair.1.1 ++
      " and mint: " ++ pair.2.1)
    pure (found ++ [⟨account, pair.1.1, pair.2.1⟩])
  else pure found

def takeAll (accounts : List String) :
    List AssociatedAccount → List ((String × Address) × (String × Address)) →
      Traced (List AssociatedAccount)
  | found, [] => pure found
  | found, pair :: rest => do
    let found ← take accounts found pair
    takeAll accounts found rest

def find (accounts : List String) : Traced (List AssociatedAccount) := do
  Traced.note .decompiling .info "Finding ATA accounts..."
  takeAll accounts [] (pairs (keys accounts))

end AssociatedAccount

end TxTemplate
