import TxTemplate.Node.Account

set_option autoImplicit false

/-! The node of the ledger, as far as its answers go: the accounts that it holds, the answers that
it gives one after the other, and the faults that come in their place. -/

namespace TxTemplate

structure Node where
  accounts : List (Address × Account)
  /-- Balances in the order in which they are asked for; after the last one, nought. -/
  balances : List Int
  tokenBalance : Option String
  blockhash : Address
  /-- What becomes of submitted transactions, each a fault or the signature of the one that was
  taken; after the last one they are all taken. -/
  sends : List (Except NodeFault String)
  /-- Answers to requests by method; after the last one there is no answer. -/
  answers : List (String × List Json)
  /-- What comes in place of answers, call by call: a fault, or nothing. After the last one nothing
  does. Submissions have their own. -/
  interruptions : List (Option NodeFault)

namespace Node

def silent : Node := ⟨[], [], none, Address.systemProgram, [], [], []⟩

def account? (node : Node) (address : Address) : Option Account := node.accounts.lookup address

def nextBalance (node : Node) : Int × Node :=
  match node.balances with
  | [] => (0, node)
  | balance :: rest => (balance, { node with balances := rest })

def signature : String := String.ofList (List.replicate 64 '1')

def nextSend (node : Node) : Except NodeFault String × Node :=
  match node.sends with
  | [] => (.ok signature, node)
  | outcome :: rest => (outcome, { node with sends := rest })

def takeAnswer (method : String) : List (String × List Json) → Json × List (String × List Json)
  | [] => (.null, [])
  | (other, answers) :: rest =>
    if other = method then
      match answers with
      | [] => (.null, (other, []) :: rest)
      | answer :: later => (answer, (other, later) :: rest)
    else
      let (answer, left) := takeAnswer method rest
      (answer, (other, answers) :: left)

def nextAnswer (node : Node) (method : String) : Json × Node :=
  let (answer, left) := takeAnswer method node.answers
  (answer, { node with answers := left })

def nextInterruption (node : Node) : Option NodeFault × Node :=
  match node.interruptions with
  | [] => (none, node)
  | interruption :: rest => (interruption, { node with interruptions := rest })

end Node

inductive Call where
  | connect (endpoint commitment : String)
  | close
  | accountInfo (address : Address)
  | balance (address : Address)
  | tokenBalance (address : Address)
  | airdrop (address : Address) (lamports : Int)
  | latestBlockhash (commitment : String)
  | send (payload : String) (skipPreflight : Bool) (commitment : String)
  | confirm (signature commitment : String)
  | pause (seconds : Nat)
  | post (endpoint : String) (body : Json)

end TxTemplate
