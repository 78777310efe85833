import TxTemplate.Json.Access
import TxTemplate.Session

set_option autoImplicit false

/-! The client of a node. The connection is opened by the first call that needs one, and any call
may fail. Submitting a transaction is tried again after a pause that doubles every time; requests
for documents go out on their own and their answers are checked for the node's own faults. -/

namespace TxTemplate

structure Client where
  endpoint : String
  commitment : String
  retries : Nat
  deriving DecidableEq, Repr

namespace Client

def make (endpoint commitment : String) (retries : Int) : Except Fault Client :=
  if retries < 1 then .error (.job .retries) else .ok ⟨endpoint, commitment, retries.toNat⟩

def connect (client : Client) : Action Unit := do
  let session ← get
  if !session.connected then
    Action.call (.connect client.endpoint client.commitment)
    modify fun session => { session with connected := true }

def close : Action Unit := do
  let session ← get
  if session.connected then
    Action.call .close
    modify fun session => { session with connected := false }

def closing {α : Type} (work : Action α) : Action α :=
  ExceptT.mk do
    let outcome ← work.run
    discard close.run
    pure outcome

/-- Wait for the answer to a call; a fault may come in its place. -/
def await : Action Unit := do
  let session ← get
  let (interruption, node) := session.node.nextInterruption
  set { session with node := node }
  match interruption with
  | none => pure ()
  | some fault => throw (.node fault)

def reach (client : Client) (call : Call) : Action Unit := do
  client.connect
  Action.call call
  await

def accountInfo (client : Client) (address : Address) : Action Account := do
  client.reach (.accountInfo address)
  let session ← get
  match session.node.account? address with
  | some account => pure account
  | none => throw (.answer (.accountAbsent address.text))

def balance (client : Client) (address : Address) : Action Int := do
  client.reach (.balance address)
  let session ← get
  let (balance, node) := session.node.nextBalance
  set { session with node := node }
  pure balance

def tokenBalance (client : Client) (address : Address) : Action (Option String) := do
  client.reach (.tokenBalance address)
  let session ← get
  pure session.node.tokenBalance

def airdrop (client : Client) (address : Address) (lamports : Int) : Action String := do
  client.reach (.airdrop address lamports)
  pure Node.signature

def latestBlockhash (client : Client) : Action Address := do
  client.reach (.latestBlockhash client.commitment)
  let session ← get
  pure session.node.blockhash

def lookupTable (client : Client) (address : Address) : Action LookupTable := do
  let account ← client.accountInfo address
  Action.ofExcept (LookupTable.ofAccount address account)

def submit (client : Client) (payload : String) (skipPreflight : Bool) :
    Action (Except NodeFault String) := do
  Action.call (.send payload skipPreflight client.commitment)
  let session ← get
  let (outcome, node) := session.node.nextSend
  set { session with node := node }
  pure outcome

def pauseAfter (attempt : Nat) : Nat := Nat.pow 2 attempt

def submitUpTo (client : Client) (payload : String) (skipPreflight : Bool) :
    Nat → Nat → Action String
  | _, 0 => throw (.job .notSent)
  | attempt, left + 1 => do
    match ← client.submit payload skipPreflight with
    | .ok signature => pure signature
    | .error fault =>
      if left = 0 then
        Action.note .client .error
          ("Failed to send transaction after " ++ Decimal.natText client.retries ++ " attempts")
        throw (.node fault)
      else
        let seconds := pauseAfter attempt
        Action.note .client .warning
          ("Transaction attempt " ++ Decimal.natText (attempt + 1) ++ " failed: " ++ fault.text ++
            ", retrying in " ++ Decimal.natText seconds ++ "s")
        Action.call (.pause seconds)
        submitUpTo client payload skipPreflight (attempt + 1) left

def send (client : Client) (payload : String) (skipPreflight : Bool) : Action String := do
  client.connect
  client.submitUpTo payload skipPreflight 0 client.retries

def confirm (client : Client) (signature : String) : Action Unit :=
  client.reach (.confirm signature client.commitment)

def requestBody (method : String) (params : List Json) : Json :=
  .obj [("jsonrpc", .str "2.0"), ("id", .int 1), ("method", .str method), ("params", .arr params)]

def resultOf (method : String) (answer : Json) : Except Fault Json := do
  if answer matches .null then throw (.disconnected method)
  if ← answer.contains "error" then
    let cause ← answer.member "error"
    throw (.answer (.refused method cause))
  answer.fieldOrNull "result"

/-- Request a document; it needs no connection. -/
def request (client : Client) (method : String) (params : List Json) : Action Json := do
  Action.call (.post client.endpoint (requestBody method params))
  await
  let session ← get
  let (answer, node) := session.node.nextAnswer method
  set { session with node := node }
  Action.ofExcept (resultOf method answer)

def transaction (client : Client) (signature : String) : Action Json := do
  let result ← client.request "getTransaction"
    [.str signature, .obj [("encoding", .str "jsonParsed"), ("commitment", .str client.commitment),
      ("maxSupportedTransactionVersion", .int 0)]]
  if result matches .null then throw (.answer (.transactionAbsent signature))
  pure result

def block (client : Client) (slot : Json) : Action Json := do
  let result ← client.request "getBlock"
    [slot, .obj [("encoding", .str "jsonParsed"), ("transactionDetails", .str "full"),
      ("rewards", .bool true), ("commitment", .str client.commitment),
      ("maxSupportedTransactionVersion", .int 0)]]
  if result matches .null then throw (.answer (.blockAbsent slot))
  pure result

end Client

end TxTemplate
