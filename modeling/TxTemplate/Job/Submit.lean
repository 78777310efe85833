import TxTemplate.Amount
import TxTemplate.Confirmed.Roster
import TxTemplate.Message.Wire
import TxTemplate.Node.Client
import TxTemplate.Template.Compile

set_option autoImplicit false

/-! Jobs that submit transactions: a compiled template, a transfer, an airdrop, and the token
accounts that are derived from an owner and a mint. -/

namespace TxTemplate.Job

/-- Notes on what a confirmed transaction did: its log, and the units that it used. -/
def noteOutcome (client : Client) (signature : String) : Action Unit := do
  let transaction ← client.transaction signature
  let record ← recordOf transaction
  let lines ← ((← record.fieldOrNull "logMessages").orElse (.arr [])).elements
  lines.forM fun line => Action.note .submitting .info line.display
  let units ← record.fieldOrNull "computeUnitsConsumed"
  let used := match units with
    | .null => "n/a"
    | known => known.display
  Action.note .submitting .info ("Total CUs used: " ++ used)

def payerOf (compiled : CompiledTransaction) : Option Address → Except Fault Address
  | some payer => .ok payer
  | none =>
    match compiled.signers with
    | [] => .error (.job .noSigner)
    | first :: _ => .ok first.address

def messageFor (compiled : CompiledTransaction) (payer : Address) (tables : List LookupTable)
    (blockhash : Address) : Except Fault Message :=
  if tables.isEmpty then Message.plain payer compiled.instructions blockhash
  else Message.versioned payer compiled.instructions tables blockhash

def execute (client : Client) (compiled : CompiledTransaction) (payer : Option Address) :
    Action String := do
  let payer ← payerOf compiled payer
  let tables ← compiled.lookupTables.mapM client.lookupTable
  let blockhash ← client.latestBlockhash
  let message ← messageFor compiled payer tables blockhash
  let signed ← SignedTransaction.sign compiled.signers message
  let earlier ← client.balance payer
  let signature ← client.send (Base64.text signed.wire) false
  client.confirm signature
  Action.note .submitting .info ("Transaction sent: " ++ signature)
  noteOutcome client signature
  let later ← client.balance payer
  Action.note .submitting .info
    ("Balance changed: " ++ Amount.formatInt (later - earlier) ++ " lamports")
  pure signature

def compileFile (path : String) (params : Params) : Action CompiledTransaction := do
  Action.ofTraced (TransactionTemplate.compileFile (← Action.files) path params)

def executeFile (client : Client) (path : String) (params : Params) : Action String := do
  let compiled ← compileFile path params
  execute client compiled none

def airdrop (client : Client) (address : String) (lamports : Int) : Action String := do
  let receiver ← Address.parse address
  let signature ← client.airdrop receiver lamports
  client.confirm signature
  Action.note .submitting .info
    ("Airdrop successful: " ++ Amount.formatInt lamports ++ " lamports to " ++ address)
  pure signature

def transferOf (source destination : Address) (lamports : Nat) : Instruction where
  program := Address.systemProgram
  data := LittleEndian.encode 4 2 ++ LittleEndian.encode 8 lamports
  accounts := [⟨source, true, true⟩, ⟨destination, false, true⟩]

/-- The lamports of a transfer fill a word of eight bytes. Any other number is no value for it. -/
def lamportsOf (n : Int) : Except Fault Nat :=
  if 0 ≤ n ∧ n < Nat.pow 2 64 then .ok n.toNat else .error (.shape .wrongKind)

def transfer (client : Client) (source : String) (destination : Json) (lamports : Int)
    (keypair : Json) :
    Action String := do
  let sourceAddress ← Address.parse source
  let destinationAddress ← Address.ofValue destination
  let keypair ← Keypair.resolve (← Action.files) [] keypair
  if keypair.address ≠ sourceAddress then throw (.job .signerMismatch)
  let units ← lamportsOf lamports
  let signature ← execute client ⟨[transferOf sourceAddress destinationAddress units], [keypair],
    []⟩ none
  Action.note .submitting .info
    ("Sent " ++ Amount.formatInt lamports ++ " lamports from " ++ source ++ " to " ++
      destination.display)
  pure signature

def executeInstruction (client : Client) (instruction : InstructionTemplate) (keypair : Json) :
    Action String := do
  let template : TransactionTemplate := ⟨[instruction], [keypair], .null⟩
  let compiled ← Action.ofTraced (template.compile (← Action.files) [])
  execute client compiled none

def createAssociated (client : Client) (owner : String) (mint keypair : Json) : Action String :=
  executeInstruction client (Shorthand.createAssociated (.str owner) mint) keypair

def closeAssociated (client : Client) (owner : String) (mint keypair : Json) : Action String :=
  executeInstruction client (Shorthand.closeAssociated (.str owner) mint) keypair

end TxTemplate.Job
