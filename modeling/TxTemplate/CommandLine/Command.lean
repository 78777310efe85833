import TxTemplate.CommandLine.Arguments
import TxTemplate.Job.Balance
import TxTemplate.Job.Dump
import TxTemplate.Job.Reformat
import TxTemplate.Settings.Basic

set_option autoImplicit false

/-! Commands: each names a job and what the job works on. An argument behind the first may be given
as an empty list, which is none here; its job finds out. Commands that store what the main ledger
holds read it from its own endpoint; all others use the endpoint that transactions go to. -/

namespace TxTemplate

inductive Command where
  | execute (template : String) (params : List String)
  | balance (address : String)
  | airdrop (address amount : String)
  | transfer (source : String) (destination amount keypair : Option String)
  | createAssociated (owner : String) (mint keypair : Option String)
  | closeAssociated (owner : String) (mint keypair : Option String)
  | tokenBalance (owner : String) (mint : Option String)
  | dumpAccount (address : String) (folder : Option String)
  | dumpTouched (signature : String) (folder : Option String)
  | dumpNeeded (template : String) (folder : Option String) (params : List String)
  | dumpTransaction (signature : String) (folder : Option String)
  | dumpBlock (slot : String) (folder : Option String)
  | decompile (signature : String) (folder : Option String)
  | reportBlock (slot : String) (folder : Option String)
  | reformat (template : String) (schema program : Option String)
  deriving DecidableEq, Repr

namespace Command

def word (arguments : Fields) (key : String) : Except Fault String :=
  match arguments.lookup key with
  | some (.str text) => .ok text
  | _ => .error (.shape .wrongKind)

def laterWord (arguments : Fields) (key : String) : Option String :=
  match arguments.lookup key with
  | some (.str text) => some text
  | _ => none

def folder (arguments : Fields) : Option String :=
  match arguments.lookup "output_path" with
  | some (.str text) => if text.isEmpty then none else some text
  | _ => none

def params (arguments : Fields) : List String :=
  match arguments.lookup "params" with
  | some (.arr items) => items.map Json.display
  | _ => []

def ofInvocation (invocation : CommandLine.Invocation) : Except Fault Command := do
  let arguments := invocation.arguments
  let word := word arguments
  let later := laterWord arguments
  let folder := folder arguments
  match invocation.command with
  | "exec-tx" => pure (.execute (← word "tx_json") (params arguments))
  | "balance" => pure (.balance (← word "pubkey"))
  | "airdrop" => pure (.airdrop (← word "pubkey") (← word "amount_sol"))
  | "send-sol" =>
    pure (.transfer (← word "from_pubkey") (later "to_pubkey") (later "amount_lamports")
      (later "signer_keypair"))
  | "create-ata" =>
    pure (.createAssociated (← word "owner") (later "mint") (later "signer_keypair"))
  | "close-ata" =>
    pure (.closeAssociated (← word "owner") (later "mint") (later "signer_keypair"))
  | "token-balance" => pure (.tokenBalance (← word "owner") (later "mint"))
  | "dump" => pure (.dumpAccount (← word "pubkey") folder)
  | "dump-from-tx" => pure (.dumpTouched (← word "signature") folder)
  | "dump-for-tx" => pure (.dumpNeeded (← word "tx_json") folder (params arguments))
  | "dump-tx" => pure (.dumpTransaction (← word "signature") folder)
  | "dump-block" => pure (.dumpBlock (← word "slot") folder)
  | "parse-tx" => pure (.decompile (← word "signature") folder)
  | "parse-block" => pure (.reportBlock (← word "slot") folder)
  | "set-data-format" =>
    pure (.reformat (← word "tx_json") (later "format_json") (later "program_id"))
  | _ => throw (.shape .wrongKind)

def readsMain : Command → Bool
  | .dumpAccount _ _ | .dumpTouched _ _ | .dumpNeeded _ _ _ | .dumpTransaction _ _ | .dumpBlock _ _
  | .decompile _ _ | .reportBlock _ _ => true
  | _ => false

def endpoint (settings : Settings) (command : Command) : String :=
  if command.readsMain then settings.mainEndpoint else settings.endpoint

def folderOr (settings : Settings) (given : Option String) : Json :=
  match given with
  | some path => .str path
  | none => settings.folder

def argument : Option String → Json
  | some text => .str text
  | none => .arr []

def lamports (text : String) : Except Fault Int :=
  let digits := Amount.withoutLines text.toList
  match Decimal.read digits with
  | .ok n => .ok n
  | .error flaw => .error (.numeral (String.ofList digits) flaw)

def lamportsGiven : Option String → Except Fault Int
  | some text => lamports text
  | none => .error (.shape .noFields)

def performWith (settings : Settings) (client : Client) (command : Command) : Action Unit :=
  match command with
  | .execute template params => discard (Job.executeFile client template params)
  | .balance address => discard (Job.balance client address)
  | .airdrop address amount => do
    let lamports ← Amount.parse amount
    discard (Job.airdrop client address lamports)
  | .transfer source destination amount keypair => do
    let lamports ← lamportsGiven amount
    discard (Job.transfer client source (argument destination) lamports (argument keypair))
  | .createAssociated owner mint keypair =>
    discard (Job.createAssociated client owner (argument mint) (argument keypair))
  | .closeAssociated owner mint keypair =>
    discard (Job.closeAssociated client owner (argument mint) (argument keypair))
  | .tokenBalance owner mint => discard (Job.tokenBalance client owner (argument mint))
  | .dumpAccount address folder =>
    discard (Job.dumpAccount client address (folderOr settings folder))
  | .dumpTouched signature folder =>
    discard (Job.dumpTouched client signature (folderOr settings folder))
  | .dumpNeeded template folder params =>
    Job.dumpNeeded client template (folderOr settings folder) params
  | .dumpTransaction signature folder =>
    discard (Job.dumpTransaction client signature (folderOr settings folder))
  | .dumpBlock slot folder => discard (Job.dumpBlock client (.str slot) (folderOr settings folder))
  | .decompile signature folder =>
    discard (Job.decompile client signature (folderOr settings folder))
  | .reportBlock slot folder =>
    discard (Job.reportBlock client (.str slot) (folderOr settings folder))
  | .reformat _ _ _ => pure ()

/-- Carry out a command. Reformatting needs no node; for all else a client is made, and its
connection is closed in the end. -/
def perform (settings : Settings) (command : Command) : Action Unit :=
  match command with
  | .reformat template schema program => Reformat.run Reformat.whole template schema program
  | other => do
    let client ← Client.make (other.endpoint settings) settings.commitment settings.retries
    Client.closing (performWith settings client other)

end Command

end TxTemplate
