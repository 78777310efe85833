import TxTemplate.Proofs.CommandLine.Arguments
import TxTemplate.Proofs.CommandLine.Confirmation
import TxTemplate.Proofs.Job.Reach

set_option autoImplicit false

/-! The endpoint that a run reaches. A command that reads the main ledger makes no calls but reads,
at the endpoint of that ledger; all others keep to the endpoint that transactions go to. So a run
that submits anything has no call at the main ledger. -/

namespace TxTemplate

open Session TxTemplate.Action Outcome

namespace Call

/-- Calls that submit something or wait for it. -/
def Submits : Call → Prop
  | .send _ _ _ | .airdrop _ _ | .confirm _ _ => True
  | _ => False

/-- Where a call goes that names an endpoint: connections and requests for documents. -/
def endpoint? : Call → Option String
  | .connect endpoint _ | .post endpoint _ => some endpoint
  | _ => none

variable {endpoint place : String} {call : Call}

theorem ReadsAt.not_submits (reads : ReadsAt endpoint call) : ¬ call.Submits := by
  cases reads <;> exact id

theorem MadeAt.endpoint_eq (made : MadeAt endpoint call) (goes : call.endpoint? = some place) :
    place = endpoint := by
  cases made with
  | read reads => cases reads <;> cases goes <;> rfl
  | _ => cases goes

end Call

namespace Command

def readingMain : List String :=
  ["dump", "dump-from-tx", "dump-for-tx", "dump-tx", "dump-block", "parse-tx", "parse-block"]

variable {invocation : CommandLine.Invocation} {command : Command}

theorem readsMain_iff_of_ofInvocation (named : ofInvocation invocation = .ok command) :
    command.readsMain = true ↔ invocation.command ∈ readingMain := by
  unfold ofInvocation at named
  dsimp only at named
  split at named
  case h_16 => cases named
  case h_3 name =>
      obtain ⟨address, -, rest⟩ := bind_eq_ok.mp named
      obtain ⟨amount, -, same⟩ := bind_eq_ok.mp rest
      cases same
      simp [name, readsMain, readingMain]
  all_goals
    rename_i name
    obtain ⟨first, -, same⟩ := bind_eq_ok.mp named
    cases same
    simp [name, readsMain, readingMain]

theorem reformat_of_ofInvocation (name : invocation.command = "set-data-format")
    (named : ofInvocation invocation = .ok command) :
    ∃ template schema program, command = .reformat template schema program := by
  obtain ⟨given, config, arguments⟩ := invocation
  subst name
  obtain ⟨template, -, same⟩ := bind_eq_ok.mp named
  cases same
  exact ⟨_, _, _, rfl⟩

theorem reaches_performWith_of_readsMain (settings : Settings) (client : Client)
    (reads : command.readsMain = true) :
    Follows (Reaches (Call.ReadsAt client.endpoint)) (performWith settings client command) := by
  cases command with
  | dumpAccount address folder => exact (Job.reaches_dumpAccount client address _).discard
  | dumpTouched signature folder => exact (Job.reaches_dumpTouched client signature _).discard
  | dumpNeeded template folder params => exact Job.reaches_dumpNeeded client template _ params
  | dumpTransaction signature folder =>
      exact (Job.reaches_dumpTransaction client signature _).discard
  | dumpBlock slot folder => exact (Job.reaches_dumpBlock client _ _).discard
  | decompile signature folder => exact (Job.reaches_decompile client signature _).discard
  | reportBlock slot folder => exact (Job.reaches_reportBlock client _ _).discard
  | _ => cases reads

theorem reaches_performWith (settings : Settings) (client : Client) (command : Command) :
    Follows (Reaches (Call.MadeAt client.endpoint)) (performWith settings client command) := by
  by_cases reads : command.readsMain = true
  · exact (reaches_performWith_of_readsMain settings client reads).wider fun _ => .read
  · cases command with
    | execute template params => exact (Job.reaches_executeFile client template params).discard
    | balance address => exact (Job.reaches_balance client address).discard
    | airdrop address amount =>
        exact (follows_liftM _).bind fun lamports =>
          (Job.reaches_airdrop client address lamports).discard
    | transfer source destination amount keypair =>
        exact (follows_liftM _).bind fun lamports =>
          (Job.reaches_transfer client source _ lamports _).discard
    | createAssociated owner mint keypair =>
        exact (Job.reaches_executeInstruction client _ _).discard
    | closeAssociated owner mint keypair =>
        exact (Job.reaches_executeInstruction client _ _).discard
    | tokenBalance owner mint => exact (Job.reaches_tokenBalance client owner _).discard
    | reformat template schema program => exact follows_pure _
    | _ => exact absurd rfl reads

/-- What a command calls with settings. Reformatting calls nothing. -/
inductive Calls (settings : Settings) (command : Command) (call : Call) : Prop
  | reads (main : command.readsMain = true) (reads : call.ReadsAt settings.mainEndpoint)
  | makes (other : command.readsMain = false) (client : ∀ template schema program,
      command ≠ .reformat template schema program) (made : call.MadeAt settings.endpoint)

theorem endpoint_of_make {endpoint commitment : String} {retries : Int} {client : Client}
    (made : Client.make endpoint commitment retries = .ok client) : client.endpoint = endpoint := by
  unfold Client.make at made
  split at made
  · cases made
  · cases made
    rfl

theorem reaches_perform (settings : Settings) (command : Command) :
    Follows (Reaches (command.Calls settings)) (command.perform settings) := by
  have opened (called : ∀ template schema program, command ≠ .reformat template schema program) :
      Follows (Reaches (command.Calls settings)) (do
        let client ← Client.make (command.endpoint settings) settings.commitment settings.retries
        Client.closing (performWith settings client command)) := by
    cases made : Client.make (command.endpoint settings) settings.commitment settings.retries with
    | error fault => exact follows_throw fault
    | ok client =>
        have chosen := endpoint_of_make made
        show Follows _ (Client.closing (performWith settings client command))
        cases reads : command.readsMain with
        | true =>
            rw [endpoint, if_pos reads] at chosen
            refine (Client.reaches_closing .close
              (reaches_performWith_of_readsMain settings client reads)).wider ?_
            rw [chosen]
            exact fun _ => .reads reads
        | false =>
            rw [endpoint, if_neg (by rw [reads]; exact Bool.false_ne_true)] at chosen
            refine (Client.reaches_closing (.read .close)
              (reaches_performWith settings client command)).wider ?_
            rw [chosen]
            exact fun _ => .makes reads called
  cases command with
  | reformat template schema program => exact Job.reaches_reformat _ template schema program
  | _ => exact opened fun _ _ _ => nofun

end Command

namespace CommandLine

variable {allowed : Call → Prop}

theorem reaches_startLog (file : Json) : Follows (Reaches allowed) (startLog file) := by
  unfold startLog
  split
  · split
    · exact follows_files.bind fun _ => (follows_liftM _).bind fun opened =>
        reaches_modify (fun _ => rfl) fun _ => rfl
    · exact follows_throw _
  · exact follows_pure _

theorem reaches_runWith {settings : Settings} {invocation : Invocation}
    (reaches : Follows (Reaches allowed) (perform settings invocation)) (session : Session) :
    session.Reaches allowed ((runWith settings invocation).run session).2 := by
  have start : session.Reaches allowed
      ((startLog settings.logFile).on { session with threshold := settings.level }).2 :=
    trans_of (Reaches allowed) (reaches_of_same rfl rfl) (reaches_startLog settings.logFile _)
  rw [run_runWith]
  rcases opened : (startLog settings.logFile).on { session with threshold := settings.level } with
    ⟨outcome, started⟩
  rw [opened] at start
  cases outcome with
  | error fault => exact start
  | ok _ =>
      have performed := trans_of (Reaches allowed) start (reaches started)
      dsimp only
      rcases ended : (perform settings invocation).on started with ⟨outcome, after⟩
      rw [ended] at performed
      cases outcome with
      | ok _ => exact performed
      | error fault =>
          dsimp only
          split
          · exact trans_of (Reaches allowed) performed (reaches_record after _)
          · exact performed

/-- What a run reaches: nothing without a command line that is understood and settings that load,
and then what the command may call. -/
theorem run_reaches (texts : List String) (session : Session) :
    session.Reaches (fun call => ∃ invocation settings command, parse texts = .ok invocation ∧
      Settings.loadWith session.readers session.directory session.environment invocation.config =
        .ok settings ∧
      Command.ofInvocation invocation = .ok command ∧ command.Calls settings call)
      ((run texts).run session).2 := by
  cases accepted : parse texts with
  | error refusal =>
      rw [run, accepted]
      exact reaches_of_same rfl rfl
  | ok invocation =>
      obtain ⟨command, named⟩ := exists_ofInvocation accepted
      rw [run_of_parse accepted]
      cases loaded : Settings.loadWith session.readers session.directory session.environment
        invocation.config with
      | error fault =>
          dsimp only
          split
          · exact reaches_record session _
          · exact refl_of (Reaches _) session
      | ok settings =>
          refine reaches_runWith ?_ session
          rw [perform_of_ofInvocation settings named]
          exact (Command.reaches_perform settings command).wider fun call calls =>
            ⟨invocation, settings, command, rfl, loaded, named, calls⟩

def callsOf (readers : Readers) (directory : Directory) (environment : Environment) (node : Node)
    (texts : List String) : List Call :=
  ((run texts).run { Session.start directory environment node with readers }).2.calls

/-- No run submits anything to the main ledger. Its calls follow one another over connections that
it opens. Where a transaction or an airdrop goes out, or is waited for, every connection and every
request of the run goes to the endpoint that the settings name for transactions. A command that
reads the main ledger makes no calls but reads, all at its endpoint, and reformatting makes none. -/
theorem run_submits_to_endpoint (readers : Readers) (directory : Directory)
    (environment : Environment) (node : Node) (texts : List String) :
    (∃ connected, Call.connectionAfter? (callsOf readers directory environment node texts) false =
      some connected) ∧
    ((∃ call ∈ callsOf readers directory environment node texts, call.Submits) →
      ∃ invocation settings, parse texts = .ok invocation ∧
        Settings.loadWith readers directory environment invocation.config = .ok settings ∧
        ∀ call ∈ callsOf readers directory environment node texts,
          ∀ place, call.endpoint? = some place →
          place = settings.endpoint) ∧
    ∀ invocation, parse texts = .ok invocation →
      (invocation.command ∈ Command.readingMain →
        ∀ call ∈ callsOf readers directory environment node texts, ∃ settings,
          Settings.loadWith readers directory environment invocation.config = .ok settings ∧
            call.ReadsAt settings.mainEndpoint) ∧
      (invocation.command = "set-data-format" →
        callsOf readers directory environment node texts = []) := by
  obtain ⟨made, added, each, linked⟩ := run_reaches texts
    { Session.start directory environment node with readers }
  obtain rfl : made = callsOf readers directory environment node texts := added.symm
  refine ⟨⟨_, linked⟩, ?_, fun invocation accepted =>
    ⟨fun reading call member => ?_, fun name => ?_⟩⟩
  -- A command reads from the main endpoint or calls its own; that one call submits rules out the
  -- first.
  · rintro ⟨submitting, member, submits⟩
    obtain ⟨invocation, settings, command, accepted, loaded, named, calls⟩ := each submitting member
    refine ⟨invocation, settings, accepted, loaded, fun call member place goes => ?_⟩
    obtain ⟨other, others, same, again, reloaded, renamed, calls'⟩ := each call member
    cases accepted.symm.trans again
    cases loaded.symm.trans reloaded
    cases named.symm.trans renamed
    cases calls with
    | reads main reads => exact absurd submits reads.not_submits
    | makes other client _ =>
        cases calls' with
        | reads main _ => exact absurd main (by rw [other]; exact Bool.false_ne_true)
        | makes _ _ made => exact made.endpoint_eq goes
  · obtain ⟨other, settings, command, again, loaded, named, calls⟩ := each call member
    cases accepted.symm.trans again
    cases calls with
    | reads main reads => exact ⟨settings, loaded, reads⟩
    | makes other client made =>
        have main := (Command.readsMain_iff_of_ofInvocation named).mpr reading
        exact absurd main (by rw [other]; exact Bool.false_ne_true)
  · refine List.eq_nil_iff_forall_not_mem.mpr fun call member => ?_
    obtain ⟨other, settings, command, again, loaded, named, calls⟩ := each call member
    cases accepted.symm.trans again
    obtain ⟨template, schema, program, rfl⟩ := Command.reformat_of_ofInvocation name named
    cases calls with
    | reads main reads => cases main
    | makes other client made => exact client template schema program rfl

def dumpLine : List String := ["dump", "11111111111111111111111111111111"]

def reformatLine : List String := ["set-data-format", "template.json", "schema.json", "program"]

theorem endpoints_of_load_empty {settings : Settings}
    (loaded : Settings.loadWith .plain .empty [] none = .ok settings) :
    settings.endpoint = "http://127.0.0.1:8899" ∧
      settings.mainEndpoint = "http://api.mainnet-beta.solana.com" := by
  have found : (Settings.loadWith .plain .empty [] none).toOption.map
      (fun settings => (settings.endpoint, settings.mainEndpoint)) =
      some ("http://127.0.0.1:8899", "http://api.mainnet-beta.solana.com") := by decide +kernel
  rw [loaded] at found
  exact Prod.mk.inj (Option.some.inj found)

/-- A node that takes every transaction and knows of none. -/
def takingNode : Node := { Node.silent with answers := [("getTransaction", [])] }

/-- A payment stays with the local ledger, an account is read from the main one, and reformatting
reaches neither. -/
theorem run_paymentLine_dumpLine_reformatLine :
    (∃ call ∈ callsOf .plain .empty [] takingNode paymentLine, call.Submits) ∧
    (∀ call ∈ callsOf .plain .empty [] takingNode paymentLine, ∀ place,
      call.endpoint? = some place →
      place = "http://127.0.0.1:8899") ∧
    (callsOf .plain .empty [] takingNode dumpLine).length = 3 ∧
    (∀ call ∈ callsOf .plain .empty [] takingNode dumpLine,
      call.ReadsAt "http://api.mainnet-beta.solana.com") ∧
    callsOf .plain .empty [] takingNode reformatLine = [] := by
  have known : [] ∈ [[], [tellingAnswer]] := List.mem_cons_self
  obtain ⟨commitment, waited⟩ := confirm_mem_run_paymentLine known
  have paid : ∃ call ∈ callsOf .plain .empty [] takingNode paymentLine, call.Submits :=
    ⟨_, waited, trivial⟩
  have unnamed : ∀ invocation, parse paymentLine = .ok invocation → invocation.config = none := by
    have config : (parse paymentLine).toOption.map (fun invocation => invocation.config) =
        some none := by
      decide +kernel
    intro invocation accepted
    rw [accepted] at config
    exact Option.some.inj config
  refine ⟨paid, ?_, by decide +kernel, ?_, ?_⟩
  · obtain ⟨invocation, settings, accepted, loaded, goes⟩ :=
      (run_submits_to_endpoint .plain _ _ _ paymentLine).2.1 paid
    rw [unnamed invocation accepted] at loaded
    rw [← (endpoints_of_load_empty loaded).1]
    exact goes
  · intro call member
    obtain ⟨settings, loaded, reads⟩ :=
      ((run_submits_to_endpoint .plain _ _ _ dumpLine).2.2 ⟨"dump", none, _⟩ rfl).1 (by decide)
        call member
    rw [← (endpoints_of_load_empty loaded).2]
    exact reads
  · exact ((run_submits_to_endpoint .plain _ _ _ reformatLine).2.2 ⟨"set-data-format", none, _⟩
      rfl).2 rfl

end CommandLine

end TxTemplate
