import TxTemplate.Proofs.CommandLine.Arguments
import TxTemplate.Proofs.CommandLine.Run
import TxTemplate.Proofs.Fault.Job
import TxTemplate.Proofs.Fault.Settings

set_option autoImplicit false

/-! How runs end. An accepted command line ends a run as done, with the exit code of a failure, or
with a fault that is not reported; where such a fault comes from depends on the command. -/

namespace TxTemplate

open Outcome Fault TxTemplate.Action

variable {origins : List Origin}

theorem Amount.confined_parse (text : String) : Confined origins (parse text) := by
  have run (digits : List Char) : Confined origins (runValue digits) := by
    unfold runValue
    split
    · exact confined_ok _
    · split <;> simp
  unfold parse
  extract_lets
  split
  · simp
  · split
    · simp
    · split
      · simp
      · split
        · simp
        · split
          · simp
          · exact (run _).bind fun _ _ => (run _).bind fun _ _ => confined_ok _

namespace Command

/-- Where the faults come from that a command can end a run with. -/
def strays : Command → List Origin
  | .reformat _ _ _ => [.shape, .count, .depth, .derivation]
  | .balance _ | .airdrop _ _ => [.node]
  | .tokenBalance _ _ => [.derivation, .node]
  | .dumpAccount _ _ | .dumpTouched _ _ | .dumpTransaction _ _ | .dumpBlock _ _ => [.shape, .node]
  | .reportBlock _ _ => [.shape, .count, .node]
  | .decompile _ _ => [.shape, .count, .derivation, .node]
  | .dumpNeeded _ _ _ => [.shape, .count, .depth, .derivation, .node]
  | .createAssociated _ _ _ | .closeAssociated _ _ _ => [.shape, .derivation, .signing, .node]
  | .transfer _ _ _ _ => [.shape, .signing, .node]
  | .execute _ _ => [.shape, .count, .depth, .derivation, .signing, .node]

theorem rejection_not_mem_strays (command : Command) : .rejection ∉ command.strays := by
  cases command <;> simp [strays]

theorem confined_lamportsGiven (shape : .shape ∈ origins) (given : Option String) :
    Confined origins (lamportsGiven given) := by
  cases given with
  | none => exact confined_error.mpr (within_shape shape _)
  | some text =>
      unfold lamportsGiven lamports
      dsimp only
      split <;> simp

theorem confined_resolve_argument (given : Option String) :
    Confined origins (Descriptor.resolve [] (argument given)) := by
  cases given with
  | none => exact confined_error.mpr (within_codec _)
  | some text => exact Descriptor.confined_resolve_str [] text

theorem isConfined_performWith (settings : Settings) (client : Client) (command : Command) :
    IsConfined (.rejection :: command.strays) (performWith settings client command) := by
  cases command <;> rw [strays, performWith]
  case execute template params =>
    refine IsConfined.discard (IsConfined.bind ?_ fun compiled => ?_)
    · exact Job.isConfined_compileFile (by decide) (by decide) (by decide) (by decide)
        template params
    · exact Job.isConfined_execute (by decide) (by decide) (by decide) (by decide) client
        compiled none
  case balance address =>
    exact (Job.isConfined_balance (by decide) (by decide) client address).discard
  case airdrop address amount =>
    exact (isConfined_liftM (Amount.confined_parse amount)).bind fun lamports =>
      (Job.isConfined_airdrop (by decide) (by decide) client address lamports).discard
  case transfer source destination amount keypair =>
    exact (isConfined_liftM (confined_lamportsGiven (by decide) amount)).bind fun lamports =>
      (Job.isConfined_transfer (by decide) (by decide) (by decide) (by decide) client source _
        lamports _).discard
  case createAssociated owner mint keypair =>
    exact (Job.isConfined_createAssociated (by decide) (by decide) (by decide) (by decide)
      (by decide) client owner (confined_resolve_argument mint) _).discard
  case closeAssociated owner mint keypair =>
    exact (Job.isConfined_closeAssociated (by decide) (by decide) (by decide) (by decide)
      (by decide) client owner (confined_resolve_argument mint) _).discard
  case tokenBalance owner mint =>
    exact (Job.isConfined_tokenBalance (by decide) (by decide) (by decide) client owner
      (confined_resolve_argument mint)).discard
  case dumpAccount address folder =>
    exact (Job.isConfined_dumpAccount (by decide) (by decide) (by decide) client address _).discard
  case dumpTouched signature folder =>
    exact (Job.isConfined_dumpTouched (by decide) (by decide) (by decide) client signature
      _).discard
  case dumpNeeded template folder params =>
    exact Job.isConfined_dumpNeeded (by decide) (by decide) (by decide) (by decide) (by decide)
      (by decide) client template _ params
  case dumpTransaction signature folder =>
    exact (Job.isConfined_dumpTransaction (by decide) (by decide) (by decide) client signature
      _).discard
  case dumpBlock slot folder =>
    exact (Job.isConfined_dumpBlock (by decide) (by decide) (by decide) client slot _).discard
  case decompile signature folder =>
    exact (Job.isConfined_decompile (by decide) (by decide) (by decide) (by decide) (by decide)
      client signature _).discard
  case reportBlock slot folder =>
    exact (Job.isConfined_reportBlock (by decide) (by decide) (by decide) (by decide) client slot
      _).discard
  case reformat template schema program =>
    exact isConfined_pure _

theorem isConfined_perform (settings : Settings) (command : Command) :
    IsConfined (.rejection :: command.strays) (command.perform settings) := by
  have performed := fun client =>
    Client.isConfined_closing (isConfined_performWith settings client command)
  cases command with
  | reformat template schema program =>
      rw [strays]
      exact Job.isConfined_reformat (by decide) (by decide) (by decide) (by decide) template
        schema program
  | _ => exact (isConfined_liftM (Client.confined_make _ _ _)).bind performed

theorem not_isReported_iff_mem_strays {settings : Settings} {command : Command}
    {session : Session} {fault : Fault}
    (failed : ((command.perform settings).on session).1 = .error fault) :
    fault.isReported = false ↔ ∃ origin ∈ command.strays, fault.origin? = some origin := by
  rw [← Bool.not_eq_true, isReported_iff]
  have within := isConfined_perform settings command session fault failed
  constructor
  · intro unreported
    cases stray : fault.origin? with
    | none => exact absurd (.inl stray) unreported
    | some origin =>
        refine ⟨origin, ?_, rfl⟩
        refine (List.mem_cons.mp (within origin stray)).resolve_left ?_
        rintro rfl
        exact unreported (.inr stray)
  · rintro ⟨origin, member, stray⟩ (known | rejected)
    · rw [known] at stray
      cases stray
    · rw [rejected] at stray
      cases stray
      exact rejection_not_mem_strays command member

end Command

namespace CommandLine

/-- Why notes cannot be sent to the file of the settings: it cannot be opened, or its path is no
text. -/
inductive LogFails (directory : Directory) (file : Json) : Fault → Prop
  | closed {path : String} {cause : StorageFault} (given : file.isTruthy = true)
    (named : file = .str path)
      (blocked : openLog directory path = .error cause) : LogFails directory file (.storage cause)
  | wrongKind (given : file.isTruthy = true) (other : ∀ path, file ≠ .str path) :
      LogFails directory file (.shape .wrongKind)

theorem startLog_eq_error {file : Json} {session : Session} {fault : Fault} :
    ((startLog file).on session).1 = .error fault ↔ LogFails session.directory file fault := by
  unfold startLog
  by_cases given : file.isTruthy = true
  · rw [if_pos given]
    cases file with
    | str path =>
        dsimp only
        rw [on_bind_of_ok (on_files session)]
        cases opened : openLog session.directory path with
        | ok found =>
            refine iff_of_false (fun failed => by cases failed) ?_
            rintro (⟨-, named, blocked⟩ | ⟨-, other⟩)
            · cases named
              rw [opened] at blocked
              cases blocked
            · exact other path rfl
        | error cause =>
            constructor
            · intro failed
              cases failed
              exact .closed given rfl opened
            · rintro (⟨-, named, blocked⟩ | ⟨-, other⟩)
              · cases named
                rw [opened] at blocked
                cases blocked
                rfl
              · exact absurd rfl (other path)
    | _ =>
        constructor
        · intro failed
          cases failed
          exact .wrongKind given fun path named => by cases named
        · rintro (⟨-, named, -⟩ | -)
          · cases named
          · rfl
  · rw [if_neg given]
    refine iff_of_false (fun failed => by cases failed) ?_
    rintro (⟨truthy, -⟩ | ⟨truthy, -⟩) <;> exact given truthy

/-- How a run comes to a fault that is not reported: its settings cannot be read, notes cannot be
sent where they say, or its command comes to a fault from where that command lets faults come
from. -/
inductive Unreported (session : Session) (invocation : Invocation) : Fault → Prop
  | settings {fault : Fault} {origin : Origin}
      (failed : Settings.loadWith session.readers session.directory session.environment
        invocation.config = .error fault)
      (stray : fault.origin? = some origin) (member : origin ∈ [.document, .shape]) :
      Unreported session invocation fault
  | log {settings : Settings} {fault : Fault}
      (loaded : Settings.loadWith session.readers session.directory session.environment
        invocation.config = .ok settings)
      (fails : LogFails session.directory settings.logFile fault) :
        Unreported session invocation fault
  | command {settings : Settings} {started : Session} {command : Command} {fault : Fault}
    {origin : Origin}
      (loaded : Settings.loadWith session.readers session.directory session.environment
        invocation.config = .ok settings)
      (opened : (startLog settings.logFile).on { session with threshold := settings.level } =
        (.ok (), started))
      (named : Command.ofInvocation invocation = .ok command)
      (failed : ((command.perform settings).on started).1 = .error fault)
      (stray : fault.origin? = some origin) (member : origin ∈ command.strays) :
        Unreported session invocation fault

theorem endingOf_eq_fault {outcome : Except Fault Unit} {fault : Fault} :
    endingOf outcome = .fault fault ↔ outcome = .error fault ∧ fault.isReported = false := by
  cases outcome with
  | ok _ => simp [endingOf]
  | error cause =>
      rw [endingOf]
      by_cases reported : cause.isReported = true
      · rw [if_pos reported]
        refine iff_of_false (by simp) ?_
        rintro ⟨same, unreported⟩
        cases same
        rw [reported] at unreported
        cases unreported
      · rw [if_neg reported]
        constructor
        · intro same
          cases same
          exact ⟨rfl, Bool.not_eq_true _ ▸ reported⟩
        · rintro ⟨same, -⟩
          cases same
          rfl

section Accepted

variable {texts : List String} {invocation : Invocation}

/-- A run of an accepted command line is done, ends with the exit code of a failure, or ends with a
fault. -/
theorem run_ends (accepted : parse texts = .ok invocation) (session : Session) :
    ((run texts).run session).1 = .done ∨ ((run texts).run session).1 = .exit 1 ∨
      ∃ fault, ((run texts).run session).1 = .fault fault := by
  rw [run_of_parse accepted]
  cases Settings.loadWith session.readers session.directory session.environment
    invocation.config with
  | error fault =>
      dsimp only
      split
      · exact .inr (.inl rfl)
      · exact .inr (.inr ⟨fault, rfl⟩)
  | ok config =>
      dsimp only
      rcases opened : (startLog config.logFile).on
        { session with threshold := config.level } with ⟨outcome, started⟩
      cases outcome with
      | error fault =>
          rw [run_runWith, opened]
          exact .inr (.inr ⟨fault, rfl⟩)
      | ok _ =>
          rw [(run_runWith_of_ok invocation opened).1]
          cases ((perform config invocation).on started).1 with
          | ok _ => exact .inl rfl
          | error fault =>
              rw [endingOf]
              split
              · exact .inr (.inl rfl)
              · exact .inr (.inr ⟨fault, rfl⟩)

theorem unreported_iff_of_load_error {session : Session} {cause fault : Fault}
    (blocked : Settings.loadWith session.readers session.directory session.environment
      invocation.config = .error cause) :
    Unreported session invocation fault ↔ cause = fault ∧ cause.origin? ≠ none := by
  constructor
  · rintro (⟨failed, stray, -⟩ | ⟨loaded, -⟩ | ⟨loaded, -⟩)
    · cases blocked.symm.trans failed
      exact ⟨rfl, fun absent => by cases absent.symm.trans stray⟩
    · cases blocked.symm.trans loaded
    · cases blocked.symm.trans loaded
  · rintro ⟨rfl, stray⟩
    obtain ⟨origin, found⟩ := Option.ne_none_iff_exists'.mp stray
    exact .settings blocked found
      (Settings.confined_load _ (by decide) (by decide) _ _ _ cause blocked origin found)

section Loaded

variable {session started : Session} {config : Settings} {fault : Fault}
  (loaded : Settings.loadWith session.readers session.directory session.environment
    invocation.config = .ok config)

include loaded

theorem unreported_iff_of_log_error {cause : Fault}
    (blocked : (startLog config.logFile).on { session with threshold := config.level } =
      (.error cause, started)) :
    Unreported session invocation fault ↔ cause = fault := by
  have fails : ((startLog config.logFile).on { session with threshold := config.level }).1 =
    .error fault ↔
      LogFails session.directory config.logFile fault := startLog_eq_error
  rw [blocked] at fails
  constructor
  · rintro (⟨failed, -, -⟩ | ⟨again, closed⟩ | ⟨again, opened, -⟩)
    · cases loaded.symm.trans failed
    · cases loaded.symm.trans again
      exact Except.error.inj (fails.mpr closed)
    · cases loaded.symm.trans again
      cases blocked.symm.trans opened
  · rintro rfl
    exact .log loaded (fails.mp rfl)

theorem unreported_iff_of_log_ok {command : Command}
    (named : Command.ofInvocation invocation = .ok command)
    (opened : (startLog config.logFile).on { session with threshold := config.level } =
      (.ok (), started)) :
    Unreported session invocation fault ↔
      ((command.perform config).on started).1 = .error fault ∧ fault.isReported = false := by
  have fails : ((startLog config.logFile).on { session with threshold := config.level }).1 =
    .error fault ↔
      LogFails session.directory config.logFile fault := startLog_eq_error
  rw [opened] at fails
  constructor
  · rintro (⟨blocked, -, -⟩ | ⟨again, closed⟩ | ⟨again, begun, called, failed, stray, member⟩)
    · cases loaded.symm.trans blocked
    · cases loaded.symm.trans again
      cases fails.mpr closed
    · cases loaded.symm.trans again
      cases opened.symm.trans begun
      cases named.symm.trans called
      exact ⟨failed, (Command.not_isReported_iff_mem_strays failed).mpr ⟨_, member, stray⟩⟩
  · rintro ⟨failed, unreported⟩
    obtain ⟨origin, member, stray⟩ := (Command.not_isReported_iff_mem_strays failed).mp unreported
    exact .command loaded opened named failed stray member

end Loaded

theorem run_eq_fault_iff (accepted : parse texts = .ok invocation) (session : Session)
    (fault : Fault) :
    ((run texts).run session).1 = .fault fault ↔ Unreported session invocation fault := by
  rw [run_of_parse accepted]
  cases loaded : Settings.loadWith session.readers session.directory session.environment
    invocation.config with
  | error cause =>
      rw [unreported_iff_of_load_error loaded, ne_eq, origin?_eq_none_iff]
      dsimp only
      by_cases known : (cause.isRefusal || cause.isSystem) = true
      · rw [if_pos known]
        exact iff_of_false (by simp) fun reason => reason.2 known
      · rw [if_neg known, Ending.fault.injEq]
        exact (and_iff_left known).symm
  | ok config =>
      dsimp only
      rcases opened : (startLog config.logFile).on
        { session with threshold := config.level } with ⟨outcome, started⟩
      cases outcome with
      | error cause =>
          rw [run_runWith, opened, unreported_iff_of_log_error loaded opened, Ending.fault.injEq]
      | ok _ =>
          obtain ⟨command, named⟩ := exists_ofInvocation accepted
          rw [(run_runWith_of_ok invocation opened).1, endingOf_eq_fault,
            perform_of_ofInvocation config named, unreported_iff_of_log_ok loaded named opened]

end Accepted

def folderLogText : String := "\x7b\"log_file\": \".\"\x7d"

def folderLogSession : Session :=
  .start ⟨[(["settings.json"], .file (.text folderLogText))]⟩ [] Node.silent

def balanceLine : List String :=
  ["--config", "settings.json", "balance", "11111111111111111111111111111111"]

def balanceInvocation : Invocation :=
  ⟨"balance", some "settings.json", [("pubkey", .str "11111111111111111111111111111111")]⟩

theorem load_folderLogSession : ∃ settings,
    Settings.loadWith .plain folderLogSession.directory folderLogSession.environment
        (some "settings.json") = .ok settings ∧
      settings.logFile = .str "." := by
  have found : (Settings.loadWith .plain folderLogSession.directory folderLogSession.environment
      (some "settings.json")).toOption.map (fun settings => settings.logFile.isText ".") =
          some true := by
    decide +kernel
  obtain ⟨settings, loaded, named⟩ := Option.map_eq_some_iff.mp found
  refine ⟨settings, toOption_eq_some.mp loaded, ?_⟩
  cases file : settings.logFile with
  | str path =>
      rw [file] at named
      exact congrArg Json.str (of_decide_eq_true named)
  | null | bool _ | int _ | float _ | arr _ | obj _ =>
      rw [file] at named
      cases named

theorem logFails_folderLog :
    LogFails folderLogSession.directory (.str ".") (.storage (.directory ".")) :=
  .closed rfl rfl rfl

end CommandLine

end TxTemplate
