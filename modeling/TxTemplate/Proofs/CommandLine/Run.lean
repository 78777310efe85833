import TxTemplate.Proofs.Session
import TxTemplate.CommandLine.Run

set_option autoImplicit false

/-! Runs of the program as one function of the session: the settings are loaded, the log is opened,
and the command comes to an outcome, which the ending tells. -/

namespace TxTemplate.CommandLine

open Session TxTemplate.Action

theorem perform_of_ofInvocation (settings : Settings) {invocation : Invocation} {command : Command}
    (named : Command.ofInvocation invocation = .ok command) :
    perform settings invocation = command.perform settings := by
  rw [perform, named]
  rfl

/-- A run with settings: notes are sent where the settings say, and the command is carried out. -/
theorem run_runWith (settings : Settings) (invocation : Invocation) (session : Session) :
    (runWith settings invocation).run session =
      match (startLog settings.logFile).on { session with threshold := settings.level } with
      | (.error fault, started) => (.fault fault, started)
      | (.ok (), started) =>
        match (perform settings invocation).on started with
        | (.ok (), after) => (.done, after)
        | (.error fault, after) =>
          if fault.isReported then
            (.exit 1, after.record ⟨.command, .error,
              invocation.command ++ " failed: " ++ fault.told.message⟩)
          else (.fault fault, after) := by
  rcases reached : (startLog settings.logFile).on { session with threshold := settings.level } with
    ⟨outcome, started⟩
  have first : StateT.run (ExceptT.run (startLog settings.logFile))
    { session with threshold := settings.level } =
    (outcome, started) := reached
  simp only [runWith, StateT.run_bind, StateT.run_modify, pure_bind, first]
  cases outcome with
  | error fault => rfl
  | ok _ =>
      dsimp only
      rcases reached : (perform settings invocation).on started with ⟨outcome, after⟩
      have second : StateT.run (ExceptT.run (perform settings invocation)) started =
        (outcome, after) := reached
      show StateT.run (ExceptT.run (perform settings invocation) >>= _) started = _
      rw [StateT.run_bind, second]
      cases outcome with
      | ok _ => rfl
      | error fault =>
          show StateT.run (if fault.isReported then
            report (invocation.command ++ " failed: " ++ fault.told.message)
              else pure (.fault fault)) after = _
          dsimp only
          by_cases reported : fault.isReported = true
          · rw [if_pos reported, if_pos reported]
            rfl
          · rw [if_neg reported, if_neg reported]
            rfl

theorem run_of_parse {texts : List String} {invocation : Invocation}
    (accepted : parse texts = .ok invocation) (session : Session) :
    (run texts).run session =
      match Settings.loadWith session.readers session.directory session.environment
        invocation.config with
      | .ok settings => (runWith settings invocation).run session
      | .error fault =>
        if fault.isRefusal || fault.isSystem then
          (.exit 1, session.record ⟨.command, .error, "Invalid configuration: " ++ fault.message⟩)
        else (.fault fault, session) := by
  rw [run, accepted]
  show StateT.run (match Settings.loadWith session.readers session.directory session.environment
    invocation.config with
    | .ok settings => runWith settings invocation
    | .error fault =>
      if fault.isRefusal || fault.isSystem then report ("Invalid configuration: " ++ fault.message)
      else pure (.fault fault)) session = _
  cases Settings.loadWith session.readers session.directory session.environment
    invocation.config with
  | ok settings => rfl
  | error fault =>
      dsimp only
      split <;> rfl

/-- The ending of a run whose command came to an outcome. -/
def endingOf : Except Fault Unit → Ending
  | .ok () => .done
  | .error fault => if fault.isReported then .exit 1 else .fault fault

theorem endingOf_eq_done {outcome : Except Fault Unit} :
    endingOf outcome = .done ↔ outcome = .ok () := by
  cases outcome with
  | ok _ => exact iff_of_true rfl rfl
  | error fault =>
      rw [endingOf]
      split <;> simp

theorem endingOf_eq_exit {outcome : Except Fault Unit} :
    endingOf outcome = .exit 1 ↔ ∃ fault, outcome = .error fault ∧ fault.isReported = true := by
  cases outcome with
  | ok _ => simp [endingOf]
  | error fault =>
      rw [endingOf]
      by_cases reported : fault.isReported = true
      · rw [if_pos reported]
        exact iff_of_true rfl ⟨fault, rfl, reported⟩
      · rw [if_neg reported]
        refine iff_of_false (by simp) ?_
        rintro ⟨other, same, found⟩
        cases same
        exact reported found

theorem run_runWith_of_ok {settings : Settings} {session started : Session}
    (invocation : Invocation)
    (opened : (startLog settings.logFile).on { session with threshold := settings.level } =
      (.ok (), started)) :
    ((runWith settings invocation).run session).1 =
      endingOf ((perform settings invocation).on started).1 ∧
      ((runWith settings invocation).run session).2.calls =
          ((perform settings invocation).on started).2.calls := by
  rw [run_runWith, opened]
  dsimp only
  rcases (perform settings invocation).on started with ⟨outcome, after⟩
  cases outcome with
  | ok _ => exact ⟨rfl, rfl⟩
  | error fault =>
      dsimp only
      rw [endingOf]
      split
      · exact ⟨rfl, calls_record after _⟩
      · exact ⟨rfl, rfl⟩

end TxTemplate.CommandLine
