import Mathlib.Data.List.TakeWhile
import TxTemplate.Job.Reformat
import TxTemplate.Proofs.Logging
import TxTemplate.Proofs.Session
import TxTemplate.Proofs.Storage

set_option autoImplicit false

/-! A run of reformatting, in three parts: the template is prepared, which leaves nothing but notes,
then it is stored, then the run says so. Once it is prepared, only the dumper can stop the run. -/

namespace TxTemplate.Reformat

open Directory TxTemplate.Action TypedData

/-! ### Preparing -/

theorem exists_target {wanted : InstructionTemplate → Bool} {shown : String} {schema : Json}
    {stored changed : TransactionTemplate}
    (done : (templateWhere wanted shown schema stored).outcome = .ok changed) :
    ∃ before target after old data, stored.instructions = before ++ target :: after ∧
      (∀ other ∈ before, wanted other = false) ∧ wanted target = true ∧
      (pack [] target.data).outcome = .ok old ∧ unpack old schema 0 = .ok data ∧
      changed = { stored with instructions := before ++ { target with data := data } ::
          after } := by
  unfold templateWhere at done
  have whole := List.takeWhile_append_dropWhile (p := fun instruction => !wanted instruction)
    (l := stored.instructions)
  have first := List.find?_eq_head?_dropWhile_not wanted stored.instructions
  cases found : stored.instructions.dropWhile fun instruction => !wanted instruction with
  | nil =>
      rw [found] at done
      cases done
  | cons target after =>
      rw [found] at done whole first
      simp only [Traced.outcome_bind, reread, Traced.outcome_liftM, Traced.outcome_pure] at done
      obtain ⟨data, rereads, same⟩ := Outcome.bind_eq_ok.mp done
      obtain ⟨old, packed, read⟩ := Outcome.bind_eq_ok.mp rereads
      refine ⟨_, target, after, old, data, whole.symm, ?_, List.find?_some first, packed, read,
        (Except.ok.inj same).symm⟩
      intro other member
      have passed := List.mem_takeWhile_imp member
      exact Bool.not_eq_true' _ ▸ passed

theorem prepared_eq_ok {directory : Directory} {templatePath : String}
    {schemaPath program : Option String} {changed : TransactionTemplate} :
    (prepared directory templatePath schemaPath program).outcome = .ok changed ↔
      ∃ formatPath stored schema, schemaPath = some formatPath ∧
        TransactionTemplate.load directory templatePath = .ok stored ∧
        schemaIn directory formatPath = .ok schema ∧
        (templateWhere (namesGiven program) (shownGiven program) schema stored).outcome =
          .ok changed := by
  rw [prepared, Traced.outcome_bind, Traced.outcome_liftM, Outcome.bind_eq_ok]
  cases schemaPath with
  | none =>
      refine iff_of_false ?_ ?_
      · rintro ⟨stored, -, later⟩
        cases later
      · rintro ⟨formatPath, stored, schema, given, -⟩
        cases given
  | some formatPath =>
      simp only [Traced.outcome_bind, Traced.outcome_liftM, Outcome.bind_eq_ok]
      constructor
      · rintro ⟨stored, loaded, schema, given, made⟩
        exact ⟨formatPath, stored, schema, rfl, loaded, given, made⟩
      · rintro ⟨path, stored, schema, same, loaded, given, made⟩
        obtain rfl := Option.some.inj same
        exact ⟨stored, loaded, schema, given, made⟩

theorem locate_of_load {directory : Directory} {path : String} {stored : TransactionTemplate}
    (loaded : TransactionTemplate.load directory path = .ok stored) :
    ∃ place, directory.locate path = .ok place ∧ directory.entry? place ≠ some .folder := by
  cases read : directory.read path with
  | error fault =>
      rw [TransactionTemplate.load, readDocument, readText, read] at loaded
      cases loaded
  | ok content =>
      obtain ⟨place, located, held⟩ := Outcome.bind_eq_ok.mp read
      refine ⟨place, located, fun folder => ?_⟩
      rw [folder] at held
      cases held

/-! ### Storing -/

/-- What is dumped stays in the file, whether or not it is the whole document. -/
theorem on_store (dump : Dumper) (path : String) (template : TransactionTemplate)
    (session : Session) :
    (store dump path template).on session =
      match session.directory.write path (.text (dump template.toJson).text) with
      | .error fault => (.error fault, session)
      | .ok written =>
        match (dump template.toJson).stop with
        | none => (.ok ⟨⟩, { session with directory := written })
        | some fault => (.error fault, { session with directory := written }) := by
  obtain ⟨target, writes⟩ := exists_write session.directory path
  have emptied := writes (.text "")
  have filled := writes (.text (dump template.toJson).text)
  rw [store, on_bind, on_write, emptied, filled]
  cases target with
  | error fault => rfl
  | ok place =>
      dsimp only [Except.map]
      rw [on_bind, on_write, write_write emptied, filled]
      dsimp only [Except.map]
      cases (dump template.toJson).stop <;> rfl

section Run

variable {dump : Dumper} {templatePath : String} {schemaPath program : Option String}
variable {session after : Session}

/-- The session when the template is about to be stored: the notes of packing are taken. -/
def noted (templatePath : String) (schemaPath program : Option String) (session : Session) :
    Session :=
  (prepared session.directory templatePath schemaPath program).notes.foldl Session.record session

theorem noted_noted (templatePath : String) (schemaPath program : Option String)
    (session : Session) : Session.Noted session (noted templatePath schemaPath program session) :=
  Session.noted_foldl session _

theorem on_run (dump : Dumper) (templatePath : String) (schemaPath program : Option String)
    (session : Session) :
    (run dump templatePath schemaPath program).on session =
      match (prepared session.directory templatePath schemaPath program).outcome with
      | .error fault => (.error fault, noted templatePath schemaPath program session)
      | .ok changed =>
        ((store dump templatePath changed) >>= fun _ =>
          Action.note .reformatting .info (updated (shownGiven program))).on
            (noted templatePath schemaPath program session) := by
  rw [run, on_bind_of_ok (on_files session), on_bind, on_ofTraced, ← noted]
  cases (prepared session.directory templatePath schemaPath program).outcome <;> rfl

theorem exists_written {changed : TransactionTemplate} (logs : session.LogsToFile)
    (made : (prepared session.directory templatePath schemaPath program).outcome = .ok changed)
    (content : Content) :
    ∃ written, (noted templatePath schemaPath program session).directory.write templatePath
      content = .ok written := by
  have taken := noted_noted templatePath schemaPath program session
  obtain ⟨keeps, logsStill⟩ := taken.folders logs
  obtain ⟨_, stored, _, _, loaded, -, -⟩ := prepared_eq_ok.mp made
  obtain ⟨place, located, notFolder⟩ := locate_of_load loaded
  have fileStill : Directory.entry? (noted templatePath schemaPath program session).directory
      place ≠ some .folder := by
    by_cases logged : place ∈ session.logPlace.toList
    · exact logsStill place (taken.logPlace.trans (Option.mem_toList.mp logged))
    · rw [taken.files place logged]
      exact notFolder
  exact ⟨_, write_of_locate (locate_of_keepsFolders keeps located) fileStill content⟩

/-- Once the file of the template is written, only the dumper decides. -/
theorem on_run_of_written {changed : TransactionTemplate} {written : Directory}
    (made : (prepared session.directory templatePath schemaPath program).outcome = .ok changed)
    (saved : (noted templatePath schemaPath program session).directory.write templatePath
      (.text (dump changed.toJson).text) = .ok written) :
    (run dump templatePath schemaPath program).on session =
      match (dump changed.toJson).stop with
      | some fault =>
        (.error fault, { noted templatePath schemaPath program session with directory := written })
      | none =>
        (.ok (), Session.record
          { noted templatePath schemaPath program session with directory := written }
          ⟨.reformatting, .info, updated (shownGiven program)⟩) := by
  rw [on_run, made]
  dsimp only
  rw [on_bind, on_store, saved]
  cases (dump changed.toJson).stop <;> rfl

theorem on_run_of_unwritten {changed : TransactionTemplate} {fault : Fault}
    (made : (prepared session.directory templatePath schemaPath program).outcome = .ok changed)
    (refused : (noted templatePath schemaPath program session).directory.write templatePath
      (.text (dump changed.toJson).text) = .error fault) :
    (run dump templatePath schemaPath program).on session =
      (.error fault, noted templatePath schemaPath program session) := by
  rw [on_run, made]
  dsimp only
  rw [on_bind, on_store, refused]

/-- A run that fails leaves its files as packing left them, or was stopped while it dumped. -/
theorem after_of_error {fault : Fault}
    (ran : (run dump templatePath schemaPath program).on session = (.error fault, after)) :
    after = noted templatePath schemaPath program session ∨
      ∃ changed written,
        (prepared session.directory templatePath schemaPath program).outcome = .ok changed ∧
        (dump changed.toJson).stop = some fault ∧
        (noted templatePath schemaPath program session).directory.write templatePath
          (.text (dump changed.toJson).text) = .ok written ∧
        after = { noted templatePath schemaPath program session with directory := written } := by
  cases made : (prepared session.directory templatePath schemaPath program).outcome with
  | error other =>
      rw [on_run, made] at ran
      exact .inl (Prod.mk.inj ran).2.symm
  | ok changed =>
      cases saved : (noted templatePath schemaPath program session).directory.write templatePath
          (.text (dump changed.toJson).text) with
      | error other =>
          rw [on_run_of_unwritten made saved] at ran
          exact .inl (Prod.mk.inj ran).2.symm
      | ok written =>
          rw [on_run_of_written made saved] at ran
          cases stopped : (dump changed.toJson).stop with
          | none =>
              rw [stopped] at ran
              cases ran
          | some other =>
              rw [stopped] at ran
              obtain ⟨same, rfl⟩ := Prod.mk.inj ran
              obtain rfl := Except.error.inj same
              exact .inr ⟨changed, written, rfl, stopped, saved, rfl⟩

theorem run_eq_ok :
    (run dump templatePath schemaPath program).on session = (.ok (), after) ↔
      ∃ changed written,
        (prepared session.directory templatePath schemaPath program).outcome = .ok changed ∧
        (dump changed.toJson).stop = none ∧
        (noted templatePath schemaPath program session).directory.write templatePath
          (.text (dump changed.toJson).text) = .ok written ∧
        after = Session.record
          { noted templatePath schemaPath program session with directory := written }
          ⟨.reformatting, .info, updated (shownGiven program)⟩ := by
  constructor
  · intro ran
    cases made : (prepared session.directory templatePath schemaPath program).outcome with
    | error fault =>
        rw [on_run, made] at ran
        cases ran
    | ok changed =>
        cases saved : (noted templatePath schemaPath program session).directory.write templatePath
            (.text (dump changed.toJson).text) with
        | error fault =>
            rw [on_run_of_unwritten made saved] at ran
            cases ran
        | ok written =>
            rw [on_run_of_written made saved] at ran
            cases stopped : (dump changed.toJson).stop with
            | some fault =>
                rw [stopped] at ran
                cases ran
            | none =>
                rw [stopped] at ran
                exact ⟨changed, written, rfl, stopped, saved, (Prod.mk.inj ran).2.symm⟩
  · rintro ⟨changed, written, made, stopped, saved, rfl⟩
    rw [on_run_of_written made saved, stopped]

theorem exists_run {changed : TransactionTemplate} (logs : session.LogsToFile)
    (made : (prepared session.directory templatePath schemaPath program).outcome = .ok changed)
    (dumped : (dump changed.toJson).stop = none) :
    ∃ after, (run dump templatePath schemaPath program).on session = (.ok (), after) := by
  obtain ⟨written, saved⟩ := exists_written logs made (.text (dump changed.toJson).text)
  exact ⟨_, run_eq_ok.mpr ⟨changed, written, made, dumped, saved, rfl⟩⟩

end Run

end TxTemplate.Reformat
