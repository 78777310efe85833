import TxTemplate.Proofs.Storage
import TxTemplate.Session

set_option autoImplicit false

/-! Taking notes and the files of a session. A note may be logged to a file. Nothing but that file
changes, and as long as it is no folder every path leads where it led before. So a session with a
log file is as one without, apart from that file. -/

namespace TxTemplate.Session

open Directory

/-- The notes that are loud enough to be taken. -/
def heard (session : Session) (notes : List Note) : List Note :=
  notes.filter fun note => session.threshold.rank ≤ note.level.rank

/-- Notes are logged to what is no folder, if they are logged. -/
def LogsToFile (session : Session) : Prop :=
  ∀ place ∈ session.logPlace, session.directory.entry? place ≠ some .folder

/-- What taking notes does to the files: at most the log file changes. -/
structure Noted (before after : Session) : Prop where
  logPlace : after.logPlace = before.logPlace
  files : AgreeOff before.logPlace.toList before.directory after.directory
  folders : before.LogsToFile → KeepsFolders before.directory after.directory ∧ after.LogsToFile

theorem Noted.refl (session : Session) : Noted session session :=
  ⟨rfl, AgreeOff.refl _ _, fun logs => ⟨fun _ folder => folder, logs⟩⟩

theorem Noted.trans {before middle after : Session} (first : Noted before middle)
    (later : Noted middle after) :
    Noted before after where
  logPlace := later.logPlace.trans first.logPlace
  files := first.files.trans (first.logPlace ▸ later.files)
  folders logs :=
    have reached := first.folders logs
    have last := later.folders reached.2
    ⟨reached.1.trans last.1, last.2⟩

theorem exists_logLine (directory : Directory) (place : Place) (line : String) :
    ∃ content, logLine directory place line = directory.put place (.file content) := by
  unfold logLine
  split
  · exact ⟨_, rfl⟩
  · exact ⟨_, rfl⟩

theorem noted_record (session : Session) (note : Note) : Noted session (session.record note) := by
  unfold record
  split
  · exact Noted.refl session
  · obtain ⟨directory, environment, readers, node, connected, calls, notes, threshold, logPlace⟩ :=
      session
    cases logPlace with
    | none => exact ⟨rfl, AgreeOff.refl _ _, fun logs => ⟨fun _ folder => folder, logs⟩⟩
    | some place =>
        obtain ⟨content, line⟩ := exists_logLine directory place note.fileLine
        dsimp only
        rw [line]
        refine ⟨rfl, agreeOff_put (List.mem_singleton_self place) _ _, fun logs => ?_⟩
        have notFolder := logs place rfl
        refine ⟨keepsFolders_put notFolder _, fun other same => ?_⟩
        obtain rfl := Option.some.inj same
        rw [entry_put_self (ne_top_of_notFolder notFolder)]
        nofun

theorem noted_foldl (session : Session) (notes : List Note) :
    Noted session (notes.foldl record session) := by
  induction notes generalizing session with
  | nil => exact Noted.refl session
  | cons note rest ih => exact (noted_record session note).trans (ih _)

theorem record_withFiles {session : Session} (unlogged : session.logPlace = none)
    (directory : Directory) (note : Note) :
    Session.record { session with directory := directory } note =
      { session.record note with directory := directory } := by
  obtain ⟨held, environment, readers, node, connected, calls, notes, threshold, logPlace⟩ := session
  subst unlogged
  unfold record
  dsimp only
  split_ifs <;> rfl

theorem foldl_record_withFiles {session : Session} (unlogged : session.logPlace = none)
    (directory : Directory) (notes : List Note) :
    notes.foldl record { session with directory := directory } =
      { notes.foldl record session with directory := directory } := by
  induction notes generalizing session with
  | nil => rfl
  | cons note rest ih =>
      rw [List.foldl_cons, List.foldl_cons, record_withFiles unlogged,
        ih ((noted_record session note).logPlace.trans unlogged)]

theorem directory_foldl_record {session : Session} (unlogged : session.logPlace = none)
    (notes : List Note) :
    (notes.foldl record session).directory = session.directory := by
  have same : notes.foldl record session =
    { notes.foldl record session with directory := session.directory } :=
    foldl_record_withFiles unlogged session.directory notes
  exact (congrArg Session.directory same).trans rfl

theorem notes_foldl_record (session : Session) (notes : List Note) :
    (notes.foldl record session).notes = session.notes ++ session.heard notes := by
  induction notes generalizing session with
  | nil => simp [heard]
  | cons note rest ih =>
      rw [List.foldl_cons, ih, record, heard, heard, List.filter_cons]
      split_ifs with quiet loud loud
      · exact absurd (of_decide_eq_true loud) (Nat.not_le.mpr quiet)
      · rfl
      · exact List.append_assoc _ _ _
      · exact absurd (decide_eq_true (Nat.not_lt.mp quiet)) loud

/-! ### Apart from the log file -/

theorem Noted.sameFolders {before after : Session} (noted : Noted before after)
    (logs : before.LogsToFile) :
    SameFolders before.directory after.directory := by
  obtain ⟨keeps, logsStill⟩ := noted.folders logs
  refine fun place => ⟨fun folder => ?_, keeps place⟩
  by_cases logged : place ∈ before.logPlace.toList
  · exact absurd folder (logsStill place (noted.logPlace.trans (Option.mem_toList.mp logged)))
  · rw [← noted.files place logged]
    exact folder

/-- A session that logs its notes to a place, and what it would be without: the two differ in that
place alone. -/
structure LogsApart (log : Option Place) (unlogged session : Session) : Prop where
  logPlace : session.logPlace = log
  rest : unlogged = { session with directory := unlogged.directory, logPlace := none }
  files : AgreeOff log.toList unlogged.directory session.directory
  folders : SameFolders unlogged.directory session.directory
  logs : session.LogsToFile

variable {log : Option Place} {session unlogged : Session}

def withoutLog (session : Session) : Session := { session with logPlace := none }

theorem logsApart (logs : session.LogsToFile) :
    LogsApart session.logPlace session.withoutLog session :=
  ⟨rfl, rfl, AgreeOff.refl _ _, SameFolders.refl _, logs⟩

namespace LogsApart

section Rest

variable (apart : LogsApart log unlogged session)
include apart

theorem quiet : unlogged.logPlace = none := by rw [apart.rest]

theorem node : unlogged.node = session.node := by rw [apart.rest]

theorem connected : unlogged.connected = session.connected := by rw [apart.rest]

theorem calls : unlogged.calls = session.calls := by rw [apart.rest]

theorem notes : unlogged.notes = session.notes := by rw [apart.rest]

theorem heard : unlogged.heard = session.heard := by
  funext notes
  rw [apart.rest]
  rfl

end Rest

theorem record (apart : LogsApart log unlogged session) (note : Note) :
    LogsApart log (unlogged.record note) (session.record note) := by
  have noted := noted_record session note
  have files : (unlogged.record note).directory = unlogged.directory :=
    directory_foldl_record apart.quiet [note]
  refine ⟨noted.logPlace.trans apart.logPlace, ?_, ?_, ?_, (noted.folders apart.logs).2⟩
  · rw [files, apart.rest]
    unfold Session.record
    dsimp only
    split_ifs <;> rfl
  · rw [files]
    exact apart.files.trans (apart.logPlace ▸ noted.files)
  · rw [files]
    exact apart.folders.trans (noted.sameFolders apart.logs)

theorem foldl_record (apart : LogsApart log unlogged session) (notes : List Note) :
    LogsApart log (notes.foldl Session.record unlogged) (notes.foldl Session.record session) := by
  induction notes generalizing unlogged session with
  | nil => exact apart
  | cons note rest ih => exact ih (apart.record note)

theorem put {place : Place} (apart : LogsApart log unlogged session)
    (notFolder : unlogged.directory.entry? place ≠ some .folder) (content : Content) :
    LogsApart log { unlogged with directory := unlogged.directory.put place (.file content) }
      { session with directory := session.directory.put place (.file content) } := by
  have here := sameFolders_put notFolder content
  have there := sameFolders_put (fun folder => notFolder ((apart.folders place).mp folder)) content
  refine ⟨apart.logPlace, ?_, fun other off => ?_, here.symm.trans (apart.folders.trans there),
    fun other logged folder => apart.logs other logged ((there other).mp folder)⟩
  · rw [apart.rest]
  · by_cases same : other = place
    · subst same
      have below := ne_top_of_notFolder notFolder
      exact (entry_put_self below _ _).trans (entry_put_self below _ _).symm
    · exact (entry_put_of_ne same _ _).trans
        ((apart.files other off).trans (entry_put_of_ne same _ _).symm)

end LogsApart

end TxTemplate.Session
