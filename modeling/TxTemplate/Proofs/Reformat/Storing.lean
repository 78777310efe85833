import TxTemplate.Proofs.Json.Written
import TxTemplate.Proofs.Reformat
import TxTemplate.Proofs.Template

set_option autoImplicit false

/-! Reformatting in a session. All that can fail does so before the file of the template is opened,
but for the dumper. So a run whose template is dumped whole leaves every file as it was where it
fails, and changes that file alone where it succeeds. Only the file that notes are logged to grows
in either case. -/

namespace TxTemplate

open Directory

namespace Reformat

open TxTemplate.Action TypedData

/-! ### What is read back -/

/-- A document reads back from the file that it is dumped to. -/
structure ReadsBack (dump : Dumper) (document : Json) : Prop where
  whole : (dump document).stop = none
  read : Json.read (String.ofList (plainLines (dump document).text.toList)) = .ok document

/-- A written document reads back if it does from its text, which has plain line ends. -/
theorem readsBack_whole {document : Json}
    (readable : Json.read (Json.write document) = .ok document) :
    ReadsBack whole document where
  whole := rfl
  read := by
    show Json.read (String.ofList (plainLines (Json.write document).toList)) = _
    rw [Json.plainLines_write, String.ofList_toList, readable]

theorem separate_of_load {directory : Directory} {path : String} {stored : TransactionTemplate}
    (loaded : TransactionTemplate.load directory path = .ok stored) :
    ∀ instruction ∈ stored.instructions, instruction.Separate := by
  rw [TransactionTemplate.load] at loaded
  obtain ⟨document, -, later⟩ := Outcome.bind_eq_ok.mp loaded
  cases document with
  | error cause => cases later
  | ok document => exact TransactionTemplate.separate_of_ofJson later

theorem load_of_put {dump : Dumper} {directory : Directory} {path : String} {place : Place}
    {template : TransactionTemplate} (located : directory.locate path = .ok place)
    (held : directory.entry? place = some (.file (.text (dump template.toJson).text)))
    (separate : ∀ instruction ∈ template.instructions, instruction.Separate)
    (readable : ReadsBack dump template.toJson) :
    TransactionTemplate.load directory path = .ok template := by
  have read : directory.read path = .ok (.text (dump template.toJson).text) := by
    rw [Directory.read, located, Outcome.ok_bind, held]
  have document : directory.readDocument path = .ok (.ok template.toJson) := by
    rw [readDocument, readText, read]
    exact congrArg Except.ok readable.read
  rw [TransactionTemplate.load, document]
  exact TransactionTemplate.ofJson_toJson template separate

theorem findIdx?_of_first {wanted : InstructionTemplate → Bool}
    {before after : List InstructionTemplate} {target : InstructionTemplate}
    (others : ∀ other ∈ before, wanted other = false) (named : wanted target = true) :
    (before ++ target :: after).findIdx? wanted = some before.length := by
  rw [List.findIdx?_append, List.findIdx?_eq_none_iff.mpr others, List.findIdx?_cons, named]
  simp

theorem separate_set {instructions : List InstructionTemplate} {index : Nat}
    {target : InstructionTemplate} {data : Json}
    (separate : ∀ instruction ∈ instructions, instruction.Separate)
    (here : instructions[index]? = some target) :
    ∀ instruction ∈ instructions.set index { target with data := data }, instruction.Separate := by
  intro instruction member
  rcases List.mem_or_eq_of_mem_set member with old | rfl
  · exact separate instruction old
  · exact separate target (List.mem_of_getElem? here)

/-- Taking a note after a file was put: nothing else moves, and the file is found where its path
leads. -/
theorem record_after_put {session : Session} {path : String} {place : Place} (content : Content)
    (note : Note) (located : session.directory.locate path = .ok place)
    (notFolder : session.directory.entry? place ≠ some .folder) :
    let after := Session.record
      { session with directory := session.directory.put place (.file content) } note
    AgreeOff (place :: session.logPlace.toList) session.directory after.directory ∧
      (session.LogsToFile → session.logPlace ≠ some place →
        after.directory.locate path = .ok place ∧
            after.directory.entry? place = some (.file content)) := by
  intro after
  have recorded :=
    Session.noted_record { session with directory := session.directory.put place (.file content) }
      note
  obtain ⟨still, held⟩ := locate_put located notFolder (.file content)
  constructor
  · exact (agreeOff_put List.mem_cons_self _ _).trans
      (recorded.files.mono (List.subset_cons_self _ _))
  · intro logs apart
    have off : place ∉ session.logPlace.toList := fun member => apart (Option.mem_toList.mp member)
    have logsStill : Session.LogsToFile
        { session with directory := session.directory.put place (.file content) } := by
      intro other logged
      have different : other ≠ place := fun same => apart (same ▸ logged)
      rw [entry_put_of_ne different]
      exact logs other logged
    refine ⟨locate_of_keepsFolders (recorded.folders logsStill).1 still, ?_⟩
    rw [recorded.files place off]
    exact held

/-- Files that a stopped dumper leaves: the one of the template has what was dumped of it. -/
def LeftStopped (dump : Dumper) (templatePath : String) (schemaPath program : Option String)
    (session after : Session) (fault : Fault) : Prop :=
  ∃ place changed, session.directory.locate templatePath = .ok place ∧
    (prepared session.directory templatePath schemaPath program).outcome = .ok changed ∧
    (dump changed.toJson).stop = some fault ∧
    AgreeOff (place :: session.logPlace.toList) session.directory after.directory ∧
    after.directory.entry? place = some (.file (.text (dump changed.toJson).text))

section Whole

variable {dump : Dumper} {templatePath : String} {schemaPath program : Option String}
variable {session after : Session}

/-- A run that fails leaves every file as it was, unless the dumper stopped. -/
theorem agreeOff_of_error {fault : Fault}
    (ran : (run dump templatePath schemaPath program).on session = (.error fault, after)) :
    AgreeOff session.logPlace.toList session.directory after.directory ∨
      LeftStopped dump templatePath schemaPath program session after fault := by
  have taken := noted_noted templatePath schemaPath program session
  obtain rfl | ⟨changed, written, made, stopped, saved, rfl⟩ := after_of_error ran
  · exact .inl taken.files
  · obtain ⟨_, _, _, _, loaded, -, -⟩ := prepared_eq_ok.mp made
    obtain ⟨place, located, -⟩ := locate_of_load loaded
    obtain ⟨reached, locates, fileThere, rfl⟩ := write_eq_ok.mp saved
    obtain rfl := locate_unique located locates
    refine .inr ⟨place, changed, located, made, stopped, ?_, (locate_put locates fileThere _).2⟩
    exact (taken.files.mono (List.subset_cons_self _ _)).trans
      (agreeOff_put List.mem_cons_self _ _)

/-- A run that succeeds changes the file of the template only, and that reads back with the new data
if its document does. -/
theorem changes_of_ok
    (ran : (run dump templatePath schemaPath program).on session = (.ok (), after)) :
    ∃ place formatPath stored schema index target old data changed,
      session.directory.locate templatePath = .ok place ∧ schemaPath = some formatPath ∧
      AgreeOff (place :: session.logPlace.toList) session.directory after.directory ∧
      TransactionTemplate.load session.directory templatePath = .ok stored ∧
      schemaIn session.directory formatPath = .ok schema ∧
      stored.instructions.findIdx? (namesGiven program) = some index ∧
      stored.instructions[index]? = some target ∧
      (pack [] target.data).outcome = .ok old ∧ unpack old schema 0 = .ok data ∧
      changed =
        { stored with instructions := stored.instructions.set index { target with data := data } } ∧
      (prepared session.directory templatePath schemaPath program).outcome = .ok changed ∧
      (session.LogsToFile → session.logPlace ≠ some place → ReadsBack dump changed.toJson →
        TransactionTemplate.load after.directory templatePath = .ok changed) := by
  have taken := noted_noted templatePath schemaPath program session
  obtain ⟨changed, written, made, -, saved, rfl⟩ := run_eq_ok.mp ran
  obtain ⟨formatPath, stored, schema, path, loaded, given, change⟩ := prepared_eq_ok.mp made
  obtain ⟨before, target, later, old, data, listed, others, named, packed, read, same⟩ :=
    exists_target change
  obtain ⟨place, located, notFolder⟩ := locate_of_load loaded
  obtain ⟨reached, locates, fileThere, rfl⟩ := write_eq_ok.mp saved
  -- Notes may have been logged between loading and storing, but the path leads to the same place in
  -- both.
  obtain rfl := locate_unique located locates
  obtain ⟨elsewhere, readBack⟩ := record_after_put (.text (dump changed.toJson).text)
    ⟨.reformatting, .info, updated (shownGiven program)⟩ locates fileThere
  have sameLog : place :: (noted templatePath schemaPath program session).logPlace.toList ⊆
      place :: session.logPlace.toList := by
    rw [taken.logPlace]
    exact List.Subset.refl _
  have here : stored.instructions[before.length]? = some target := by simp [listed]
  have set : before ++ { target with data := data } :: later =
      stored.instructions.set before.length { target with data := data } := by simp [listed]
  rw [set] at same
  have first : stored.instructions.findIdx? (namesGiven program) = some before.length := by
    rw [listed]
    exact findIdx?_of_first others named
  refine ⟨place, formatPath, stored, schema, before.length, target, old, data, changed, located,
    path, (taken.files.mono (List.subset_cons_self _ _)).trans (elsewhere.mono sameLog), loaded,
    given, first, here, packed, read, same, made, fun logs apart readable => ?_⟩
  obtain ⟨still, held⟩ := readBack (taken.folders logs).2 (taken.logPlace.trans_ne apart)
  refine load_of_put still held ?_ readable
  rw [same]
  exact separate_set (separate_of_load loaded) here

end Whole

def byteText : String := "\x7b\"type\":\"u8\"\x7d"

def firstByte : Json := .obj [("type", .str "u8"), ("data", .int 1)]

def firstByteText : String :=
  "\x7b\n  \"instructions\": [\n    \x7b\n" ++
    "      \"program_id\": \"MemoSq4gqABAXKb96qnH8TysNcWxMyWCqXgDLGmfcHr\",\n" ++
    "      \"data\": \x7b\n        \"type\": \"u8\",\n        \"data\": 1\n      \x7d,\n" ++
    "      \"accounts\": []\n    \x7d\n  ],\n  \"signers\": [],\n  \"lookup_tables\": null\n\x7d"

set_option maxRecDepth 2000 in
theorem read_firstByteText : Json.read firstByteText = .ok (memoTemplate firstByte).toJson := by cbv

def loggingSession : Session :=
  { Session.start (memoDirectory byteText) [] Node.silent with logPlace := some ["notes.log"] }

/-- A dumper that breaks off behind the first character of every document. -/
def broken : Dumper := fun _ => ⟨"\x7b", some (.job .accountLimit)⟩

theorem logsToFile_loggingSession : loggingSession.LogsToFile := by
  intro place logged
  obtain rfl := Option.some.inj logged
  decide

theorem schemaIn_loggingSession :
    schemaIn loggingSession.directory "format.json" = .ok (.obj [("type", .str "u8")]) :=
  schemaIn_memoDirectory (by decide +kernel) (by cbv)

theorem prepared_loggingSession :
    (prepared loggingSession.directory "tx.json" (some "format.json") (some memoProgram)).outcome =
      .ok (memoTemplate firstByte) :=
  prepared_memoDirectory schemaIn_loggingSession rfl

theorem readsBack_firstByte : ReadsBack whole (memoTemplate firstByte).toJson := by
  have written : Json.write (memoTemplate firstByte).toJson = firstByteText := by decide +kernel
  exact readsBack_whole (by rw [written, read_firstByteText])

/-- What the broken dumper leaves is not the template from before. -/
theorem not_agreeOff_broken {directory stored : Directory}
    (saved : directory.write "tx.json" (.text "\x7b") = .ok stored)
    (located : directory.locate "tx.json" = .ok ["tx.json"]) :
    ¬ AgreeOff loggingSession.logPlace.toList loggingSession.directory stored := by
  intro unchanged
  obtain ⟨place, locates, fileThere, rfl⟩ := write_eq_ok.mp saved
  obtain rfl := locate_unique located locates
  have still := unchanged ["tx.json"] (by decide)
  have held := (locate_put locates fileThere (.file (.text "\x7b"))).2
  have old : loggingSession.directory.entry? ["tx.json"] = some (.file (.text memoText)) := rfl
  have different : memoText ≠ "\x7b" := by decide +kernel
  rw [held, old] at still
  injection Option.some.inj still with content
  exact different (Content.text.inj content).symm

end Reformat

end TxTemplate
