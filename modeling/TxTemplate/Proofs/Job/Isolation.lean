import TxTemplate.Proofs.Distinct
import TxTemplate.Proofs.Job.LogFile

set_option autoImplicit false

/-! Accounts are stored apart from one another. A run over many addresses comes to what dumping each
of them alone comes to, whatever the others are: what fails is noted and passed over, and every
other account has its file. -/

namespace TxTemplate

open TxTemplate.Action Directory

namespace Job

/-! ### One address alone -/

def alone (client : Client) (path : String) (session : Session) (address : String) :
    Except Fault String × Session :=
  (dumpAccount client address (.str path)).on session

/-- The requests that were made since, without the opening of a connection. -/
def requestsSince (before after : Session) : List Call :=
  (after.calls.drop before.calls.length).filter fun call => !(call matches .connect _ _)

def notesSince (before after : Session) : List Note := after.notes.drop before.notes.length

def Leaves (run : Except Fault String × Session) (place : Place) (content : Content) : Prop :=
  ∃ file, run.1 = .ok file ∧ run.2.directory.locate file = .ok place ∧
    run.2.directory.entry? place = some (.file content)

theorem exists_accountInfo_of_inquiry {node : Node} {address : String} :
    ∀ call ∈ (inquiry node address).requests, ∃ key, call = .accountInfo key := by
  rw [inquiry]
  split
  · simp
  · split
    · simp
    · split_ifs <;> simp

theorem level_of_inquiry {node : Node} {address : String} :
    ∀ note ∈ (inquiry node address).notes, note.level ≠ .error := by
  rw [inquiry]
  split
  · simp
  · split
    · simp
    · split_ifs
      · rw [List.forall_mem_cons, holderNotes]
        refine ⟨by simp, ?_⟩
        split
        · simp
        · split_ifs <;> simp
      · simp

theorem refusal_of_inquiry {node : Node} {address : String} {fault : Fault}
    (failed : (inquiry node address).outcome = .error fault) : fault.isRefusal = true := by
  rw [inquiry] at failed
  split at failed
  · next refused =>
    cases failed
    rw [Address.parse] at refused
    split at refused
    · cases refused
    · cases refused
      rfl
  · split at failed
    · cases failed
      rfl
    · split_ifs at failed
      dsimp only [programFile] at failed
      split at failed
      · cases failed
        rfl
      · cases failed

section Dumped

variable {node : Node} {directory : Directory} {path : String} {base : Place} {address : String}

theorem requests_dumped :
    (dumped node directory path base address).requests = (inquiry node address).requests := by
  rw [dumped]
  split
  · rfl
  · split <;> rfl

theorem level_of_dumped :
    ∀ note ∈ (dumped node directory path base address).notes, note.level ≠ .error := by
  have asked := @level_of_inquiry node address
  rw [dumped]
  split
  · exact asked
  · split
    · exact asked
    · rw [List.forall_mem_append, List.forall_mem_singleton]
      refine ⟨asked, ?_⟩
      rw [storedNote.eq_def]
      split <;> simp

/-- An account that is found is not stored only where its file cannot be put. -/
theorem blocked_of_stray (ready : Ready directory path base)
    (stray : Stray (dumped node directory path base address).outcome) :
    ∃ ending ∈ [".json", ".so"], pathLimit < (Path.join path (address ++ ending)).utf8ByteSize ∨
      directory.hasFolder (Path.join path (address ++ ending)) = true := by
  obtain ⟨fault, failed, other⟩ := stray
  rw [dumped] at failed
  split at failed
  · next refused =>
    cases failed
    rw [refusal_of_inquiry refused] at other
    cases other
  · next name content found =>
    obtain ⟨⟨key, named⟩, ending, listed, rfl⟩ := name_of_inquiry found
    have located := locate_join (plainName_of_read named listed) ready.located ready.folder
    refine ⟨ending, listed, or_iff_not_imp_left.mpr fun short =>
      hasFolder_iff.mpr ⟨base ++ [address ++ ending], ?_, ?_⟩⟩
    · rw [located, if_neg short]
    · by_contra notFolder
      rw [placeFor, if_neg short, if_neg notFolder] at failed
      cases failed

theorem locate_of_dumped {file : String} {place : Place} {content : Content}
    (ready : Ready directory path base)
    (stored : (dumped node directory path base address).outcome = .ok (file, place, content)) :
    directory.locate file = .ok place ∧ directory.entry? place ≠ some .folder := by
  obtain ⟨name, found, rfl, rfl, short, notFolder⟩ := dumped_eq_ok stored
  obtain ⟨⟨key, named⟩, ending, listed, rfl⟩ := name_of_inquiry found
  exact ⟨by rw [locate_join (plainName_of_read named listed) ready.located ready.folder,
    if_neg short], notFolder⟩

end Dumped

/-- The folder of a path can be made, and is there then; and the node answers. -/
structure Prepared (session : Session) (made : Directory) (path : String) (base : Place) : Prop
    extends Ready made path base where
  makes : session.directory.makeFolders path = (.ok (), made)
  answers : session.node.Answers

section Alone

variable {session : Session} {made : Directory} {path : String} {base : Place}

/-- Making the folder comes first, so an account is dumped as if it had been there. -/
theorem on_dumpAccount_of_made (prepared : Prepared session made path base) (client : Client)
    (address : String) :
    (dumpAccount client address (.str path)).on session =
      (dumpAccount client address (.str path)).on { session with directory := made } := by
  rw [on_dumpAccount prepared.answers, prepared.makes, on_dumpAccount (by exact prepared.answers),
    makeFolders_of_hasFolder prepared.hasFolder]

theorem alone_eq_dumped (prepared : Prepared session made path base)
    (quiet : session.logPlace = none) (client : Client) (address : String) :
    let done := dumped session.node made path base address
    alone client path session address =
      (done.outcome.map fun stored => stored.1,
        Session.asking { session with directory := done.files made } client done.requests
          done.notes) :=
  (on_dumpAccount_of_made prepared client address).trans
    (on_dumpAccount_of_ready (by exact prepared.answers) (by exact prepared.toReady)
      (by exact quiet) client address)

theorem requestsSince_asking {session after : Session} {client : Client} {requests : List Call}
    {notes : List Note} (same : after.calls = session.calls)
    (plain : ∀ call ∈ requests, ∃ key, call = .accountInfo key) :
    requestsSince session (after.asking client requests notes) = requests := by
  have opened : (client.opening after.connected requests).filter (fun call =>
      !(call matches .connect _ _)) = [] := by
    rw [Client.opening]
    split <;> rfl
  have kept : requests.filter (fun call => !(call matches .connect _ _)) = requests := by
    rw [List.filter_eq_self]
    intro call member
    obtain ⟨key, rfl⟩ := plain call member
    rfl
  rw [requestsSince, Session.asking]
  dsimp only
  rw [same, List.append_assoc, List.drop_left, List.filter_append, opened, kept, List.nil_append]

theorem notesSince_asking {session after : Session} {client : Client} {requests : List Call}
    {notes : List Note} (same : after.notes = session.notes) :
    notesSince session (after.asking client requests notes) = after.heard notes := by
  rw [notesSince, Session.notes_asking, same, List.drop_left]

theorem requestsSince_alone (prepared : Prepared session made path base)
    (quiet : session.logPlace = none) (client : Client) (address : String) :
    requestsSince session (alone client path session address).2 =
      (dumped session.node made path base address).requests := by
  rw [alone_eq_dumped prepared quiet]
  refine requestsSince_asking rfl ?_
  rw [requests_dumped]
  exact exists_accountInfo_of_inquiry

theorem notesSince_alone (prepared : Prepared session made path base)
    (quiet : session.logPlace = none) (client : Client) (address : String) :
    notesSince session (alone client path session address).2 =
      session.heard (dumped session.node made path base address).notes := by
  rw [alone_eq_dumped prepared quiet]
  exact notesSince_asking rfl

theorem leaves_alone_iff (prepared : Prepared session made path base)
    (quiet : session.logPlace = none) (client : Client) {address : String} {place : Place}
    {content : Content} :
    Leaves (alone client path session address) place content ↔
      ∃ file,
        (dumped session.node made path base address).outcome = .ok (file, place, content) := by
  rw [alone_eq_dumped prepared quiet, Leaves]
  dsimp only [Dumped.files]
  rw [Session.directory_asking (by exact quiet)]
  dsimp only
  cases outcome : (dumped session.node made path base address).outcome with
  | error fault => simp [Except.map]
  | ok stored =>
      obtain ⟨file, here, text⟩ := stored
      obtain ⟨located, notFolder⟩ := locate_of_dumped prepared.toReady outcome
      obtain ⟨still, held⟩ := locate_put located notFolder (.file text)
      dsimp only [Except.map]
      constructor
      · rintro ⟨_, same, reached, there⟩
        cases same
        rw [still] at reached
        cases reached
        rw [held] at there
        cases there
        exact ⟨file, rfl⟩
      · rintro ⟨_, same⟩
        cases same
        exact ⟨file, rfl, still, held⟩

theorem stray_alone_iff (prepared : Prepared session made path base)
    (quiet : session.logPlace = none) (client : Client) (address : String) :
    Stray (alone client path session address).1 ↔
      Stray (dumped session.node made path base address).outcome := by
  rw [alone_eq_dumped prepared quiet]
  dsimp only
  cases (dumped session.node made path base address).outcome with
  | error fault => simp [Stray, Except.map]
  | ok stored => simp [Stray, Except.map]

theorem failureNotes_alone (prepared : Prepared session made path base)
    (quiet : session.logPlace = none) (client : Client) (address : String) :
    failureNotes address (alone client path session address).1 =
      failureNotes address (dumped session.node made path base address).outcome := by
  rw [alone_eq_dumped prepared quiet]
  dsimp only
  cases (dumped session.node made path base address).outcome <;> rfl

end Alone

/-! ### All addresses -/

/-- The addresses that a run gets to: all up to the first one at which it ends. -/
def attempted (client : Client) (folder : Json) : List String → Session → List String
  | [], _ => []
  | address :: rest, session =>
    match (tryDumpAccount client folder address).on session with
    | (.ok _, after) => address :: attempted client folder rest after
    | (.error _, _) => [address]

theorem isPrefix_attempted (client : Client) (folder : Json) (todo : List String)
    (session : Session) :
    attempted client folder todo session <+: todo := by
  induction todo generalizing session with
  | nil => exact List.prefix_rfl
  | cons address rest ih =>
      rw [attempted]
      split
      · exact List.prefix_cons_inj address |>.mpr (ih _)
      · exact ⟨rest, rfl⟩

theorem attempted_of_ok {client : Client} {folder : Json} {todo : List String} {session : Session}
    (done : ((todo.forM (tryDumpAccount client folder)).on session).1 = .ok ()) :
    attempted client folder todo session = todo := by
  induction todo generalizing session with
  | nil => rfl
  | cons address rest ih =>
      rw [on_forM_cons, on_bind] at done
      rw [attempted]
      rcases reached : (tryDumpAccount client folder address).on session with ⟨fault | value, after⟩
      · rw [reached] at done
        cases done
      · rw [reached] at done
        exact congrArg (address :: ·) (ih done)

/-- A run over addresses comes to what each of them comes to alone. They are got to once each, in
ascending order; the node is asked what it is asked for each; every failure is noted; and the files
that were stored are the only ones that differ. -/
structure Isolated (client : Client) (path : String) (addresses : List String)
    (session after : Session) : Prop where
  attempted : attempted client (.str path) (Touched.sorted addresses) session =
    Touched.sorted addresses
  ascending : (Touched.sorted addresses).Pairwise (· < ·)
  members : ∀ address, address ∈ Touched.sorted addresses ↔ address ∈ addresses
  calls :
    let requests := (Touched.sorted addresses).flatMap fun address =>
      requestsSince session (alone client path session address).2
    after.calls = session.calls ++ client.opening session.connected requests ++ requests
  notes : after.notes = session.notes ++ (Touched.sorted addresses).flatMap fun address =>
    notesSince session (alone client path session address).2 ++
      session.heard (failureNotes address (alone client path session address).1)
  quiet : ∀ address, ∀ note ∈ notesSince session (alone client path session address).2,
    note.level ≠ .error
  files : ∀ place ∉ session.logPlace.toList, ∀ content,
    after.directory.entry? place = some (.file content) ↔
    (∃ address ∈ addresses, Leaves (alone client path session address) place content) ∨
      (∀ address ∈ addresses, ∀ other, ¬ Leaves (alone client path session address) place other) ∧
        session.directory.entry? place = some (.file content)

section All

variable {session : Session} {made : Directory} {path : String} {base : Place}
  {addresses : List String}

theorem on_forM_of_made (prepared : Prepared session made path base) (client : Client)
    (first : String) (rest : List String) :
    ((first :: rest).forM (tryDumpAccount client (.str path))).on session =
      ((first :: rest).forM (tryDumpAccount client (.str path))).on
        { session with directory := made } := by
  have here : (tryDumpAccount client (.str path) first).on session =
      (tryDumpAccount client (.str path) first).on { session with directory := made } := by
    simp only [tryDumpAccount, on_tryCatch, on_discard, on_dumpAccount_of_made prepared]
  rw [on_forM_cons, on_forM_cons, on_bind, on_bind, here]

theorem on_dumpAccounts_of_fine (prepared : Prepared session made path base)
    (quiet : session.logPlace = none) (client : Client)
    (fine : ∀ address ∈ addresses, ¬ Stray (dumped session.node made path base address).outcome) :
    let each := dumped session.node made path base
    let todo := Touched.sorted addresses
    ∃ files, (dumpAccounts client addresses (.str path)).on session =
        (.ok (), Session.asking { session with directory := files } client
          (todo.flatMap fun address => (each address).requests)
          (todo.flatMap fun address =>
            (each address).notes ++ failureNotes address (each address).outcome)) ∧
      ∀ place content, files.entry? place = some (.file content) ↔
        Directory.entry? (todo.foldl (fun directory address => (each address).files directory) made)
          place =
          some (.file content) := by
  replace fine : ∀ address ∈ Touched.sorted addresses,
    ¬ Stray (dumped session.node made path base address).outcome :=
    fun address member => fine address (Touched.mem_sorted.mp member)
  dsimp only
  rw [dumpAccounts]
  cases todo : Touched.sorted addresses with
  | nil =>
      have grown := grown_makeFolders session.directory path
      rw [prepared.makes] at grown
      exact ⟨session.directory, congrArg (Prod.mk _) (Session.asking_nil session client).symm,
        fun place content => grown.file_iff.symm⟩
  | cons first rest =>
      rw [todo] at fine
      rw [on_forM_of_made prepared, on_forM_of_fine (by exact prepared.answers)
        (by exact prepared.toReady) (by exact quiet) client fine, foldl_leave (by exact quiet)]
      exact ⟨_, rfl, fun _ _ => Iff.rfl⟩

theorem stray_dumpAccounts (prepared : Prepared session made path base)
    (quiet : session.logPlace = none) (client : Client)
    (stray : ∃ address ∈ addresses, Stray (dumped session.node made path base address).outcome) :
    Stray ((dumpAccounts client addresses (.str path)).on session).1 := by
  obtain ⟨address, member, stray⟩ := stray
  have member := Touched.mem_sorted.mpr member
  rw [dumpAccounts]
  cases todo : Touched.sorted addresses with
  | nil =>
      rw [todo] at member
      cases member
  | cons first rest =>
      rw [todo] at member
      rw [on_forM_of_made prepared]
      exact stray_forM (by exact prepared.answers) (by exact prepared.toReady) (by exact quiet)
        client ⟨address, member, stray⟩

theorem isolated_of_fine (prepared : Prepared session made path base)
    (quiet : session.logPlace = none) (client : Client)
    (fine : ∀ address ∈ addresses, ¬ Stray (dumped session.node made path base address).outcome) :
    Isolated client path addresses session
      ((dumpAccounts client addresses (.str path)).on session).2 := by
  obtain ⟨files, ran, same⟩ := on_dumpAccounts_of_fine prepared quiet client fine
  have done : ((dumpAccounts client addresses (.str path)).on session).1 = .ok () := by rw [ran]
  rw [ran]
  refine ⟨attempted_of_ok done, Touched.pairwise_sorted addresses, fun _ => Touched.mem_sorted, ?_,
    ?_, ?_, ?_⟩
  · simp only [requestsSince_alone prepared quiet]
    rfl
  · simp only [notesSince_alone prepared quiet, failureNotes_alone prepared quiet]
    simp only [Session.notes_asking, Session.heard, List.filter_flatMap, List.filter_append]
  · intro address note member
    rw [notesSince_alone prepared quiet] at member
    exact level_of_dumped note (List.mem_of_mem_filter member)
  · intro place _ content
    rw [Session.directory_asking (by exact quiet)]
    have grown := grown_makeFolders session.directory path
    rw [prepared.makes] at grown
    simp only [leaves_alone_iff prepared quiet, not_exists]
    refine (same place content).trans
      ((entry_foldl_files (apart_dumped _ _ _ _) _ made place content).trans ?_)
    simp only [Touched.mem_sorted, grown.file_iff]
    exact or_congr Iff.rfl
      (and_congr_left' ⟨fun none address member other file => none address member file other,
      fun none address member file other => none address member other file⟩)

theorem isolates_of_unlogged (prepared : Prepared session made path base)
    (quiet : session.logPlace = none) (client : Client) :
    let whole := (dumpAccounts client addresses (.str path)).on session
    (whole.1 = .ok () ↔ ∀ address ∈ addresses, ¬ Stray (alone client path session address).1) ∧
      (∀ address, Stray (alone client path session address).1 → ∃ ending ∈ [".json", ".so"],
        pathLimit < (Path.join path (address ++ ending)).utf8ByteSize ∨
          made.hasFolder (Path.join path (address ++ ending)) = true) ∧
      (whole.1 = .ok () → Isolated client path addresses session whole.2) := by
  simp only [stray_alone_iff prepared quiet]
  have fine_of_ok (done : ((dumpAccounts client addresses (.str path)).on session).1 = .ok ()) :
      ∀ address ∈ addresses, ¬ Stray (dumped session.node made path base address).outcome := by
    intro address member stray
    obtain ⟨fault, failed, -⟩ := stray_dumpAccounts prepared quiet client ⟨address, member, stray⟩
    rw [done] at failed
    cases failed
  refine ⟨⟨fine_of_ok, fun fine => ?_⟩, fun address => blocked_of_stray prepared.toReady,
    fun done => ?_⟩
  · obtain ⟨files, ran, -⟩ := on_dumpAccounts_of_fine prepared quiet client fine
    rw [ran]
  · exact isolated_of_fine prepared quiet client (fine_of_ok done)

end All

/-! ### With a log file -/

section Logged

variable {session : Session} {made : Directory} {path : String} {base : Place}
  {addresses : List String}

theorem Prepared.withoutLog (prepared : Prepared session made path base) :
    Prepared session.withoutLog made path base :=
  ⟨prepared.toReady, prepared.makes, prepared.answers⟩

theorem runsApart_alone (prepared : Prepared session made path base)
    (logs : Session.LogsToFile { session with directory := made }) (client : Client)
    (address : String) :
    RunsApart session.logPlace (alone client path session.withoutLog address)
      (alone client path session address) := by
  rw [alone, alone, on_dumpAccount_of_made prepared.withoutLog, on_dumpAccount_of_made prepared]
  exact runsApart_dumpAccount (by exact prepared.answers) (Session.logsApart logs)
    (by exact prepared.toReady) client address

theorem logsToFile_of_made (prepared : Prepared session made path base)
    (logs : Session.LogsToFile { session with directory := made }) : session.LogsToFile := by
  intro place logged folder
  have grown := grown_makeFolders session.directory path
  rw [prepared.makes] at grown
  exact logs place logged (grown.keepsFolders place folder)

theorem runsApart_dumpAccounts (prepared : Prepared session made path base)
    (logs : Session.LogsToFile { session with directory := made }) (client : Client)
    (addresses : List String) :
    RunsApart session.logPlace ((dumpAccounts client addresses (.str path)).on session.withoutLog)
      ((dumpAccounts client addresses (.str path)).on session) := by
  rw [dumpAccounts]
  cases Touched.sorted addresses with
  | nil => exact ⟨rfl, Session.logsApart (logsToFile_of_made prepared logs)⟩
  | cons first rest =>
      rw [on_forM_of_made prepared.withoutLog, on_forM_of_made prepared]
      exact runsApart_forM (by exact prepared.answers) (Session.logsApart logs)
        (by exact prepared.toReady) client
        (first :: rest)

section Runs

variable {log : Option Place} {before start : Session}

theorem leaves_iff_of_apart {unlogged run : Except Fault String × Session}
    (runs : RunsApart log unlogged run) {place : Place} (off : place ∉ log.toList)
    (content : Content) :
    Leaves run place content ↔ Leaves unlogged place content := by
  have located {file : String} : run.2.directory.locate file = .ok place ↔
      unlogged.2.directory.locate file = .ok place :=
    ⟨locate_of_keepsFolders runs.after.folders.symm.keeps,
      locate_of_keepsFolders runs.after.folders.keeps⟩
  simp only [Leaves, runs.outcome, located, runs.after.files place off]

theorem requestsSince_of_apart {unlogged after : Session}
    (began : Session.LogsApart log start before) (ended : Session.LogsApart log unlogged after) :
    requestsSince start unlogged = requestsSince before after := by
  rw [requestsSince, requestsSince, began.calls, ended.calls]

theorem notesSince_of_apart {unlogged after : Session}
    (began : Session.LogsApart log start before) (ended : Session.LogsApart log unlogged after) :
    notesSince start unlogged = notesSince before after := by
  rw [notesSince, notesSince, began.notes, ended.notes]

end Runs

/-- What holds of a run without a log file holds of one with it, off that file. -/
theorem Isolated.of_apart {client : Client} {start unlogged after : Session}
    (isolated : Isolated client path addresses start unlogged)
    (began : Session.LogsApart session.logPlace start session)
    (each : ∀ address, RunsApart session.logPlace (alone client path start address)
      (alone client path session address))
    (ended : Session.LogsApart session.logPlace unlogged after)
    (all : Job.attempted client (.str path) (Touched.sorted addresses) session =
      Touched.sorted addresses) :
    Isolated client path addresses session after where
  attempted := all
  ascending := isolated.ascending
  members := isolated.members
  calls := by
    have calls := isolated.calls
    simp only [requestsSince_of_apart began (each _).after] at calls
    rw [← ended.calls, calls, began.calls, began.connected]
  notes := by
    have notes := isolated.notes
    simp only [notesSince_of_apart began (each _).after, ← (each _).outcome] at notes
    rw [← ended.notes, notes, began.notes, began.heard]
  quiet address := by
    rw [← notesSince_of_apart began (each address).after]
    exact isolated.quiet address
  files place off content := by
    have files := isolated.files place (by rw [began.quiet]; exact List.not_mem_nil) content
    rw [ended.files place off, began.files place off, files]
    simp only [leaves_iff_of_apart (each _) off]

end Logged

/-- A node that has one account, and a log file. -/
def holdingSession : Session :=
  { Session.start ⟨[(["notes.log"], .file (.text ""))]⟩ [] { Node.silent with
      accounts := [(Address.systemProgram, ⟨1, [], Address.systemProgram, false, 0⟩)] } with
    logPlace := some ["notes.log"] }

end Job

end TxTemplate
