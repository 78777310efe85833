import TxTemplate.Job.Dump
import TxTemplate.Proofs.Address
import TxTemplate.Proofs.Job.Retry
import TxTemplate.Proofs.Logging
import TxTemplate.Proofs.Storage.Folders

set_option autoImplicit false

/-! Storing accounts. What becomes of an account depends on its address, the node and the folder
alone: which accounts the node is asked for, which notes are taken, and which file is put where, or
why none is. A run over addresses does for each of them just that, one behind the other, until one
fails with more than a refusal. -/

namespace TxTemplate

open TxTemplate.Action Directory

/-! ### Asking a node for accounts -/

namespace Session

/-- A session after requests were made and notes were taken. -/
def asking (session : Session) (client : Client) (requests : List Call) (notes : List Note) :
    Session :=
  { notes.foldl record session with
    calls := session.calls ++ client.opening session.connected requests ++ requests
    connected := session.connected || !requests.isEmpty }

theorem foldl_record_withCalls (session : Session) (calls : List Call) (connected : Bool)
    (notes : List Note) :
    notes.foldl record { session with calls := calls, connected := connected } =
      { notes.foldl record session with calls := calls, connected := connected } := by
  have step (session : Session) (note : Note) :
      record { session with calls := calls, connected := connected } note =
        { session.record note with calls := calls, connected := connected } := by
    unfold record
    dsimp only
    split_ifs <;> rfl
  induction notes generalizing session with
  | nil => rfl
  | cons note rest ih => rw [List.foldl_cons, List.foldl_cons, step, ih]

theorem foldl_record_eq (session : Session) (notes : List Note) :
    notes.foldl record session =
      { notes.foldl record session with calls := session.calls, connected := session.connected } :=
  foldl_record_withCalls session session.calls session.connected notes

theorem node_foldl_record (session : Session) (notes : List Note) :
    (notes.foldl record session).node = session.node := by
  induction notes generalizing session with
  | nil => rfl
  | cons note rest ih =>
      rw [List.foldl_cons, ih, record]
      split_ifs <;> rfl

theorem asking_nil (session : Session) (client : Client) :
    session.asking client [] [] = session := by
  simp [asking, Client.opening]

theorem asking_asking (session : Session) (client : Client) (requests more : List Call)
    (notes later : List Note) :
    (session.asking client requests notes).asking client more later =
      session.asking client (requests ++ more) (notes ++ later) := by
  rw [asking, asking, asking, foldl_record_withCalls, List.foldl_append]
  dsimp only
  cases session.connected <;> cases requests <;> simp [Client.opening]

theorem record_eq_asking (session : Session) (client : Client) (note : Note) :
    session.record note = session.asking client [] [note] := by
  rw [asking]
  simpa [Client.opening] using foldl_record_eq session [note]

theorem node_asking (session : Session) (client : Client) (requests : List Call)
    (notes : List Note) :
    (session.asking client requests notes).node = session.node := node_foldl_record session notes

theorem notes_asking (session : Session) (client : Client) (requests : List Call)
    (notes : List Note) :
    (session.asking client requests notes).notes = session.notes ++ session.heard notes :=
  notes_foldl_record session notes

theorem asking_withFiles {session : Session} (unlogged : session.logPlace = none)
    (directory : Directory) (client : Client) (requests : List Call) (notes : List Note) :
    Session.asking { session with directory := directory } client requests notes =
      { session.asking client requests notes with directory := directory } := by
  rw [asking, foldl_record_withFiles unlogged]
  rfl

theorem directory_asking {session : Session} (unlogged : session.logPlace = none) (client : Client)
    (requests : List Call) (notes : List Note) :
    (session.asking client requests notes).directory = session.directory :=
  directory_foldl_record unlogged notes

theorem logPlace_asking (session : Session) (client : Client) (requests : List Call)
    (notes : List Note) :
    (session.asking client requests notes).logPlace = session.logPlace :=
  (noted_foldl session notes).logPlace

theorem LogsApart.asking {log : Option Place} {unlogged session : Session}
    (apart : LogsApart log unlogged session) (client : Client) (requests : List Call)
    (notes : List Note) :
    LogsApart log (unlogged.asking client requests notes)
      (session.asking client requests notes) := by
  obtain ⟨logPlace, rest, files, folders, logs⟩ := apart.foldl_record notes
  refine ⟨logPlace, ?_, files, folders, logs⟩
  rw [Session.asking, rest, apart.rest]
  rfl

end Session

theorem Client.on_accountInfo {session : Session} (answers : session.node.Answers) (client : Client)
    (address : Address) :
    (client.accountInfo address).on session =
      ((session.node.account? address).elim (.error (.answer (.accountAbsent address.text))) .ok,
        session.asking client [.accountInfo address] []) := by
  have reached : (client.reach (.accountInfo address)).on session =
      (.ok (), session.asking client [.accountInfo address] []) := by
    rw [client.on_reach, answers.waiting, answers.passing, Session.asking]
    simp
  rw [accountInfo, on_bind_of_ok reached, on_bind_of_ok (on_get _)]
  cases held : session.node.account? address with
  | none =>
      have still : (session.asking client [.accountInfo address] []).node.account? address = none :=
        held
      rw [still]
      rfl
  | some account =>
      have still : (session.asking client [.accountInfo address] []).node.account? address =
        some account := held
      rw [still]
      rfl

namespace Job

/-! ### What is stored of an account -/

/-- The address that a program keeps its data under, if that is not its own account. -/
def holder? (account : Account) : Option Address :=
  if account.owner = Address.upgradeableLoader then Program.dataAddress? account.data else none

/-- The data of a program: that of its holder, where there is one, or its own. -/
def heldData (node : Node) (account : Account) : Bytes :=
  ((holder? account).bind node.account?).elim account.data Account.data

def holderNotes (node : Node) (account : Account) : List Note :=
  match holder? account with
  | none => []
  | some address =>
    if (node.account? address).isSome then []
    else [⟨.dumping, .warning,
      "Program data account unavailable: " ++ (Fault.answer (.accountAbsent address.text)).message⟩]

theorem on_programData {session : Session} (answers : session.node.Answers) (client : Client)
    (account : Account) :
    (programData client account).on session =
      (.ok (heldData session.node account),
        session.asking client ((holder? account).toList.map .accountInfo)
          (holderNotes session.node account)) := by
  rw [programData, heldData, holderNotes, holder?]
  split_ifs with replaceable
  · cases Program.dataAddress? account.data with
    | none =>
        dsimp only
        rw [on_pure, Option.toList_none, List.map_nil, Session.asking_nil]
        rfl
    | some address =>
        dsimp only
        rw [on_tryCatch, on_bind, Client.on_accountInfo answers]
        cases held : session.node.account? address with
        | some holder =>
            simp only [Option.elim_some, Option.bind_some, held]
            rfl
        | none =>
            have refusal : ¬ (!(Fault.answer (.accountAbsent address.text)).isRefusal) = true :=
              Bool.false_ne_true
            simp only [Option.elim_none, Option.bind_some, held]
            rw [if_neg refusal, on_bind_of_ok (on_note _ _ _ _), Session.record_eq_asking _ client,
              Session.asking_asking]
            rfl
  · rw [on_pure, Option.toList_none, List.map_nil, Session.asking_nil]
    rfl

/-- What asking after an account comes to: the requests of the node, the notes on the way, and the
name and the content of the file that is to be stored, or why there is none. -/
structure Inquiry where
  requests : List Call
  notes : List Note
  outcome : Except Fault (String × Content)

def programFile (address : String) (data : Bytes) : Except Fault (String × Content) :=
  match Program.executable? data with
  | none => .error (.job (.notElf address))
  | some executable => .ok (address ++ ".so", .binary executable)

def inquiry (node : Node) (address : String) : Inquiry :=
  match Address.parse address with
  | .error fault => ⟨[], [], .error fault⟩
  | .ok key =>
    match node.account? key with
    | none => ⟨[.accountInfo key], [], .error (.answer (.accountAbsent key.text))⟩
    | some account =>
      if account.executable then
        ⟨.accountInfo key :: (holder? account).toList.map .accountInfo,
          ⟨.dumping, .info, "Dumping program " ++ address ++ "..."⟩ :: holderNotes node account,
          programFile address (heldData node account)⟩
      else
        ⟨[.accountInfo key], [⟨.dumping, .info, "Dumping account " ++ address ++ "..."⟩],
          .ok (address ++ ".json", .text (Json.write (account.toJson key)))⟩

def storedNote (path : String) : Content → Note
  | .binary _ => ⟨.dumping, .info, "Program dumped to " ++ path⟩
  | .text _ => ⟨.dumping, .info, "Account dumped to " ++ path⟩

/-- What is done with an inquiry: the file is stored, or the fault is raised. -/
def conclude (folder : String) (outcome : Except Fault (String × Content)) : Action String := do
  let (name, content) ← Action.ofExcept outcome
  let path := Path.join folder name
  Action.write path content
  let note := storedNote path content
  Action.note note.topic note.level note.text
  pure path

/-- Dumping an account is asking after it and storing what is found. -/
theorem on_dumpAccount {session : Session} (answers : session.node.Answers) (client : Client)
    (address path : String) :
    (dumpAccount client address (.str path)).on session =
      match session.directory.makeFolders path with
      | (.error fault, made) => (.error fault, { session with directory := made })
      | (.ok (), made) =>
        let found := inquiry session.node address
        (conclude path found.outcome).on
          (Session.asking { session with directory := made } client found.requests
              found.notes) := by
  have folder : (makeFolder (.str path)).on session =
      ((session.directory.makeFolders path).1.map fun _ => path,
        { session with directory := (session.directory.makeFolders path).2 }) := by
    rw [makeFolder, on_bind_of_ok (on_files session)]
    dsimp only
    rw [on_bind_of_ok (on_modify _ _), on_bind, on_ofExcept]
    cases (session.directory.makeFolders path).1 <;> rfl
  rw [dumpAccount, on_bind, folder]
  rcases session.directory.makeFolders path with ⟨fault | done, made⟩
  · rfl
  · dsimp only [Except.map]
    rw [on_bind, on_liftM, inquiry]
    cases Address.parse address with
    | error fault =>
      dsimp only
      rw [Session.asking_nil]
      rfl
    | ok key =>
      dsimp only
      rw [on_bind, Client.on_accountInfo (by exact answers)]
      dsimp only
      cases held : session.node.account? key with
      | none => rfl
      | some account =>
          dsimp only [Option.elim_some]
          split_ifs with program
          · rw [on_bind_of_ok (on_note _ _ _ _), Session.record_eq_asking _ client,
              Session.asking_asking,
              on_bind_of_ok (on_programData (by rwa [Session.node_asking]) client account),
              Session.asking_asking, Session.node_asking, programFile]
            dsimp only
            cases Program.executable? (heldData session.node account) <;> rfl
          · rw [on_bind_of_ok (on_note _ _ _ _), Session.record_eq_asking _ client,
              Session.asking_asking]
            rfl

/-! ### Names of files -/

theorem name_of_inquiry {node : Node} {address name : String} {content : Content}
    (found : (inquiry node address).outcome = .ok (name, content)) :
    (∃ key, Address.read address = .ok key) ∧ ∃ ending ∈ [".json", ".so"],
      name = address ++ ending := by
  rw [inquiry] at found
  cases parsed : Address.parse address with
  | error fault =>
      rw [parsed] at found
      cases found
  | ok key =>
      rw [parsed] at found
      dsimp only at found
      refine ⟨⟨key, Address.read_of_parse parsed⟩, ?_⟩
      cases held : node.account? key with
      | none =>
          rw [held] at found
          cases found
      | some account =>
          rw [held] at found
          dsimp only at found
          split_ifs at found
          · dsimp only [programFile] at found
            split at found
            · cases found
            · obtain ⟨rfl, -⟩ := Prod.mk.inj (Except.ok.inj found)
              exact ⟨".so", by decide, rfl⟩
          · obtain ⟨rfl, -⟩ := Prod.mk.inj (Except.ok.inj found)
            exact ⟨".json", by decide, rfl⟩

section Names

variable {address ending : String} {key : Address}

theorem not_mem_of_read (named : Address.read address = .ok key) {mark : Char}
    (other : ∀ value < 58, Base58.digit value ≠ mark) : mark ∉ address.toList := by
  rw [← Address.text_of_read named, Address.toList_text]
  intro member
  exact Base58.forall_mem_encode (p := fun c => c ≠ mark) other key.bytes mark member rfl

theorem plainName_of_read (named : Address.read address = .ok key)
    (listed : ending ∈ [".json", ".so"]) :
    PlainName (address ++ ending) := by
  have free {mark : Char} (other : ∀ value < 58, Base58.digit value ≠ mark)
      (absent : ∀ ending ∈ [".json", ".so"], mark ∉ ending.toList) :
          mark ∉ (address ++ ending).toList := by
    rw [String.toList_append, List.mem_append]
    rintro (member | member)
    · exact not_mem_of_read named other member
    · exact absent ending listed member
  have other {text : String} (brief : text.toList.length < 3) : address ++ ending ≠ text := by
    have least : ∀ ending ∈ [".json", ".so"], 3 ≤ ending.toList.length := by decide
    rintro rfl
    rw [String.toList_append, List.length_append] at brief
    exact absurd (Nat.le_add_left_of_le (least ending listed)) (Nat.not_le.mpr brief)
  refine ⟨other (by decide), free (by decide) (by decide), free (by decide) (by decide),
    ⟨other (by decide), other (by decide)⟩, ?_⟩
  have most : ∀ ending ∈ [".json", ".so"], ending.utf8ByteSize ≤ 5 := by decide
  have short := Address.utf8ByteSize_text_le key
  rw [Address.text_of_read named] at short
  rw [String.utf8ByteSize_append]
  exact Nat.le_trans (Nat.add_le_add short (most ending listed)) (by decide)

theorem takeWhile_name (named : Address.read address = .ok key)
    (listed : ending ∈ [".json", ".so"]) :
    (address ++ ending).toList.takeWhile (· != '.') = address.toList := by
  have stops : ∀ ending ∈ [".json", ".so"], ending.toList.takeWhile (· != '.') = [] := by decide
  have pointless : ∀ c ∈ address.toList, (c != '.') = true := fun c member =>
    bne_iff_ne.mpr (ne_of_mem_of_not_mem member (not_mem_of_read named (by decide)))
  rw [String.toList_append, List.takeWhile_append_of_pos pointless, stops ending listed,
    List.append_nil]

end Names

/-! ### In a folder that is there -/

structure Ready (directory : Directory) (path : String) (base : Place) : Prop where
  located : directory.locate path = .ok base
  folder : directory.entry? base = some .folder

theorem Ready.hasFolder {directory : Directory} {path : String} {base : Place}
    (ready : Ready directory path base) :
    directory.hasFolder path = true :=
  hasFolder_iff.mpr ⟨base, ready.located, ready.folder⟩

def placeFor (directory : Directory) (path : String) (base : Place) (name : String) :
    Except Fault Place :=
  if pathLimit < (Path.join path name).utf8ByteSize then
    .error (.storage (.longName (Path.join path name)))
  else if directory.entry? (base ++ [name]) = some .folder then
    .error (.storage (.directory (Path.join path name)))
  else .ok (base ++ [name])

theorem write_join {directory : Directory} {path name : String} {base : Place}
    (ready : Ready directory path base) (plain : PlainName name) (content : Content) :
    directory.write (Path.join path name) content =
      (placeFor directory path base name).map fun place => directory.put place (.file content) := by
  rw [placeFor]
  have located := locate_join plain ready.located ready.folder
  split_ifs with long folder
  · rw [if_pos long] at located
    rw [Directory.write, located]
    rfl
  · rw [if_neg long] at located
    rw [Directory.write, located]
    dsimp only
    rw [folder]
    rfl
  · rw [if_neg long] at located
    exact write_of_locate located folder content

/-- In a folder that is there, what is found is stored where its name says. -/
theorem on_conclude {session : Session} {path : String} {base : Place}
    (ready : Ready session.directory path base) {name : String} (plain : PlainName name)
    (content : Content) :
    (conclude path (.ok (name, content))).on session =
      match placeFor session.directory path base name with
      | .error fault => (.error fault, session)
      | .ok place =>
        (.ok (Path.join path name),
          Session.record { session with directory := session.directory.put place (.file content) }
            (storedNote (Path.join path name) content)) := by
  rw [conclude, on_bind_of_ok (on_ofExcept _ _)]
  dsimp only
  rw [on_bind, on_write, write_join ready plain]
  cases placeFor session.directory path base name <;> rfl

theorem on_dumpAccount_of_hasFolder {session : Session} {path : String}
    (answers : session.node.Answers) (folder : session.directory.hasFolder path = true)
    (client : Client) (address : String) :
    let found := inquiry session.node address
    (dumpAccount client address (.str path)).on session =
      (conclude path found.outcome).on (session.asking client found.requests found.notes) := by
  rw [on_dumpAccount answers, makeFolders_of_hasFolder folder]

/-- What becomes of an address: the requests, the notes, and the path, the place and the content of
the file, or why none is stored. -/
structure Dumped where
  requests : List Call
  notes : List Note
  outcome : Except Fault (String × Place × Content)

def dumped (node : Node) (directory : Directory) (path : String) (base : Place) (address : String) :
    Dumped :=
  let found := inquiry node address
  match found.outcome with
  | .error fault => ⟨found.requests, found.notes, .error fault⟩
  | .ok (name, content) =>
    match placeFor directory path base name with
    | .error fault => ⟨found.requests, found.notes, .error fault⟩
    | .ok place =>
      ⟨found.requests, found.notes ++ [storedNote (Path.join path name) content],
        .ok (Path.join path name, place, content)⟩

def Dumped.files (done : Dumped) (directory : Directory) : Directory :=
  match done.outcome with
  | .error _ => directory
  | .ok (_, place, content) => directory.put place (.file content)

theorem on_dumpAccount_of_ready {session : Session} {path : String} {base : Place}
    (answers : session.node.Answers) (ready : Ready session.directory path base)
    (unlogged : session.logPlace = none) (client : Client) (address : String) :
    let done := dumped session.node session.directory path base address
    (dumpAccount client address (.str path)).on session =
      (done.outcome.map fun stored => stored.1,
        Session.asking { session with directory := done.files session.directory } client
            done.requests done.notes) := by
  rw [on_dumpAccount_of_hasFolder answers ready.hasFolder, dumped]
  dsimp only
  cases outcome : (inquiry session.node address).outcome with
  | error fault => rfl
  | ok file =>
      obtain ⟨name, content⟩ := file
      obtain ⟨⟨key, named⟩, ending, listed, rfl⟩ := name_of_inquiry outcome
      have still := Session.directory_asking unlogged client (inquiry session.node address).requests
        (inquiry session.node address).notes
      rw [on_conclude (still ▸ ready) (plainName_of_read named listed), still]
      dsimp only
      cases placeFor session.directory path base (address ++ ending) with
      | error fault => rfl
      | ok place =>
          dsimp only [Except.map, Dumped.files]
          rw [← Session.asking_withFiles unlogged, Session.record_eq_asking _ client,
            Session.asking_asking, List.append_nil]

def failureNotes {α : Type} (address : String) : Except Fault α → List Note
  | .error fault =>
    [⟨.dumping, .error, "Failed to dump account " ++ address ++ ": " ++ fault.message⟩]
  | .ok _ => []

def Stray {α : Type} (outcome : Except Fault α) : Prop :=
  ∃ fault, outcome = .error fault ∧ fault.isRefusal = false

def Dumped.leave (done : Dumped) (client : Client) (address : String) (session : Session) :
    Session :=
  Session.asking { session with directory := done.files session.directory } client done.requests
    (done.notes ++ failureNotes address done.outcome)

section Step

variable {session : Session} {path : String} {base : Place} {address : String}

theorem on_tryDumpAccount_of_fine (answers : session.node.Answers)
    (ready : Ready session.directory path base) (unlogged : session.logPlace = none)
    (client : Client)
    (fine : ¬ Stray (dumped session.node session.directory path base address).outcome) :
    (tryDumpAccount client (.str path) address).on session =
      (.ok (), (dumped session.node session.directory path base address).leave client address
        session) := by
  rw [tryDumpAccount, on_tryCatch, on_discard, on_dumpAccount_of_ready answers ready unlogged,
    Dumped.leave]
  dsimp only
  cases outcome : (dumped session.node session.directory path base address).outcome with
  | ok stored =>
      rw [failureNotes, List.append_nil]
      rfl
  | error fault =>
      have refusal : ¬ (!fault.isRefusal) = true := fun other =>
        fine ⟨fault, outcome, by rwa [Bool.not_eq_true'] at other⟩
      dsimp only [Except.map]
      rw [if_neg refusal, on_note, Session.record_eq_asking _ client, Session.asking_asking,
        List.append_nil]
      rfl

theorem on_tryDumpAccount_of_stray (answers : session.node.Answers)
    (ready : Ready session.directory path base) (unlogged : session.logPlace = none)
    (client : Client)
    (stray : Stray (dumped session.node session.directory path base address).outcome) :
    Stray ((tryDumpAccount client (.str path) address).on session).1 := by
  obtain ⟨fault, outcome, other⟩ := stray
  refine ⟨fault, ?_, other⟩
  rw [tryDumpAccount, on_tryCatch, on_discard, on_dumpAccount_of_ready answers ready unlogged,
    outcome]
  dsimp only [Except.map]
  rw [other, Bool.not_false, if_pos rfl]
  rfl

end Step

/-! ### One address after the other -/

section Run

variable {session : Session} {path : String} {base : Place}

theorem Ready.of_sameFolders {before after : Directory} (ready : Ready before path base)
    (same : SameFolders before after) : Ready after path base where
  located := locate_of_keepsFolders same.keeps ready.located
  folder := (same base).mpr ready.folder

theorem placeFor_of_sameFolders {before after : Directory} (same : SameFolders before after)
    (path : String) (base : Place) : placeFor after path base = placeFor before path base := by
  funext name
  simp only [placeFor, same (base ++ [name])]

theorem dumped_of_sameFolders {before after : Directory} (same : SameFolders before after)
    (node : Node) (path : String) (base : Place) :
    dumped node after path base = dumped node before path base := by
  funext address
  rw [dumped, dumped, placeFor_of_sameFolders same]

theorem placeFor_eq_ok {directory : Directory} {name : String} {place : Place}
    (placed : placeFor directory path base name = .ok place) :
    place = base ++ [name] ∧ ¬ pathLimit < (Path.join path name).utf8ByteSize ∧
      directory.entry? place ≠ some .folder := by
  rw [placeFor] at placed
  split_ifs at placed with long folder
  cases placed
  exact ⟨rfl, long, folder⟩

theorem dumped_eq_ok {node : Node} {directory : Directory} {address file : String} {place : Place}
    {content : Content}
    (stored : (dumped node directory path base address).outcome = .ok (file, place, content)) :
    ∃ name, (inquiry node address).outcome = .ok (name, content) ∧ file = Path.join path name ∧
      place = base ++ [name] ∧ ¬ pathLimit < (Path.join path name).utf8ByteSize ∧
      directory.entry? place ≠ some .folder := by
  rw [dumped] at stored
  cases outcome : (inquiry node address).outcome with
  | error fault =>
      rw [outcome] at stored
      cases stored
  | ok found =>
      obtain ⟨name, text⟩ := found
      rw [outcome] at stored
      dsimp only at stored
      cases placed : placeFor directory path base name with
      | error fault =>
          rw [placed] at stored
          cases stored
      | ok here =>
          rw [placed] at stored
          cases stored
          exact ⟨name, rfl, rfl, placeFor_eq_ok placed⟩

theorem sameFolders_files (node : Node) (directory : Directory) (path : String) (base : Place)
    (address : String) :
    SameFolders directory ((dumped node directory path base address).files directory) := by
  rw [Dumped.files]
  cases outcome : (dumped node directory path base address).outcome with
  | error fault => exact SameFolders.refl directory
  | ok stored =>
      obtain ⟨file, place, content⟩ := stored
      obtain ⟨name, -, -, -, -, notFolder⟩ := dumped_eq_ok outcome
      exact sameFolders_put notFolder content

theorem directory_leave (unlogged : session.logPlace = none) (done : Dumped) (client : Client)
    (address : String) :
    (done.leave client address session).directory = done.files session.directory :=
  Session.directory_asking (by exact unlogged) _ _ _

theorem logPlace_leave (unlogged : session.logPlace = none) (done : Dumped) (client : Client)
    (address : String) :
    (done.leave client address session).logPlace = none :=
  (Session.logPlace_asking _ _ _ _).trans unlogged

theorem node_leave (done : Dumped) (client : Client) (address : String) :
    (done.leave client address session).node = session.node := Session.node_asking _ _ _ _

theorem sameFolders_leave (unlogged : session.logPlace = none) (client : Client) (path : String)
    (base : Place) (address : String) :
    SameFolders session.directory
      ((dumped session.node session.directory path base address).leave client address
        session).directory := by
  rw [directory_leave unlogged]
  exact sameFolders_files session.node session.directory path base address

/-- So what the others come to stays the same. -/
theorem dumped_leave (unlogged : session.logPlace = none) (client : Client) (path : String)
    (base : Place) (address : String) :
    let after := (dumped session.node session.directory path base address).leave client
      address session
    dumped after.node after.directory path base =
        dumped session.node session.directory path base := by
  dsimp only
  rw [node_leave]
  exact dumped_of_sameFolders (sameFolders_leave unlogged client path base address) session.node
    path base

theorem on_forM_of_fine {todo : List String} (answers : session.node.Answers)
    (ready : Ready session.directory path base) (unlogged : session.logPlace = none)
    (client : Client)
    (fine : ∀ address ∈ todo,
      ¬ Stray (dumped session.node session.directory path base address).outcome) :
    (todo.forM (tryDumpAccount client (.str path))).on session =
      (.ok (), todo.foldl (fun reached address =>
        (dumped session.node session.directory path base address).leave client address reached)
          session) := by
  induction todo generalizing session with
  | nil => rfl
  | cons address rest ih =>
      have here := on_tryDumpAccount_of_fine answers ready unlogged client
        (fine address List.mem_cons_self)
      have still := sameFolders_leave unlogged client path base address
      have same := dumped_leave unlogged client path base address
      have later := @ih ((dumped session.node session.directory path base address).leave client
        address session)
        (by rwa [node_leave]) (ready.of_sameFolders still)
          (logPlace_leave unlogged _ client address)
        (by rw [same]; exact fun other member => fine other (List.mem_cons_of_mem address member))
      rw [same] at later
      rw [List.foldl_cons, ← later, on_forM_cons, on_bind_of_ok here]

theorem stray_forM {todo : List String} (answers : session.node.Answers)
    (ready : Ready session.directory path base) (unlogged : session.logPlace = none)
    (client : Client)
    (stray : ∃ address ∈ todo,
      Stray (dumped session.node session.directory path base address).outcome) :
    Stray ((todo.forM (tryDumpAccount client (.str path))).on session).1 := by
  induction todo generalizing session with
  | nil =>
      obtain ⟨address, member, -⟩ := stray
      cases member
  | cons address rest ih =>
      rw [on_forM_cons]
      by_cases first : Stray (dumped session.node session.directory path base address).outcome
      · obtain ⟨fault, failed, other⟩ :=
          on_tryDumpAccount_of_stray answers ready unlogged client first
        refine ⟨fault, ?_, other⟩
        rw [on_bind]
        rcases reached : (tryDumpAccount client (.str path) address).on
          session with ⟨outcome, after⟩
        rw [reached] at failed
        obtain rfl : outcome = .error fault := failed
        rfl
      · rw [on_bind_of_ok (on_tryDumpAccount_of_fine answers ready unlogged client first)]
        -- The account before left the node and the folders as they were, so the accounts behind it
        -- come to the same.
        have still := sameFolders_leave unlogged client path base address
        have same := dumped_leave unlogged client path base address
        refine ih (by rwa [node_leave]) (ready.of_sameFolders still)
          (logPlace_leave unlogged _ client address) ?_
        rw [same]
        obtain ⟨other, member, stray⟩ := stray
        rcases List.mem_cons.mp member with rfl | member
        · exact absurd stray first
        · exact ⟨other, member, stray⟩

end Run

theorem foldl_leave {session : Session} (unlogged : session.logPlace = none)
    (each : String → Dumped) (client : Client) (todo : List String) :
    todo.foldl (fun reached address => (each address).leave client address reached) session =
      Session.asking
        { session with
          directory := todo.foldl (fun directory address =>
            (each address).files directory) session.directory }
        client (todo.flatMap fun address => (each address).requests)
        (todo.flatMap fun address =>
            (each address).notes ++ failureNotes address (each address).outcome) := by
  induction todo generalizing session with
  | nil => exact (Session.asking_nil session client).symm
  | cons address rest ih =>
      have here (files : Directory) :
        { (each address).leave client address session with directory := files } =
          Session.asking { session with directory := files } client (each address).requests
            ((each address).notes ++ failureNotes address (each address).outcome) := by
        rw [Dumped.leave,
          Session.asking_withFiles unlogged ((each address).files session.directory),
          Session.asking_withFiles unlogged files]
      rw [List.foldl_cons, ih (logPlace_leave unlogged _ client address), here,
        Session.asking_asking, directory_leave unlogged]
      rfl

/-- No file goes to the top, and those of two addresses do not go to the same place. -/
structure Apart (each : String → Dumped) : Prop where
  below : ∀ {address file place content}, (each address).outcome = .ok (file, place, content) →
    place ≠ []
  separate : ∀ {first second file other place content text},
    (each first).outcome = .ok (file, place, content) →
    (each second).outcome = .ok (other, place, text) → first = second

/-- In the end a file is there if it was stored, or if it was there and nothing was stored in its
place. -/
theorem entry_foldl_files {each : String → Dumped} (apart : Apart each) (todo : List String)
    (directory : Directory) (place : Place) (content : Content) :
    Directory.entry? (todo.foldl (fun directory address =>
      (each address).files directory) directory) place =
        some (.file content) ↔
      (∃ address ∈ todo, ∃ file, (each address).outcome = .ok (file, place, content)) ∨
        (∀ address ∈ todo, ∀ file other, (each address).outcome ≠ .ok (file, place, other)) ∧
          directory.entry? place = some (.file content) := by
  induction todo generalizing directory with
  | nil => simp
  | cons address rest ih =>
      rw [List.foldl_cons, ih, List.exists_mem_cons_iff, List.forall_mem_cons, Dumped.files]
      cases outcome : (each address).outcome with
      | error fault => simp
      | ok stored =>
          obtain ⟨file, here, text⟩ := stored
          dsimp only
          by_cases same : here = place
          · subst same
            rw [entry_put_self (apart.below outcome)]
            constructor
            · rintro (later | ⟨-, last⟩)
              · exact .inl (.inr later)
              · cases last
                exact .inl (.inl ⟨file, rfl⟩)
            · rintro ((⟨_, last⟩ | later) | ⟨⟨none, -⟩, -⟩)
              · cases last
                -- A later file at this place is of the same address, and so it has the same
                -- content.
                by_cases again : ∃ other ∈ rest, ∃ file text,
                  (each other).outcome = .ok (file, here, text)
                · obtain ⟨other, member, file, text, stored⟩ := again
                  obtain rfl := apart.separate outcome stored
                  exact .inl ⟨_, member, _, outcome⟩
                · exact .inr ⟨fun other member file text stored => again ⟨other, member, file, text,
                    stored⟩, rfl⟩
              · exact .inl later
              · exact absurd rfl (none file text)
          · rw [entry_put_of_ne (Ne.symm same)]
            simp [same]

theorem apart_dumped (node : Node) (directory : Directory) (path : String) (base : Place) :
    Apart (dumped node directory path base) where
  below := by
    intro address file place content stored
    obtain ⟨name, -, -, rfl, -⟩ := dumped_eq_ok stored
    exact List.append_ne_nil_of_right_ne_nil base (List.cons_ne_nil name [])
  separate := by
    intro first second file other place content text stored also
    obtain ⟨name, found, -, rfl, -⟩ := dumped_eq_ok stored
    obtain ⟨last, again, -, same, -⟩ := dumped_eq_ok also
    obtain rfl : name = last := List.singleton_injective (List.append_cancel_left same)
    obtain ⟨⟨key, named⟩, ending, listed, rfl⟩ := name_of_inquiry found
    obtain ⟨⟨other, otherNamed⟩, last, lastListed, same⟩ := name_of_inquiry again
    apply String.toList_inj.mp
    rw [← takeWhile_name named listed, same, takeWhile_name otherNamed lastListed]

end Job

end TxTemplate
