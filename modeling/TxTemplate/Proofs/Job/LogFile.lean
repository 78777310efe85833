import TxTemplate.Proofs.Job.Dump

set_option autoImplicit false

/-! Storing accounts with a log file. Notes are taken between the writes, so the log file grows
while the others are stored. But for that file a run is as one without it: it comes out the same,
makes the same requests, takes the same notes and leaves the same files. -/

namespace TxTemplate

open TxTemplate.Action Directory

namespace Action

variable {α β : Type} {log : Option Place} {unlogged session : Session}

/-- Two runs come out the same, and their sessions differ in the log file alone. -/
structure RunsApart (log : Option Place) (unlogged run : Except Fault α × Session) : Prop where
  outcome : run.1 = unlogged.1
  after : Session.LogsApart log unlogged.2 run.2

theorem RunsApart.bind {work : Action α} {next : α → Action β}
    (first : RunsApart log (work.on unlogged) (work.on session))
    (later : ∀ value, (work.on unlogged).1 = .ok value →
      RunsApart log ((next value).on (work.on unlogged).2) ((next value).on (work.on session).2)) :
    RunsApart log ((work >>= next).on unlogged) ((work >>= next).on session) := by
  rw [on_bind, on_bind]
  obtain ⟨same, apart⟩ := first
  rcases reached : work.on unlogged with ⟨result, after⟩
  rcases reaches : work.on session with ⟨last, other⟩
  rw [reached, reaches] at same later apart
  obtain rfl : last = result := same
  cases last with
  | error fault => exact ⟨rfl, apart⟩
  | ok value => exact later value rfl

theorem RunsApart.tryCatch {work : Action α} {handler : Fault → Action α}
    (first : RunsApart log (work.on unlogged) (work.on session))
    (later : ∀ fault, RunsApart log ((handler fault).on (work.on unlogged).2)
      ((handler fault).on (work.on session).2)) :
    RunsApart log ((tryCatch work handler).on unlogged) ((tryCatch work handler).on session) := by
  rw [on_tryCatch, on_tryCatch]
  obtain ⟨same, apart⟩ := first
  rcases reached : work.on unlogged with ⟨result, after⟩
  rcases reaches : work.on session with ⟨last, other⟩
  rw [reached, reaches] at same later apart
  obtain rfl : last = result := same
  cases last with
  | error fault => exact later fault
  | ok value => exact ⟨rfl, apart⟩

end Action

namespace Job

section Apart

variable {log : Option Place} {unlogged session : Session} {path : String} {base : Place}

theorem runsApart_conclude (apart : Session.LogsApart log unlogged session)
    (ready : Ready unlogged.directory path base) {name : String} (plain : PlainName name)
    (content : Content) :
    RunsApart log ((conclude path (.ok (name, content))).on unlogged)
      ((conclude path (.ok (name, content))).on session) := by
  rw [on_conclude ready plain, on_conclude (ready.of_sameFolders apart.folders) plain,
    placeFor_of_sameFolders apart.folders]
  cases placed : placeFor unlogged.directory path base name with
  | error fault => exact ⟨rfl, apart⟩
  | ok place => exact ⟨rfl, (apart.put (placeFor_eq_ok placed).2.2 content).record _⟩

theorem runsApart_dumpAccount (answers : session.node.Answers)
    (apart : Session.LogsApart log unlogged session) (ready : Ready unlogged.directory path base)
    (client : Client) (address : String) :
    RunsApart log ((dumpAccount client address (.str path)).on unlogged)
      ((dumpAccount client address (.str path)).on session) := by
  rw [on_dumpAccount_of_hasFolder (apart.node ▸ answers) ready.hasFolder,
    on_dumpAccount_of_hasFolder answers (ready.of_sameFolders apart.folders).hasFolder, apart.node]
  have asked := apart.asking client (inquiry session.node address).requests
    (inquiry session.node address).notes
  cases found : (inquiry session.node address).outcome with
  | error fault => exact ⟨rfl, asked⟩
  | ok file =>
      obtain ⟨name, content⟩ := file
      obtain ⟨⟨key, named⟩, ending, listed, rfl⟩ := name_of_inquiry found
      have still := Session.directory_asking apart.quiet client
        (inquiry session.node address).requests (inquiry session.node address).notes
      exact runsApart_conclude asked (still ▸ ready) (plainName_of_read named listed) content

theorem runsApart_tryDumpAccount (answers : session.node.Answers)
    (apart : Session.LogsApart log unlogged session) (ready : Ready unlogged.directory path base)
    (client : Client) (address : String) :
    RunsApart log ((tryDumpAccount client (.str path) address).on unlogged)
      ((tryDumpAccount client (.str path) address).on session) := by
  have dumped := runsApart_dumpAccount answers apart ready client address
  refine RunsApart.tryCatch ?_ fun fault => ?_
  · rw [on_discard, on_discard]
    exact ⟨congrArg (Except.map fun _ => PUnit.unit) dumped.outcome, dumped.after⟩
  · rw [on_discard, on_discard]
    by_cases refusal : (!fault.isRefusal) = true
    · rw [if_pos refusal]
      exact ⟨rfl, dumped.after⟩
    · rw [if_neg refusal]
      exact ⟨rfl, dumped.after.record _⟩

theorem runsApart_forM (answers : session.node.Answers)
    (apart : Session.LogsApart log unlogged session) (ready : Ready unlogged.directory path base)
    (client : Client) (todo : List String) :
    RunsApart log ((todo.forM (tryDumpAccount client (.str path))).on unlogged)
      ((todo.forM (tryDumpAccount client (.str path))).on session) := by
  induction todo generalizing unlogged session with
  | nil => exact ⟨rfl, apart⟩
  | cons address rest ih =>
      have first := runsApart_tryDumpAccount answers apart ready client address
      have still : unlogged.node.Answers := apart.node ▸ answers
      refine first.bind fun _ done => ?_
      have fine : ¬ Stray (dumped unlogged.node unlogged.directory path base address).outcome := by
        intro stray
        obtain ⟨fault, failed, -⟩ := on_tryDumpAccount_of_stray still ready apart.quiet client stray
        rw [done] at failed
        cases failed
      have after := first.after
      rw [on_tryDumpAccount_of_fine still ready apart.quiet client fine] at after ⊢
      refine ih (by rwa [← after.node, node_leave]) after ?_
      exact ready.of_sameFolders (sameFolders_leave apart.quiet client path base address)

end Apart

end Job

end TxTemplate
