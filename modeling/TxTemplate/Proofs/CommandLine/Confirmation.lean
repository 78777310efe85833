import TxTemplate.Proofs.CommandLine.Run
import TxTemplate.Proofs.Confirmed.Reproduce
import TxTemplate.Proofs.Job.Submit

set_option autoImplicit false

/-! What is told of a confirmed transaction. Once a transaction is confirmed, the job and the whole
run end as the two reads behind it say: they succeed where the node answers both and tells of the
transaction, and fail where the answer is missing, an error, or none that can be read. -/

namespace TxTemplate

open Session TxTemplate.Action Job

namespace Command

/-- Commands that submit a transaction and read what became of it. -/
def Submits : Command → Prop
  | .execute _ _ | .transfer _ _ _ _ | .createAssociated _ _ _ | .closeAssociated _ _ _ => True
  | _ => False

def submitting : List String := ["exec-tx", "send-sol", "create-ata", "close-ata"]

theorem submits_of_ofInvocation {invocation : CommandLine.Invocation} {command : Command}
    (submits : invocation.command ∈ submitting) (named : ofInvocation invocation = .ok command) :
    command.Submits := by
  obtain ⟨name, config, arguments⟩ := invocation
  simp only [submitting, List.mem_cons, List.not_mem_nil, or_false] at submits
  rcases submits with rfl | rfl | rfl | rfl
  all_goals
    obtain ⟨first, -, same⟩ := Outcome.bind_eq_ok.mp named
    cases same
    trivial

theorem concludes_perform (settings : Settings) {command : Command} (submits : command.Submits) :
    Concludes (fun _ => ⟨⟩) (command.perform settings) := by
  have opened : ∀ work : Client → Action Unit, (∀ client, Concludes (fun _ => ⟨⟩) (work client)) →
      Concludes (fun _ => ⟨⟩) (do
        let client ← Client.make (command.endpoint settings) settings.commitment settings.retries
        Client.closing (work client)) := fun work concludes =>
    .bind_left (follows_liftM _) fun client => (concludes client).closing
  cases command with
  | execute template params =>
      exact opened _ fun client => (concludes_executeFile client template params).discard
  | transfer source destination amount keypair =>
      exact opened _ fun client => .bind_left (follows_liftM _) fun lamports =>
        (concludes_transfer client source _ lamports _).discard
  | createAssociated owner mint keypair =>
      exact opened _ fun client => (concludes_executeInstruction client _ _).discard
  | closeAssociated owner mint keypair =>
      exact opened _ fun client => (concludes_executeInstruction client _ _).discard
  | _ => exact submits.elim

end Command

namespace CommandLine

theorem follows_startLog (file : Json) : Follows Unconfirmed (startLog file) := by
  unfold startLog
  split
  · split
    · refine follows_files.bind fun directory => (follows_liftM _).bind fun opened => ?_
      exact follows_modify fun session => unconfirmed_of_same rfl rfl rfl
    · exact follows_throw _
  · exact follows_pure _

theorem concludes_perform (settings : Settings) {invocation : Invocation}
    (submits : invocation.command ∈ Command.submitting) :
    Concludes (fun _ => ⟨⟩) (perform settings invocation) := by
  rw [perform]
  cases named : Command.ofInvocation invocation with
  | error fault => exact concludes_of_follows fun session => refl_of AddsNoConfirm session
  | ok command =>
      exact Command.concludes_perform settings (Command.submits_of_ofInvocation submits named)

/-- How a run that waited for a transaction ends: as the verdict on it says. -/
theorem run_concludes {texts : List String} {invocation : Invocation}
    (accepted : parse texts = .ok invocation) (submits : invocation.command ∈ Command.submitting)
    (session : Session) :
    ∃ made, ((run texts).run session).2.calls = session.calls ++ made ∧
      ∀ early signature commitment late, made = early ++ .confirm signature commitment :: late →
        ((run texts).run session).1 =
          endingOf (verdict signature session.node (Call.awaitedIn early)) := by
  rw [run_of_parse accepted]
  cases Settings.loadWith session.readers session.directory session.environment
    invocation.config with
  | error fault =>
      refine ⟨[], ?_, fun early signature commitment late same => ?_⟩
      · dsimp only
        split <;> simp
      · simp at same
  | ok settings =>
      dsimp only
      -- Opening the log comes first and waits for nothing; where it fails the command is not run.
      have start := follows_startLog settings.logFile { session with threshold := settings.level }
      have starts : Concludes (fun _ => ⟨⟩) (startLog settings.logFile >>= fun _ =>
        perform settings invocation) :=
        .bind_left (follows_startLog settings.logFile) fun _ => concludes_perform settings submits
      obtain ⟨made, added, concluded⟩ := starts.verdict { session with threshold := settings.level }
      rcases opened : (startLog settings.logFile).on
        { session with threshold := settings.level } with
        ⟨outcome, started⟩
      rw [opened] at start
      cases outcome with
      | error fault =>
          rw [run_runWith, opened]
          obtain ⟨early, all, none⟩ := start.addsNoConfirm
          refine ⟨early, all, ?_⟩
          rintro before signature commitment late rfl
          exact absurd trivial (none (.confirm signature commitment) (by simp))
      | ok _ =>
          rw [on_bind_of_ok opened] at added concluded
          obtain ⟨ending, calls⟩ := run_runWith_of_ok invocation opened
          refine ⟨made, calls.trans added, fun early signature commitment late same => ?_⟩
          rw [ending, concluded early signature commitment late same]
          cases verdict signature session.node (Call.awaitedIn early) <;> rfl

end CommandLine

/-! ### What is told of a confirmed transaction -/

/-- A transaction is waited for after so many calls that wait for an answer. Where the node has a
fault in store for that call, the fault is raised. Else the transaction is confirmed, and its
submission gives its signature exactly when the two reads behind that call are answered and the
answer about the transaction tells of it; where the answer denies it, or a fault that is reported
comes in place of an answer, the submission fails with a fault that is reported. A run of a command
that submits a transaction is done, or ends with the exit code of a failure, in the same two
cases. -/
theorem returns_iff_tells (session : Session) :
    (∀ client compiled payer, ∃ made,
      ((execute client compiled payer).on session).2.calls = session.calls ++ made ∧
      ∀ early signature commitment late, made = early ++ .confirm signature commitment :: late →
        (∀ fault, session.node.interruption? (Call.awaitedIn early) = some fault →
          ((execute client compiled payer).on session).1 = .error (.node fault)) ∧
        (session.node.interruption? (Call.awaitedIn early) = none →
          (((execute client compiled payer).on session).1 = .ok signature ↔
            Told session.node (Call.awaitedIn early + 1)) ∧
          ((∃ fault, ((execute client compiled payer).on session).1 = .error fault ∧
            fault.isReported = true) ↔
            Refused session.node (Call.awaitedIn early + 1)))) ∧
    ∀ texts invocation, CommandLine.parse texts = .ok invocation →
      invocation.command ∈ Command.submitting →
      ∃ made, ((CommandLine.run texts).run session).2.calls = session.calls ++ made ∧
        ∀ early signature commitment late, made = early ++ .confirm signature commitment :: late →
          session.node.interruption? (Call.awaitedIn early) = none →
            (((CommandLine.run texts).run session).1 = .done ↔
              Told session.node (Call.awaitedIn early + 1)) ∧
            (((CommandLine.run texts).run session).1 = .exit 1 ↔
              Refused session.node (Call.awaitedIn early + 1)) := by
  constructor
  · intro client compiled payer
    obtain ⟨made, added, concluded⟩ := (concludes_execute client compiled payer).verdict session
    refine ⟨made, added, fun early signature commitment late same => ?_⟩
    rw [concluded early signature commitment late same]
    refine ⟨fun fault raised => ?_, fun confirmed => ?_⟩
    · rw [verdict, Node.waiting, raised]
      rfl
    · rw [verdict_of_confirmed confirmed, ← followUp_eq_ok_iff signature,
        ← followUp_isReported_iff signature]
      cases followUp signature session.node (Call.awaitedIn early + 1) <;> simp [Except.map]
  · intro texts invocation accepted submits
    obtain ⟨made, added, concluded⟩ := CommandLine.run_concludes accepted submits session
    refine ⟨made, added, fun early signature commitment late same confirmed => ?_⟩
    rw [concluded early signature commitment late same, verdict_of_confirmed confirmed,
      CommandLine.endingOf_eq_done, CommandLine.endingOf_eq_exit, followUp_eq_ok_iff,
      followUp_isReported_iff]
    exact ⟨Iff.rfl, Iff.rfl⟩

theorem exists_sign_paidMessage :
    ∃ signed, SignedTransaction.sign [feePayer] paidMessage = .ok signed := by
  have asked : (!paidMessage.isWritable || !SignedTransaction.allAsked [feePayer] paidMessage) =
    false := by decide
  have signer : SignedTransaction.keypairOf? [feePayer] feePayer.address = some feePayer := by
    decide
  have signers : paidMessage.signers = [feePayer.address] := by decide
  have signatures : SignedTransaction.signatures? [feePayer] paidMessage =
      some [feePayer.sign paidMessage.wire] := by
    simp only [SignedTransaction.signatures?, signers, List.mapM_cons, List.mapM_nil, signer]
    rfl
  refine ⟨⟨[feePayer.sign paidMessage.wire], paidMessage⟩, ?_⟩
  unfold SignedTransaction.sign
  simp only [asked, signatures]
  rfl

def paidClient : Client := ⟨"http://127.0.0.1:8899", "confirmed", 1⟩

def paidTransaction : CompiledTransaction := ⟨[paidInstruction], [feePayer], []⟩

/-- A node that takes every transaction and gives these answers about it. -/
def answeringSession (answers : List Json) : Session :=
  .start .empty [] { Node.silent with answers := [("getTransaction", answers)] }

theorem exists_submission_paidTransaction (answers : List Json) :
    ∃ after, (submission paidClient paidTransaction none).on (answeringSession answers) =
      (.ok (feePayer.address, 0, Node.signature), after) := by
  obtain ⟨signed, signs⟩ := exists_sign_paidMessage
  have signing : ∀ session, ((liftM (SignedTransaction.sign paidTransaction.signers paidMessage) :
      Action SignedTransaction).on session).1 = .ok signed := fun session => signs
  rw [submission, on_bind_of_outcome feePayer.address rfl, on_bind_of_outcome [] rfl,
    on_bind_of_outcome Address.systemProgram rfl, on_bind_of_outcome paidMessage rfl,
    on_bind_of_outcome signed (signing _), on_bind_of_outcome 0 rfl,
    on_bind_of_outcome Node.signature rfl]
  exact ⟨_, rfl⟩

def tellingAnswer : Json := .obj [("result", .obj [("meta", .null)])]

def paymentLine : List String :=
  ["send-sol", feePayer.address.text, Address.systemProgram.text, "5", Base58.text feePayer.secret]

theorem parse_paymentLine : ∃ invocation, CommandLine.parse paymentLine = .ok invocation ∧
    invocation.command ∈ Command.submitting := by
  have named : (CommandLine.parse paymentLine).toOption.map (fun invocation => invocation.command) =
      some "send-sol" := by decide +kernel
  obtain ⟨invocation, accepted, command⟩ := Option.map_eq_some_iff.mp named
  exact ⟨invocation, Outcome.toOption_eq_some.mp accepted, by rw [command]; decide⟩

def Call.awaited? : Call → Option String
  | .confirm signature _ => some signature
  | _ => none

theorem confirm_mem_run_paymentLine {answers : List Json}
    (known : answers ∈ [[], [tellingAnswer]]) :
    ∃ commitment, Call.confirm Node.signature commitment ∈
      ((CommandLine.run paymentLine).run (answeringSession answers)).2.calls := by
  have awaited : ∀ answers ∈ [[], [tellingAnswer]], ((CommandLine.run paymentLine).run
      (answeringSession answers)).2.calls.filterMap Call.awaited? =
        [Node.signature] := by decide +kernel
  have member := List.mem_singleton_self Node.signature
  rw [← awaited answers known, List.mem_filterMap] at member
  obtain ⟨call, made, waits⟩ := member
  cases call with
  | confirm signature commitment =>
      cases Option.some.inj waits
      exact ⟨commitment, made⟩
  | _ => cases waits

theorem interruption?_answeringSession (answers : List Json) (index : Nat) :
    (answeringSession answers).node.interruption? index = none := rfl

/-- A payment that the node has confirmed, and of which it then tells, gives its signature; on the
command line it is done. -/
theorem returns_paidTransaction :
    (∃ commitment, Call.confirm Node.signature commitment ∈
      ((execute paidClient paidTransaction none).on (answeringSession [tellingAnswer])).2.calls) ∧
    ((execute paidClient paidTransaction none).on (answeringSession [tellingAnswer])).1 =
      .ok Node.signature ∧
    (∃ commitment, Call.confirm Node.signature commitment ∈
      ((CommandLine.run paymentLine).run (answeringSession [tellingAnswer])).2.calls) ∧
    ((CommandLine.run paymentLine).run (answeringSession [tellingAnswer])).1 = .done := by
  have tells : Tells tellingAnswer := ⟨_, _, rfl, rfl, rfl, .inl rfl⟩
  have told (index : Nat) : Told (answeringSession [tellingAnswer]).node index := ⟨rfl, tells, rfl⟩
  obtain ⟨submitted, ran⟩ := returns_iff_tells (answeringSession [tellingAnswer])
  obtain ⟨after, taken⟩ := exists_submission_paidTransaction [tellingAnswer]
  obtain ⟨made, added, concluded⟩ := submitted paidClient paidTransaction none
  obtain ⟨invocation, accepted, submits⟩ := parse_paymentLine
  obtain ⟨calls, all, ended⟩ := ran paymentLine invocation accepted submits
  obtain ⟨commitment, member⟩ :=
    confirm_mem_run_paymentLine (List.mem_cons_of_mem [] (List.mem_singleton_self _))
  have waited := confirm_mem_of_submission taken
  refine ⟨⟨_, waited⟩, ?_, ⟨commitment, member⟩, ?_⟩
  · rw [added] at waited
    obtain ⟨early, late, same⟩ := List.append_of_mem waited
    exact ((concluded early _ _ late same).2 (interruption?_answeringSession _ _)).1.mpr (told _)
  · rw [all] at member
    obtain ⟨early, late, same⟩ := List.append_of_mem member
    exact (ended early _ _ late same (interruption?_answeringSession _ _)).1.mpr (told _)

/-- A payment that the node has confirmed fails all the same where no answer about it comes, and on
the command line it ends with the exit code of a failure. -/
theorem unanswered_paidTransaction :
    (∀ index, (answeringSession []).node.interruption? index = none) ∧
    (∃ commitment, Call.confirm Node.signature commitment ∈
      ((execute paidClient paidTransaction none).on (answeringSession [])).2.calls) ∧
    ((execute paidClient paidTransaction none).on (answeringSession [])).1 =
      .error (.disconnected "getTransaction") ∧
    (∃ commitment, Call.confirm Node.signature commitment ∈
      ((CommandLine.run paymentLine).run (answeringSession [])).2.calls) ∧
    ((CommandLine.run paymentLine).run (answeringSession [])).1 = .exit 1 := by
  obtain ⟨after, taken⟩ := exists_submission_paidTransaction []
  have waited := confirm_mem_of_submission taken
  obtain ⟨made, added, concluded⟩ :=
    (concludes_execute paidClient paidTransaction none).verdict (answeringSession [])
  obtain ⟨invocation, accepted, submits⟩ := parse_paymentLine
  obtain ⟨calls, all, ended⟩ := CommandLine.run_concludes accepted submits (answeringSession [])
  obtain ⟨commitment, member⟩ := confirm_mem_run_paymentLine List.mem_cons_self
  refine ⟨interruption?_answeringSession [], ⟨_, waited⟩, ?_, ⟨commitment, member⟩, ?_⟩
  · rw [added] at waited
    obtain ⟨early, late, same⟩ := List.append_of_mem waited
    exact concluded early _ _ late same
  · rw [all] at member
    obtain ⟨early, late, same⟩ := List.append_of_mem member
    exact ended early _ _ late same

end TxTemplate
