import TxTemplate.Proofs.Job.Submit

set_option autoImplicit false

/-! Trying again. A submission that the node refuses is made once more after a pause, and each pause
is twice as long as the one before. What the node does with the submissions decides how often that
happens and what comes of it. A job waits for nothing but a submission that the node took. -/

namespace TxTemplate

open Session TxTemplate.Action

namespace Node

/-- What becomes of a submission, counted from the next one on. -/
def sendAt (node : Node) (index : Nat) : Except NodeFault String :=
  node.sends[index]?.getD (.ok signature)

/-- How many submissions are refused before one is taken. -/
def refusals (node : Node) : Nat := (node.sends.takeWhile fun outcome => !outcome.isOk).length

theorem nextSend_eq (node : Node) :
    node.nextSend = (node.sendAt 0, { node with sends := node.sends.drop 1 }) := by
  obtain ⟨accounts, balances, tokenBalance, blockhash, sends, answers, interruptions⟩ := node
  cases sends <;> rfl

theorem sendAt_drop (node : Node) (count index : Nat) :
    ({ node with sends := node.sends.drop count } : Node).sendAt index =
        node.sendAt (count + index) := by
  rw [sendAt, sendAt, List.getElem?_drop]

theorem refusals_of_taken {node : Node} {taken : String} (here : node.sendAt 0 = .ok taken) :
    node.refusals = 0 := by
  obtain ⟨accounts, balances, tokenBalance, blockhash, sends, answers, interruptions⟩ := node
  cases sends with
  | nil => rfl
  | cons outcome rest =>
      obtain rfl : outcome = .ok taken := here
      rfl

theorem refusals_of_refused {node : Node} {fault : NodeFault}
    (here : node.sendAt 0 = .error fault) :
    node.refusals = ({ node with sends := node.sends.drop 1 } : Node).refusals + 1 := by
  obtain ⟨accounts, balances, tokenBalance, blockhash, sends, answers, interruptions⟩ := node
  cases sends with
  | nil => cases here
  | cons outcome rest =>
      obtain rfl : outcome = .error fault := here
      rfl

theorem sendAt_refusals (node : Node) :
    (∀ index < node.refusals, ∃ fault, node.sendAt index = .error fault) ∧
      ∃ taken, node.sendAt node.refusals = .ok taken := by
  obtain ⟨accounts, balances, tokenBalance, blockhash, sends, answers, interruptions⟩ := node
  induction sends with
  | nil => exact ⟨fun _ less => absurd less (Nat.not_lt_zero _), signature, rfl⟩
  | cons outcome rest ih =>
      cases outcome with
      | ok taken => exact ⟨fun _ less => absurd less (Nat.not_lt_zero _), taken, rfl⟩
      | error fault =>
          obtain ⟨refused, taken⟩ := ih
          refine ⟨fun index less => ?_, taken⟩
          cases index with
          | zero => exact ⟨fault, rfl⟩
          | succ index => exact refused index (Nat.lt_of_succ_lt_succ less)

end Node

/-! ### Attempts -/

/-- A call, and further ones of it behind pauses that double. -/
def retried (call : Call) (count : Nat) : List Call :=
  call :: (List.range (count - 1)).flatMap fun index => [.pause (Nat.pow 2 index), call]

def retriedFrom (call : Call) (attempt again : Nat) : List Call :=
  call :: (List.range' attempt again).flatMap fun index => [.pause (Nat.pow 2 index), call]

theorem retriedFrom_zero (call : Call) (again : Nat) :
    retriedFrom call 0 again = retried call (again + 1) := by
  rw [retried, List.range_eq_range']
  rfl

theorem retriedFrom_succ (call : Call) (attempt again : Nat) :
    retriedFrom call attempt (again + 1) =
      call :: .pause (Nat.pow 2 attempt) :: retriedFrom call (attempt + 1) again := by
  rw [retriedFrom, List.range'_succ, List.flatMap_cons]
  rfl

namespace Client

variable (client : Client) (payload : String) (skipPreflight : Bool)

theorem on_submit (session : Session) :
    (client.submit payload skipPreflight).on session =
      (.ok (session.node.sendAt 0),
        { session.call (.send payload skipPreflight client.commitment) with
          node := { session.node with sends := session.node.sends.drop 1 } }) := by
  rw [submit, on_bind_of_ok (on_call _ session), on_bind_of_ok (on_get _), Node.nextSend_eq]
  rfl

/-- What so many attempts come to: calls, what is left for later submissions, and the outcome of the
last. -/
structure Tried (call : Call) (attempt again : Nat) (before : Session)
    (result : Except Fault String × Session) :
    Prop where
  calls : result.2.calls = before.calls ++ retriedFrom call attempt again
  sends : result.2.node.sends = before.node.sends.drop (again + 1)
  outcome : result.1 = (before.node.sendAt again).mapError .node

/-- An attempt that is refused, the pause behind it, and what comes of the further attempts. -/
theorem Tried.refused {call : Call} {attempt again : Nat} {before paused : Session}
    {result : Except Fault String × Session}
    (waited : paused.calls = before.calls ++ [call, .pause (Nat.pow 2 attempt)])
    (used : paused.node = { before.node with sends := before.node.sends.drop 1 })
    (later : Tried call (attempt + 1) again paused result) :
    Tried call attempt (again + 1) before result where
  calls := by
    rw [later.calls, waited, retriedFrom_succ, List.append_assoc]
    rfl
  sends := by rw [later.sends, used, List.drop_drop, Nat.add_comm]
  outcome := by rw [later.outcome, used, Node.sendAt_drop, Nat.add_comm]

theorem tried_submitUpTo (attempt left : Nat) (session : Session) :
    Tried (.send payload skipPreflight client.commitment) attempt
      (min session.node.refusals left) session
      ((client.submitUpTo payload skipPreflight attempt (left + 1)).on session) := by
  -- On the attempts left over. The number of those made is general, since the pauses go on
  -- doubling.
  induction left generalizing attempt session with
  | zero =>
      rw [Nat.min_zero, submitUpTo, on_bind, on_submit]
      cases here : session.node.sendAt 0 with
      | ok taken => exact ⟨rfl, rfl, by rw [here]; rfl⟩
      | error fault =>
          dsimp only
          rw [if_pos rfl, on_bind, on_note]
          dsimp only
          rw [on_throw]
          exact ⟨by rw [calls_record]; rfl, by rw [node_record], by rw [here]; rfl⟩
  | succ left ih =>
      rw [submitUpTo, on_bind, on_submit]
      cases here : session.node.sendAt 0 with
      | ok taken =>
          rw [Node.refusals_of_taken here, Nat.zero_min]
          exact ⟨rfl, rfl, by rw [here]; rfl⟩
      | error fault =>
          dsimp only
          rw [if_neg (Nat.succ_ne_zero left), on_bind, on_note]
          dsimp only
          rw [on_bind, on_call, Node.refusals_of_refused here, Nat.add_min_add_right]
          generalize warned : Session.record _ _ = noted
          have node : noted.node = { session.node with sends := session.node.sends.drop 1 } := by
            rw [← warned, node_record]
          have calls : noted.calls = session.calls ++
              [.send payload skipPreflight client.commitment] := by
            rw [← warned, calls_record]
            rfl
          have later := ih (attempt + 1) (noted.call (.pause (pauseAfter attempt)))
          have waited : (noted.call (.pause (pauseAfter attempt))).calls =
              session.calls ++ [.send payload skipPreflight client.commitment,
                  .pause (Nat.pow 2 attempt)] := by
            rw [Session.call, calls, List.append_assoc]
            rfl
          rw [← node]
          exact Tried.refused waited node later

/-- Submitting opens the connection if there is none, and then makes the attempts that there are to
make. -/
theorem tried_send (positive : 1 ≤ client.retries) (session : Session) :
    Tried (.send payload skipPreflight client.commitment) 0
      (min session.node.refusals (client.retries - 1))
      { session with
        calls := session.calls ++ if session.connected then []
          else [.connect client.endpoint client.commitment] }
      ((client.send payload skipPreflight).on session) := by
  have attempts := tried_submitUpTo client payload skipPreflight 0 (client.retries - 1)
    (client.connect.on session).2
  rw [Nat.sub_add_cancel positive] at attempts
  rw [send, on_bind_of_ok (on_connect client session)]
  rw [on_connect] at attempts
  exact ⟨attempts.calls, attempts.sends, attempts.outcome⟩

end Client

namespace Job

/-- What a run of a job does about waiting: nothing at all, or once. Then a submission was made
before, the node took it, and its signature is what is waited for. -/
def Waits (client : Client) (compiled : CompiledTransaction) (payer : Option Address)
    (session : Session) : Prop :=
  session.AddsNoConfirm ((execute client compiled payer).on session).2 ∨
    ∃ prepared before signature sent early late,
      (preparation client compiled payer).on session = (.ok prepared, before) ∧
      (client.send prepared.2.2 false).on before = (.ok signature, sent) ∧
      session.AddsNoConfirm sent ∧
      ((execute client compiled payer).on session).2.calls =
        sent.calls ++ (early ++ .confirm signature client.commitment :: late) ∧
      ∀ call ∈ early ++ late, ¬ call.IsConfirm

theorem execute_eq_preparation (client : Client) (compiled : CompiledTransaction)
    (payer : Option Address) :
    execute client compiled payer = (do
      let prepared ← preparation client compiled payer
      let signature ← client.send prepared.2.2 false
      conclusion client prepared.1 prepared.2.1 signature) := by
  rw [execute_eq, submission_eq]
  simp only [bind_assoc, pure_bind]

theorem waits (client : Client) (compiled : CompiledTransaction) (payer : Option Address)
    (session : Session) :
    Waits client compiled payer session := by
  have unwaited := (follows_preparation client compiled payer session).addsNoConfirm
  rw [Waits, execute_eq_preparation, on_bind]
  rcases prepares : (preparation client compiled payer).on session with ⟨outcome, before⟩
  rw [prepares] at unwaited
  cases outcome with
  | error fault => exact .inl unwaited
  | ok prepared =>
      have still := (client.follows_send prepared.2.2 false before).addsNoConfirm
      dsimp only
      rw [on_bind]
      rcases sends : (client.send prepared.2.2 false).on before with ⟨outcome, sent⟩
      rw [sends] at still
      cases outcome with
      | error fault => exact .inl (trans_of AddsNoConfirm unwaited still)
      | ok signature =>
          obtain ⟨early, late, added, others, -⟩ :=
            on_conclusion client prepared.1 prepared.2.1 signature sent
          exact .inr ⟨prepared, before, signature, sent, early, late, rfl, sends,
            trans_of AddsNoConfirm unwaited still, added, others⟩

/-- Submitting with a number of attempts. The node refuses so many submissions before it takes one;
the transaction is submitted once more than that, but not more often than attempts are allowed, with
pauses of 1, 2, 4 and so on between. The result is the signature of the one that was taken, or the
fault of the last attempt. A job waits once at most, after submitting, for the signature that
submitting gave it. -/
theorem send_retries_and_execute_waits (endpoint commitment : String) (n : Nat) (positive : 1 ≤ n) :
    ∃ client, Client.make endpoint commitment n = .ok client ∧
      (∀ payload skipPreflight session,
        let result := (client.send payload skipPreflight).on session
        let attempts := min (session.node.refusals + 1) n
        result.2.calls =
            (session.calls ++ if session.connected then [] else [.connect endpoint commitment]) ++
              retried (.send payload skipPreflight commitment) attempts ∧
          result.2.node.sends = session.node.sends.drop attempts ∧
          (session.node.refusals < n →
            ∃ taken, session.node.sendAt session.node.refusals = .ok taken ∧ result.1 = .ok taken) ∧
          (n ≤ session.node.refusals →
            ∃ fault, session.node.sendAt (n - 1) = .error fault ∧
              result.1 = .error (.node fault))) ∧
      ∀ compiled payer session, Waits client compiled payer session := by
  have allowed : ¬ (n : Int) < 1 := by omega
  refine ⟨⟨endpoint, commitment, n⟩, by rw [Client.make, if_neg allowed]; rfl, ?_,
      fun compiled payer session =>
    waits _ compiled payer session⟩
  intro payload skipPreflight session
  have tried := Client.tried_send ⟨endpoint, commitment, n⟩ payload skipPreflight positive session
  have count : min session.node.refusals (n - 1) + 1 = min (session.node.refusals + 1) n := by omega
  obtain ⟨refused, taken, taking⟩ := session.node.sendAt_refusals
  refine ⟨?_, ?_, fun few => ⟨taken, taking, ?_⟩, fun many => ?_⟩
  · rw [tried.calls, retriedFrom_zero, count]
  · rw [tried.sends, count]
  · rw [tried.outcome, Nat.min_eq_left (Nat.le_sub_one_of_lt few), taking]
    rfl
  · obtain ⟨fault, failing⟩ := refused (n - 1) (by omega)
    refine ⟨fault, failing, ?_⟩
    rw [tried.outcome, Nat.min_eq_right (show n - 1 ≤ session.node.refusals by omega), failing]
    rfl

/-- A node that cannot be reached twice, and then takes what is submitted. -/
def waveringSession : Session :=
  Session.start Directory.empty [] { Node.silent with
    sends := [.error ⟨.transport, "no route"⟩, .error ⟨.transport, "no answer"⟩, .ok "signature"] }

theorem send_waveringSession :
    1 ≤ 3 ∧ ∃ client, Client.make "http://node" "confirmed" (3 : Nat) = .ok client ∧
      ((client.send "AQ==" false).on waveringSession).2.calls =
        [.connect "http://node" "confirmed", .send "AQ==" false "confirmed", .pause 1,
          .send "AQ==" false "confirmed", .pause 2, .send "AQ==" false "confirmed"] ∧
      ((client.send "AQ==" false).on waveringSession).1 = .ok "signature" := by
  obtain ⟨client, made, sends, -⟩ :=
    send_retries_and_execute_waits "http://node" "confirmed" 3 (by decide)
  obtain ⟨calls, -, takes, -⟩ := sends "AQ==" false waveringSession
  obtain ⟨taken, here, result⟩ := takes (by decide)
  obtain rfl : "signature" = taken := Except.ok.inj here
  exact ⟨by decide, client, made, calls, result⟩

end Job

end TxTemplate
