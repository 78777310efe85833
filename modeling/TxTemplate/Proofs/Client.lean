import TxTemplate.Node.Client
import TxTemplate.Proofs.Session

set_option autoImplicit false

/-! Calls to a node, one at a time: what a call comes to and the session that it leaves. A call that
waits for its answer uses up what the node has in store for it, a fault or nothing. -/

namespace TxTemplate

open TxTemplate.Action

namespace Node

/-- What comes in place of the answer to a call, counted from the next one on. -/
def interruption? (node : Node) (index : Nat) : Option NodeFault := node.interruptions[index]?.join

/-- The waiting for an answer, counted from the next one on. -/
def waiting (node : Node) (index : Nat) : Except Fault Unit :=
  match node.interruption? index with
  | none => .ok ()
  | some fault => .error (.node fault)

def passing (node : Node) (count : Nat) : Node :=
  { node with interruptions := node.interruptions.drop count }

variable (node : Node)

variable {node} in
theorem waiting_of_drop {after : Node} {count : Nat}
    (used : after.interruptions = node.interruptions.drop count) (index : Nat) :
    after.waiting index = node.waiting (count + index) := by
  simp only [waiting, interruption?, used, List.getElem?_drop]

theorem waiting_eq_ok {index : Nat} :
    node.waiting index = .ok () ↔ node.interruption? index = none := by
  unfold waiting
  split <;> simp_all

theorem nextInterruption_eq : node.nextInterruption = (node.interruption? 0, node.passing 1) := by
  obtain ⟨accounts, balances, tokenBalance, blockhash, sends, answers, interruptions⟩ := node
  cases interruptions <;> rfl

def Answers : Prop := node.interruptions = []

variable {node}

theorem Answers.waiting (answers : node.Answers) (index : Nat) : node.waiting index = .ok () := by
  rw [waiting_eq_ok, interruption?, show node.interruptions = [] from answers]
  rfl

theorem Answers.passing (answers : node.Answers) (count : Nat) : node.passing count = node := by
  obtain ⟨accounts, balances, tokenBalance, blockhash, sends, others, interruptions⟩ := node
  obtain rfl : interruptions = [] := answers
  rw [Node.passing, List.drop_nil]

end Node

namespace Client

variable (client : Client)

/-- The connection is opened where requests are made and none is open. -/
def opening (connected : Bool) (requests : List Call) : List Call :=
  if connected || requests.isEmpty then [] else [.connect client.endpoint client.commitment]

theorem on_await (session : Session) :
    await.on session = (session.node.waiting 0,
      { session with node := session.node.passing 1 }) := by
  rw [await, on_bind_of_ok (on_get session), Node.nextInterruption_eq]
  dsimp only
  rw [on_bind_of_ok (on_set _ _), Node.waiting]
  cases session.node.interruption? 0 <;> rfl

theorem on_connect (session : Session) :
    client.connect.on session =
      (.ok ⟨⟩, { session with
        calls := session.calls ++ if session.connected then []
          else [.connect client.endpoint client.commitment]
        connected := true }) := by
  obtain ⟨directory, environment, readers, node, connected, calls, notes, threshold, logPlace⟩ :=
    session
  cases connected with
  | true =>
      rw [if_pos rfl, List.append_nil]
      rfl
  | false => rfl

theorem on_reach (call : Call) (session : Session) :
    (client.reach call).on session =
      (session.node.waiting 0, { session with
        calls := session.calls ++ (client.opening session.connected [call] ++ [call])
        connected := true
        node := session.node.passing 1 }) := by
  rw [reach, on_bind_of_ok (on_connect client session), on_bind_of_ok (on_call _ _), on_await,
    opening, List.isEmpty_cons, Bool.or_false, ← List.append_assoc]
  rfl

/-- A request uses up what the node has in store for one call, and an answer where there is one. -/
theorem on_request (method : String) (params : List Json) (session : Session) :
    ∃ node, node.interruptions = session.node.interruptions.drop 1 ∧
      (client.request method params).on session =
        (session.node.waiting 0 >>= fun _ => resultOf method (session.node.nextAnswer method).1,
          { session.call (.post client.endpoint (requestBody method params)) with node :=
              node }) := by
  rw [request, on_bind_of_ok (on_call _ session), on_bind, on_await]
  cases waited : (session.call (.post client.endpoint (requestBody method params))).node.waiting
    0 with
  | error fault =>
      have same : session.node.waiting 0 = .error fault := waited
      rw [same]
      exact ⟨session.node.passing 1, rfl, rfl⟩
  | ok _ =>
      have same : session.node.waiting 0 = .ok () := waited
      rw [same]
      exact ⟨_, rfl, on_ofExcept _ _⟩

theorem on_closing {α : Type} (work : Action α) (session : Session) :
    (closing work).on session = ((work.on session).1, (close.on (work.on session).2).2) := rfl

end Client

end TxTemplate
