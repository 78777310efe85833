import TxTemplate.CommandLine.Run
import TxTemplate.Proofs.Client

set_option autoImplicit false

/-! Submitting, step by step. Up to the call that waits for the transaction nothing asks for answers
about it; behind that call only the reads that follow on it decide what a job comes to. -/

namespace TxTemplate

namespace Call

def IsConfirm : Call → Prop
  | .confirm _ _ => True
  | _ => False

/-- Calls that wait for an answer. Submissions have theirs on their own. -/
def isAwaited : Call → Bool
  | .connect _ _ | .close | .send _ _ _ | .pause _ => false
  | _ => true

def awaitedIn (calls : List Call) : Nat := calls.countP isAwaited

theorem awaitedIn_append (first later : List Call) :
    awaitedIn (first ++ later) = awaitedIn first + awaitedIn later :=
  List.countP_append

end Call

namespace Session

/-- Calls were only added, and none of them waits for a transaction. -/
def AddsNoConfirm (before after : Session) : Prop :=
  ∃ made, after.calls = before.calls ++ made ∧ ∀ call ∈ made, ¬ call.IsConfirm

/-- Nothing was waited for: the answers of the node are still to come, and of its interruptions only
those of the calls that were made are gone. -/
def Unconfirmed (before after : Session) : Prop :=
  ∃ made, after.calls = before.calls ++ made ∧ (∀ call ∈ made, ¬ call.IsConfirm) ∧
    after.node.answers = before.node.answers ∧
    after.node.interruptions = before.node.interruptions.drop (Call.awaitedIn made)

theorem Unconfirmed.addsNoConfirm {before after : Session} :
    before.Unconfirmed after → before.AddsNoConfirm after :=
  fun ⟨made, added, others, _⟩ => ⟨made, added, others⟩

theorem addsNoConfirm_of_calls_eq {before after : Session} (same : after.calls = before.calls) :
    before.AddsNoConfirm after :=
  ⟨[], by rw [same, List.append_nil], fun _ member => absurd member List.not_mem_nil⟩

theorem addsNoConfirm_call (session : Session) {call : Call} (other : ¬ call.IsConfirm) :
    session.AddsNoConfirm (session.call call) :=
  ⟨[call], rfl, fun _ member => List.mem_singleton.mp member ▸ other⟩

theorem unconfirmed_of_same {before after : Session} (calls : after.calls = before.calls)
    (answers : after.node.answers = before.node.answers)
    (interruptions : after.node.interruptions = before.node.interruptions) :
    before.Unconfirmed after :=
  ⟨[], by rw [calls, List.append_nil], fun _ member => absurd member List.not_mem_nil, answers,
    interruptions⟩

instance : IsPreorder Session AddsNoConfirm where
  refl session := addsNoConfirm_of_calls_eq rfl
  trans first middle last := by
    rintro ⟨early, reached, earlyOther⟩ ⟨late, ended, lateOther⟩
    refine ⟨early ++ late, by rw [ended, reached, List.append_assoc], ?_⟩
    rw [List.forall_mem_append]
    exact ⟨earlyOther, lateOther⟩

instance : IsPreorder Session Unconfirmed where
  refl session := unconfirmed_of_same rfl rfl rfl
  trans first middle last := by
    rintro ⟨early, reached, earlyOther, answered, used⟩
      ⟨late, ended, lateOther, answers, interruptions⟩
    refine ⟨early ++ late, by rw [ended, reached, List.append_assoc], ?_,
      answers.trans answered, ?_⟩
    · rw [List.forall_mem_append]
      exact ⟨earlyOther, lateOther⟩
    · rw [interruptions, used, List.drop_drop, Call.awaitedIn_append]

def KeepsNode (before after : Session) : Prop := after.node = before.node

instance : IsPreorder Session KeepsNode where
  refl _ := rfl
  trans _ _ _ earlier later := later.trans earlier

theorem unconfirmed_record (session : Session) (note : Note) :
    session.Unconfirmed (session.record note) :=
  unconfirmed_of_same (calls_record session note) (by rw [node_record]) (by rw [node_record])

end Session

open Session TxTemplate.Action

theorem Action.Follows.addsNoConfirm {α : Type} {work : Action α}
    (follows : Follows Unconfirmed work) :
    Follows AddsNoConfirm work := follows.mono fun _ _ unconfirmed => unconfirmed.addsNoConfirm

theorem Action.follows_note (topic : Topic) (level : Level) (text : String) :
    Follows Unconfirmed (note topic level text) := fun session => unconfirmed_record session _

theorem Action.follows_call {made : Call} (other : ¬ made.IsConfirm)
    (unawaited : made.isAwaited = false) :
    Follows Unconfirmed (call made) := by
  intro session
  refine ⟨[made], rfl, fun _ member => List.mem_singleton.mp member ▸ other, rfl, ?_⟩
  rw [Call.awaitedIn, List.countP_singleton, unawaited]
  rfl

namespace Client

variable (client : Client)

theorem unconfirmed_opening (connected : Bool) (requests : List Call) :
    ∀ call ∈ client.opening connected requests, ¬ call.IsConfirm ∧ call.isAwaited = false := by
  unfold opening
  split <;> simp [Call.IsConfirm, Call.isAwaited]

theorem awaitedIn_opening (connected : Bool) (requests : List Call) :
    Call.awaitedIn (client.opening connected requests) = 0 := by
  rw [Call.awaitedIn, List.countP_eq_zero]
  exact fun call member => by simp [(unconfirmed_opening client connected requests call member).2]

theorem follows_connect : Follows Unconfirmed client.connect := by
  intro session
  rw [on_connect]
  cases session.connected with
  | true => exact unconfirmed_of_same (List.append_nil _) rfl rfl
  | false => exact ⟨[_], rfl, fun _ member => List.mem_singleton.mp member ▸ id, rfl, rfl⟩

theorem follows_reach {call : Call} (other : ¬ call.IsConfirm) (awaited : call.isAwaited = true) :
    Follows Unconfirmed (client.reach call) := by
  intro session
  rw [on_reach]
  refine ⟨_, rfl, ?_, rfl, ?_⟩
  · rw [List.forall_mem_append, List.forall_mem_singleton]
    exact ⟨fun made member => (unconfirmed_opening client _ _ made member).1, other⟩
  · rw [Call.awaitedIn_append, awaitedIn_opening, Call.awaitedIn, List.countP_singleton, awaited]
    rfl

theorem follows_accountInfo (address : Address) :
    Follows Unconfirmed (client.accountInfo address) := by
  refine (follows_reach client id rfl).bind fun _ => follows_get.bind fun session => ?_
  split
  · exact follows_pure _
  · exact follows_throw _

theorem follows_balance (address : Address) : Follows Unconfirmed (client.balance address) := by
  refine (follows_reach client id rfl).bind fun _ session => unconfirmed_of_same rfl ?_ ?_
  · show session.node.nextBalance.2.answers = _
    rw [Node.nextBalance]
    split <;> rfl
  · show session.node.nextBalance.2.interruptions = _
    rw [Node.nextBalance]
    split <;> rfl

theorem outcome_on_balance (address : Address) (session : Session) :
    ((client.balance address).on session).1.map (fun _ => ()) = session.node.waiting 0 := by
  rw [balance, on_bind, on_reach]
  cases session.node.waiting 0 <;> rfl

theorem follows_latestBlockhash : Follows Unconfirmed client.latestBlockhash :=
  (follows_reach client id rfl).bind fun _ => follows_get.bind fun _ => follows_pure _

theorem follows_lookupTable (address : Address) :
    Follows Unconfirmed (client.lookupTable address) :=
  (follows_accountInfo client address).bind fun _ => follows_ofExcept _

theorem follows_submit (payload : String) (skipPreflight : Bool) :
    Follows Unconfirmed (client.submit payload skipPreflight) := by
  refine (follows_call id rfl).bind fun _ session => unconfirmed_of_same rfl ?_ ?_
  · show session.node.nextSend.2.answers = _
    rw [Node.nextSend]
    split <;> rfl
  · show session.node.nextSend.2.interruptions = _
    rw [Node.nextSend]
    split <;> rfl

theorem follows_submitUpTo (payload : String) (skipPreflight : Bool) (attempt left : Nat) :
    Follows Unconfirmed (client.submitUpTo payload skipPreflight attempt left) := by
  induction left generalizing attempt with
  | zero => exact follows_throw _
  | succ left ih =>
      refine (follows_submit client payload skipPreflight).bind fun outcome => ?_
      cases outcome with
      | ok signature => exact follows_pure _
      | error fault =>
          dsimp only
          split
          · exact (follows_note _ _ _).bind fun _ => follows_throw _
          · exact (follows_note _ _ _).bind fun _ => (follows_call id rfl).bind fun _ =>
              ih (attempt + 1)

theorem follows_close : Follows Unconfirmed close := by
  refine follows_get.bind fun session => ?_
  split
  · refine (follows_call id rfl).bind fun _ => ?_
    exact follows_modify fun session => unconfirmed_of_same rfl rfl rfl
  · exact follows_pure _

theorem follows_request (method : String) (params : List Json) :
    Follows AddsNoConfirm (client.request method params) := by
  intro session
  obtain ⟨node, -, requested⟩ := on_request client method params session
  rw [requested]
  exact addsNoConfirm_call session id

theorem follows_transaction (signature : String) :
    Follows AddsNoConfirm (client.transaction signature) := by
  refine (follows_request client _ _).bind fun transaction => ?_
  split
  · exact (follows_throw _).bind fun _ => follows_pure _
  · exact follows_pure _

theorem follows_send (payload : String) (skipPreflight : Bool) :
    Follows Unconfirmed (client.send payload skipPreflight) :=
  (follows_connect client).bind fun _ =>
    follows_submitUpTo client payload skipPreflight 0 client.retries

end Client

/-! ### The answer about a confirmed transaction -/

namespace Job

/-- The transaction that an answer tells of. -/
def transactionIn (signature : String) (answer : Json) : Except Fault Json := do
  let transaction ← Client.resultOf "getTransaction" answer
  if transaction matches .null then throw (.answer (.transactionAbsent signature))
  pure transaction

/-- What the notes on a confirmed transaction read of its record. -/
def readRecord (record : Json) : Except Fault Unit := do
  let log ← record.fieldOrNull "logMessages"
  let _ ← (log.orElse (.arr [])).elements
  let _ ← record.fieldOrNull "computeUnitsConsumed"
  pure ()

/-- What they read of the answer about it. -/
def readAnswer (signature : String) (answer : Json) : Except Fault Unit := do
  let transaction ← transactionIn signature answer
  let record ← recordOf transaction
  readRecord record

/-- Lines of a log that can be gone through; there may be none. -/
def IsLog (lines : Json) : Prop :=
  lines.isTruthy = false ∨ ∃ items, lines.elements = .ok items

/-- What the ledger recorded, if it did. -/
def IsRecord (record : Json) : Prop :=
  record.isTruthy = false ∨ ∃ fields, record = .obj fields ∧
    IsLog ((fields.lookup "logMessages").getD .null)

/-- An answer that tells of a transaction. -/
def Tells (answer : Json) : Prop :=
  ∃ fields transaction, answer = .obj fields ∧ fields.lookup "error" = none ∧
    fields.lookup "result" = some (.obj transaction) ∧
      IsRecord ((transaction.lookup "meta").getD .null)

/-- No answer, an answer with an error, or one without a transaction. -/
def Denies (answer : Json) : Prop :=
  answer = .null ∨ ∃ fields, answer = .obj fields ∧
    ((∃ cause, fields.lookup "error" = some cause) ∨ (fields.lookup "result").getD .null = .null)

theorem resultOf_obj (method : String) (fields : Fields) :
    Client.resultOf method (.obj fields) =
      match fields.lookup "error" with
      | some cause => .error (.answer (.refused method cause))
      | none => .ok ((fields.lookup "result").getD .null) := by
  unfold Client.resultOf
  simp only [Json.contains, Json.member, Json.fieldOrNull]
  cases fields.lookup "error" <;> rfl

theorem resultOf_eq_error (method : String) {answer : Json} (given : answer ≠ .null)
    (other : ∀ fields, answer ≠ .obj fields) :
    ∃ fault, Client.resultOf method answer = .error fault ∧ fault.isReported = false := by
  cases answer with
  | null => exact absurd rfl given
  | bool _ | int _ | float _ => exact ⟨_, rfl, rfl⟩
  | obj fields => exact absurd rfl (other fields)
  | str text =>
      unfold Client.resultOf
      simp only [Json.contains]
      cases Json.occursIn "error".toList text.toList <;> exact ⟨_, rfl, rfl⟩
  | arr items =>
      unfold Client.resultOf
      simp only [Json.contains]
      cases items.any (Json.isText "error") <;> exact ⟨_, rfl, rfl⟩

theorem transactionIn_obj (signature : String) {fields : Fields}
    (fine : fields.lookup "error" = none) :
    transactionIn signature (.obj fields) =
      match (fields.lookup "result").getD .null with
      | .null => .error (.answer (.transactionAbsent signature))
      | transaction => .ok transaction := by
  rw [transactionIn, resultOf_obj, fine]
  simp only [Outcome.ok_bind]
  cases (fields.lookup "result").getD .null <;> rfl

theorem elements_log (log : Json) :
    (∃ items, (log.orElse (.arr [])).elements = .ok items) ∧ IsLog log ∨
      (log.orElse (.arr [])).elements = .error (.shape .wrongKind) ∧ ¬ IsLog log := by
  rw [Json.orElse, IsLog]
  cases truthy : log.isTruthy with
  | false => exact .inl ⟨⟨[], rfl⟩, .inl rfl⟩
  | true =>
      rw [if_pos rfl]
      cases log with
      | null | bool _ | int _ | float _ => exact .inr ⟨rfl, by simp [Json.elements]⟩
      | str _ | arr _ | obj _ => exact .inl ⟨⟨_, rfl⟩, .inr ⟨_, rfl⟩⟩

theorem readRecord_orElse (record : Json) :
    readRecord (record.orElse (.obj [])) = .ok () ∧ IsRecord record ∨
      (∃ fault, readRecord (record.orElse (.obj [])) = .error fault ∧ fault.isReported = false) ∧
        ¬ IsRecord record := by
  rw [Json.orElse, IsRecord]
  cases truthy : record.isTruthy with
  | false => exact .inl ⟨rfl, .inl rfl⟩
  | true =>
      rw [if_pos rfl]
      cases record with
      | null | bool _ | int _ | float _ | str _ | arr _ => exact .inr ⟨⟨_, rfl, rfl⟩, by simp⟩
      | obj fields =>
          simp only [readRecord, Json.fieldOrNull, Outcome.ok_bind]
          rcases elements_log ((fields.lookup "logMessages").getD .null) with
            ⟨⟨items, listed⟩, log⟩ | ⟨unlisted, noLog⟩
          · exact .inl ⟨by rw [listed]; rfl, .inr ⟨fields, rfl, log⟩⟩
          · refine .inr ⟨⟨.shape .wrongKind, by rw [unlisted]; rfl, rfl⟩, ?_⟩
            rintro (impossible | ⟨others, same, log⟩)
            · cases impossible
            · cases same
              exact noLog log

/-- What becomes of an answer: it tells of the transaction, it denies it, or it cannot be read. -/
inductive AnswerReading (signature : String) (answer : Json) : Prop where
  | tells (read : readAnswer signature answer = .ok ()) (told : Tells answer)
      (undenied : ¬ Denies answer)
  | denies (fault : Fault) (refused : readAnswer signature answer = .error fault)
      (reported : fault.isReported = true) (untold : ¬ Tells answer) (denied : Denies answer)
  | malformed (fault : Fault) (unread : readAnswer signature answer = .error fault)
      (unreported : fault.isReported = false) (untold : ¬ Tells answer) (undenied : ¬ Denies answer)

theorem not_tells_of_not_obj {answer : Json} (other : ∀ fields, answer ≠ .obj fields) :
    ¬ Tells answer := by
  rintro ⟨fields, transaction, same, -⟩
  exact other fields same

theorem not_denies_obj {fields : Fields} (fine : fields.lookup "error" = none)
    (found : (fields.lookup "result").getD .null ≠ .null) : ¬ Denies (.obj fields) := by
  rintro (impossible | ⟨others, same, ⟨cause, refused⟩ | absent⟩)
  · cases impossible
  · cases same
    rw [fine] at refused
    cases refused
  · cases same
    exact found absent

theorem tells_obj_iff {fields transaction : Fields} (fine : fields.lookup "error" = none)
    (found : (fields.lookup "result").getD .null = .obj transaction) :
    Tells (.obj fields) ↔ IsRecord ((transaction.lookup "meta").getD .null) := by
  have given : fields.lookup "result" = some (.obj transaction) := by
    cases result : fields.lookup "result" with
    | none =>
        rw [result] at found
        cases found
    | some value =>
        rw [result] at found
        exact congrArg some found
  constructor
  · rintro ⟨others, another, same, -, result, record⟩
    cases same
    cases given.symm.trans result
    exact record
  · exact fun record => ⟨fields, transaction, rfl, fine, given, record⟩

theorem answerReading_obj (signature : String) {fields : Fields}
    (fine : fields.lookup "error" = none) :
    AnswerReading signature (.obj fields) := by
  have untold : ∀ value, (fields.lookup "result").getD .null = value →
    (∀ parts, value ≠ .obj parts) →
      ¬ Tells (.obj fields) := by
    rintro value found other ⟨others, transaction, same, -, result, -⟩
    cases same
    rw [result] at found
    exact other transaction found.symm
  have read := transactionIn_obj signature fine
  cases found : (fields.lookup "result").getD .null with
  | null =>
      rw [found] at read
      exact .denies _ (by rw [readAnswer, read]; rfl) rfl (untold _ found (by simp))
        (.inr ⟨fields, rfl, .inr found⟩)
  | bool _ | int _ | float _ | str _ | arr _ =>
      rw [found] at read
      exact .malformed (.shape .noFields) (by rw [readAnswer, read]; rfl) rfl
        (untold _ found (by simp))
        (not_denies_obj fine (by simp [found]))
  | obj transaction =>
      rw [found] at read
      have undenied := not_denies_obj fine (by simp [found])
      have same : readAnswer signature (.obj fields) =
          readRecord (((transaction.lookup "meta").getD .null).orElse (.obj [])) := by
        rw [readAnswer, read]
        rfl
      rcases readRecord_orElse ((transaction.lookup "meta").getD .null) with
        ⟨whole, record⟩ | ⟨⟨fault, failed, unreported⟩, noRecord⟩
      · exact .tells (same.trans whole) ((tells_obj_iff fine found).mpr record) undenied
      · exact .malformed fault (same.trans failed) unreported
          (fun told => noRecord ((tells_obj_iff fine found).mp told)) undenied

theorem answerReading (signature : String) (answer : Json) : AnswerReading signature answer := by
  by_cases object : ∃ fields, answer = .obj fields
  · obtain ⟨fields, rfl⟩ := object
    cases refused : fields.lookup "error" with
    | none => exact answerReading_obj signature refused
    | some cause =>
        refine .denies (.answer (.refused "getTransaction" cause)) ?_ rfl ?_
          (.inr ⟨fields, rfl, .inl ⟨cause, refused⟩⟩)
        · rw [readAnswer, transactionIn, resultOf_obj, refused]
          rfl
        · rintro ⟨others, transaction, same, fine, -⟩
          cases same
          rw [refused] at fine
          cases fine
  · have other : ∀ fields, answer ≠ .obj fields := fun fields same => object ⟨fields, same⟩
    by_cases given : answer = .null
    · subst given
      exact .denies (.disconnected "getTransaction") rfl rfl (not_tells_of_not_obj other) (.inl rfl)
    · obtain ⟨fault, failed, unreported⟩ := resultOf_eq_error "getTransaction" given other
      refine .malformed fault (by rw [readAnswer, transactionIn, failed]; rfl) unreported
        (not_tells_of_not_obj other) ?_
      rintro (impossible | ⟨fields, same, -⟩)
      · exact given impossible
      · exact other fields same

theorem readAnswer_eq_ok_iff (signature : String) (answer : Json) :
    readAnswer signature answer = .ok () ↔ Tells answer := by
  cases answerReading signature answer with
  | tells read told undenied => exact iff_of_true read told
  | denies fault failed _ untold _ | malformed fault failed _ untold _ =>
      exact iff_of_false (by simp [failed]) untold

theorem readAnswer_isReported_iff (signature : String) (answer : Json) :
    (∃ fault, readAnswer signature answer = .error fault ∧ fault.isReported = true) ↔
      Denies answer := by
  cases answerReading signature answer with
  | tells read told undenied => exact iff_of_false (by rw [read]; rintro ⟨_, ⟨⟩, _⟩) undenied
  | denies fault refused reported untold denied =>
      exact iff_of_true ⟨fault, refused, reported⟩ denied
  | malformed fault unread unreported untold undenied =>
      refine iff_of_false ?_ undenied
      rintro ⟨other, failed, reported⟩
      rw [unread] at failed
      cases failed
      rw [unreported] at reported
      cases reported

theorem outcome_on_transaction (client : Client) (signature : String) (session : Session) :
    ((client.transaction signature).on session).1 = (do
      session.node.waiting 0
      transactionIn signature (session.node.nextAnswer "getTransaction").1) := by
  obtain ⟨node, -, requested⟩ := client.on_request "getTransaction" _ session
  refine (outcome_on_bind (congrArg Prod.fst requested)
    fun transaction after => ?_).trans (bind_assoc _ _ _)
  cases transaction <;> rfl

theorem outcome_on_noteOutcome (client : Client) (signature : String) (session : Session) :
    ((noteOutcome client signature).on session).1 = (do
      session.node.waiting 0
      readAnswer signature (session.node.nextAnswer "getTransaction").1) := by
  refine (outcome_on_bind (outcome_on_transaction client signature session)
    fun transaction after => ?_).trans (bind_assoc _ _ _)
  refine outcome_on_bind (congrArg Prod.fst (on_liftM _ _)) fun record after => ?_
  refine outcome_on_bind (congrArg Prod.fst (on_liftM _ _)) fun log after => ?_
  refine outcome_on_bind (congrArg Prod.fst (on_liftM _ _)) fun lines after => ?_
  refine outcome_on_bind_of_ok (outcome_on_forM_note _ _ _ _) fun after => ?_
  exact outcome_on_bind (congrArg Prod.fst (on_liftM _ _)) fun units after => rfl

theorem interruptions_on_transaction (client : Client) (signature : String) (session : Session) :
    ((client.transaction signature).on session).2.node.interruptions =
      session.node.interruptions.drop 1 := by
  have kept : ∃ params, KeepsNode ((client.request "getTransaction" params).on session).2
      ((client.transaction signature).on session).2 := by
    refine ⟨_, follows_later (fun transaction => ?_) session⟩
    split
    · exact (follows_throw _).bind fun _ => follows_pure _
    · exact follows_pure _
  obtain ⟨params, kept⟩ := kept
  obtain ⟨node, left, requested⟩ := client.on_request "getTransaction" params session
  rw [show _ = _ from kept, requested, left]

theorem interruptions_on_noteOutcome (client : Client) (signature : String) (session : Session) :
    ((noteOutcome client signature).on session).2.node.interruptions =
      session.node.interruptions.drop 1 := by
  have noted (topic : Topic) (level : Level) (text : String) :
    Follows KeepsNode (note topic level text) :=
    fun session => node_record session _
  have kept : KeepsNode ((client.transaction signature).on session).2
      ((noteOutcome client signature).on session).2 := by
    refine follows_later (fun transaction => ?_) session
    refine (follows_liftM _).bind fun record => (follows_liftM _).bind fun log => ?_
    refine (follows_liftM _).bind fun lines => ?_
    refine (follows_forM ?_ lines).bind fun _ => ?_
    · exact fun line => noted _ _ line.display
    exact (follows_liftM _).bind fun units => noted _ _ _
  rw [show _ = _ from kept, interruptions_on_transaction]

/-! ### The reads that follow on a confirmation -/

/-- What they come to, counted from the first of them on: the answer about the transaction, then the
balance. -/
def followUp (signature : String) (node : Node) (index : Nat) : Except Fault Unit := do
  node.waiting index
  readAnswer signature (node.nextAnswer "getTransaction").1
  node.waiting (index + 1)

theorem followUp_of_drop {node after : Node} {count : Nat}
    (answers : after.answers = node.answers)
    (used : after.interruptions = node.interruptions.drop count) (signature : String)
    (index : Nat) :
    followUp signature after index = followUp signature node (count + index) := by
  simp only [followUp, Node.waiting_of_drop used, Node.nextAnswer, answers, Nat.add_assoc]

/-- The node answers both, and the first answer tells of the transaction. -/
def Told (node : Node) (index : Nat) : Prop :=
  node.interruption? index = none ∧ Tells (node.nextAnswer "getTransaction").1 ∧
    node.interruption? (index + 1) = none

/-- What fails first is an answer that denies the transaction, or a call with a fault that is
reported. -/
def Refused (node : Node) (index : Nat) : Prop :=
  (∃ fault, node.interruption? index = some fault ∧ (Fault.node fault).isReported = true) ∨
    node.interruption? index = none ∧
      (Denies (node.nextAnswer "getTransaction").1 ∨
        Tells (node.nextAnswer "getTransaction").1 ∧
          ∃ fault, node.interruption? (index + 1) = some fault ∧
            (Fault.node fault).isReported = true)

theorem followUp_eq_ok_iff (signature : String) (node : Node) (index : Nat) :
    followUp signature node index = .ok () ↔ Told node index := by
  rw [followUp, Told, ← readAnswer_eq_ok_iff signature, ← Node.waiting_eq_ok, ← Node.waiting_eq_ok]
  cases node.waiting index with
  | error fault => simp
  | ok _ => cases readAnswer signature (node.nextAnswer "getTransaction").1 <;> simp

theorem followUp_isReported_iff (signature : String) (node : Node) (index : Nat) :
    (∃ fault, followUp signature node index = .error fault ∧ fault.isReported = true) ↔
      Refused node index := by
  have read := readAnswer_isReported_iff signature (node.nextAnswer "getTransaction").1
  rw [followUp, Refused, ← read, ← readAnswer_eq_ok_iff signature, Node.waiting, Node.waiting]
  cases node.interruption? index with
  | some fault => simp
  | none =>
      cases readAnswer signature (node.nextAnswer "getTransaction").1 with
      | error fault => simp
      | ok _ => cases node.interruption? (index + 1) <;> simp

/-! ### Submitting and concluding -/

/-- Everything up to submitting: who pays, the earlier balance, the signed transaction as it is
sent. -/
def preparation (client : Client) (compiled : CompiledTransaction) (payer : Option Address) :
    Action (Address × Int × String) := do
  let payer ← payerOf compiled payer
  let tables ← compiled.lookupTables.mapM client.lookupTable
  let blockhash ← client.latestBlockhash
  let message ← messageFor compiled payer tables blockhash
  let signed ← SignedTransaction.sign compiled.signers message
  let earlier ← client.balance payer
  pure (payer, earlier, Base64.text signed.wire)

/-- Everything up to the node's taking the transaction: who pays, the earlier balance, the
signature. -/
def submission (client : Client) (compiled : CompiledTransaction) (payer : Option Address) :
    Action (Address × Int × String) := do
  let payer ← payerOf compiled payer
  let tables ← compiled.lookupTables.mapM client.lookupTable
  let blockhash ← client.latestBlockhash
  let message ← messageFor compiled payer tables blockhash
  let signed ← SignedTransaction.sign compiled.signers message
  let earlier ← client.balance payer
  let signature ← client.send (Base64.text signed.wire) false
  pure (payer, earlier, signature)

def conclusion (client : Client) (payer : Address) (earlier : Int) (signature : String) :
    Action String := do
  client.confirm signature
  Action.note .submitting .info ("Transaction sent: " ++ signature)
  noteOutcome client signature
  let later ← client.balance payer
  Action.note .submitting .info
    ("Balance changed: " ++ Amount.formatInt (later - earlier) ++ " lamports")
  pure signature

theorem execute_eq (client : Client) (compiled : CompiledTransaction) (payer : Option Address) :
    execute client compiled payer =
      submission client compiled payer >>= fun sent =>
        conclusion client sent.1 sent.2.1 sent.2.2 := by
  simp only [execute, submission, conclusion, bind_assoc, pure_bind]

theorem submission_eq (client : Client) (compiled : CompiledTransaction) (payer : Option Address) :
    submission client compiled payer = (do
      let prepared ← preparation client compiled payer
      let signature ← client.send prepared.2.2 false
      pure (prepared.1, prepared.2.1, signature)) := by
  simp only [submission, preparation, bind_assoc, pure_bind]

theorem follows_preparation (client : Client) (compiled : CompiledTransaction)
    (payer : Option Address) :
    Follows Unconfirmed (preparation client compiled payer) := by
  refine (follows_liftM _).bind fun payer => ?_
  refine (follows_mapM client.follows_lookupTable _).bind fun tables => ?_
  refine client.follows_latestBlockhash.bind fun blockhash => ?_
  refine (follows_liftM _).bind fun message => ?_
  refine (follows_liftM _).bind fun signed => ?_
  exact (client.follows_balance payer).bind fun earlier => follows_pure _

theorem follows_submission (client : Client) (compiled : CompiledTransaction)
    (payer : Option Address) :
    Follows Unconfirmed (submission client compiled payer) := by
  rw [submission_eq]
  refine (follows_preparation client compiled payer).bind fun prepared => ?_
  exact (client.follows_send _ false).bind fun signature => follows_pure _

/-- The call that waits for a transaction, and the reads that follow on it. -/
def verdict (signature : String) (node : Node) (index : Nat) : Except Fault Unit := do
  node.waiting index
  followUp signature node (index + 1)

theorem verdict_of_confirmed {signature : String} {node : Node} {index : Nat}
    (confirmed : node.interruption? index = none) :
    verdict signature node index = followUp signature node (index + 1) := by
  rw [verdict, (Node.waiting_eq_ok node).mpr confirmed]
  rfl

theorem verdict_of_unconfirmed {before after : Session} {made : List Call}
    (answers : after.node.answers = before.node.answers)
    (interruptions : after.node.interruptions =
      before.node.interruptions.drop (Call.awaitedIn made))
    (signature : String) (early : List Call) :
    verdict signature after.node (Call.awaitedIn early) =
      verdict signature before.node (Call.awaitedIn (made ++ early)) := by
  simp only [verdict, Node.waiting_of_drop interruptions, followUp_of_drop answers interruptions,
    Call.awaitedIn_append, Nat.add_assoc]

/-- An action that waits for one transaction at most, and once it has done so comes to the verdict
on it. -/
def Concludes {α : Type} (value : String → α) (work : Action α) : Prop :=
  ∀ session, session.AddsNoConfirm (work.on session).2 ∨
    ∃ early signature commitment late,
      (work.on session).2.calls = session.calls ++
        (early ++ .confirm signature commitment :: late) ∧
      (∀ call ∈ early ++ late, ¬ call.IsConfirm) ∧
      (work.on session).1 = (verdict signature session.node (Call.awaitedIn early)).map fun _ =>
        value signature

section Concludes

variable {α β : Type} {value : String → α} {work : Action α}

theorem concludes_of_follows (follows : Follows AddsNoConfirm work) : Concludes value work :=
  fun session => .inl (follows session)

theorem Concludes.bind_left {first : Action β} {next : β → Action α}
    (follows : Follows Unconfirmed first) (later : ∀ middle, Concludes value (next middle)) :
    Concludes value (first >>= next) := by
  intro session
  have start := follows session
  rw [on_bind]
  rcases reached : first.on session with ⟨outcome, after⟩
  rw [reached] at start
  cases outcome with
  | error fault => exact .inl start.addsNoConfirm
  | ok middle =>
      obtain unwaited | ⟨early, signature, commitment, late, ended, others, concluded⟩ :=
        later middle after
      · exact .inl (trans_of AddsNoConfirm start.addsNoConfirm unwaited)
      -- The calls made first use up as many of the interruptions as they wait for answers, which
      -- shifts the verdict by that number.
      · obtain ⟨made, added, none, answers, interruptions⟩ := start
        refine .inr ⟨made ++ early, signature, commitment, late, ?_, ?_, ?_⟩
        · dsimp only at added ⊢
          rw [ended, added, List.append_assoc, List.append_assoc]
        · rw [List.append_assoc, List.forall_mem_append]
          exact ⟨none, others⟩
        · exact concluded.trans (by rw [verdict_of_unconfirmed answers interruptions])

theorem Concludes.bind_right {next : α → Action β} {result : α → β}
    (concludes : Concludes value work)
    (succeeds : ∀ middle session, ((next middle).on session).1 = .ok (result middle))
    (follows : ∀ middle, Follows AddsNoConfirm (next middle)) :
    Concludes (fun signature => result (value signature)) (work >>= next) := by
  intro session
  have later : (work.on session).2.AddsNoConfirm ((work >>= next).on session).2 :=
    follows_later follows session
  obtain unwaited | ⟨early, signature, commitment, late, ended, others, concluded⟩ :=
    concludes session
  · exact .inl (trans_of AddsNoConfirm unwaited later)
  · obtain ⟨more, added, none⟩ := later
    refine .inr ⟨early, signature, commitment, late ++ more, ?_, ?_, ?_⟩
    · rw [added, ended, List.append_assoc, List.append_assoc, List.cons_append]
    · rw [← List.append_assoc, List.forall_mem_append]
      exact ⟨others, none⟩
    · rw [outcome_on_bind concluded succeeds]
      cases verdict signature session.node (Call.awaitedIn early) <;> rfl

theorem Concludes.discard (concludes : Concludes value work) :
    Concludes (fun _ => ⟨⟩) (discard work) := by
  have same : Functor.discard work = work >>= fun _ => pure ⟨⟩ := map_eq_pure_bind _ work
  rw [same]
  exact concludes.bind_right (fun _ _ => rfl) fun _ => follows_pure _

theorem Concludes.closing (concludes : Concludes value work) :
    Concludes value (Client.closing work) := by
  intro session
  have closes := (Client.follows_close (work.on session).2).addsNoConfirm
  rw [Client.on_closing]
  obtain unwaited | ⟨early, signature, commitment, late, ended, others, concluded⟩ :=
    concludes session
  · exact .inl (trans_of AddsNoConfirm unwaited closes)
  · obtain ⟨more, added, none⟩ := closes
    refine .inr ⟨early, signature, commitment, late ++ more, ?_, ?_, concluded⟩
    · rw [added, ended, List.append_assoc, List.append_assoc, List.cons_append]
    · rw [← List.append_assoc, List.forall_mem_append]
      exact ⟨others, none⟩

theorem eq_of_confirm {early late before after : List Call}
    {signature commitment other level : String}
    (others : ∀ call ∈ early ++ late, ¬ call.IsConfirm)
    (same : early ++ .confirm signature commitment :: late = before ++
      .confirm other level :: after) :
    before = early ∧ other = signature := by
  obtain ⟨fore, rfl, rest⟩ | ⟨fore, rfl, rest⟩ := List.append_eq_append_iff.mp same
  · cases fore with
    | nil =>
        rw [List.nil_append] at rest
        exact ⟨List.append_nil _, (Call.confirm.inj (List.cons.inj rest).1).1.symm⟩
    | cons call more =>
        rw [List.cons_append] at rest
        refine absurd trivial (others (.confirm other level) ?_)
        rw [(List.cons.inj rest).2]
        simp
  · cases fore with
    | nil =>
        rw [List.nil_append] at rest
        exact ⟨(List.append_nil _).symm, (Call.confirm.inj (List.cons.inj rest).1).1⟩
    | cons call more =>
        rw [List.cons_append] at rest
        refine absurd trivial (others (.confirm other level) ?_)
        rw [(List.cons.inj rest).1]
        simp

theorem Concludes.verdict (concludes : Concludes value work) (session : Session) :
    ∃ made, (work.on session).2.calls = session.calls ++ made ∧
      ∀ early signature commitment late, made = early ++ .confirm signature commitment :: late →
        (work.on session).1 =
          (Job.verdict signature session.node (Call.awaitedIn early)).map fun _ =>
            value signature := by
  obtain ⟨made, added, none⟩ | ⟨early, signature, commitment, late, added, others, concluded⟩ :=
    concludes session
  · refine ⟨made, added, ?_⟩
    rintro early signature commitment late rfl
    exact absurd trivial (none (.confirm signature commitment) (by simp))
  · refine ⟨_, added, fun before other level after same => ?_⟩
    obtain ⟨rfl, rfl⟩ := eq_of_confirm others same
    exact concluded

end Concludes

theorem follows_noteOutcome (client : Client) (signature : String) :
    Follows AddsNoConfirm (noteOutcome client signature) := by
  refine (client.follows_transaction signature).bind fun transaction => ?_
  refine (follows_liftM _).bind fun record => ?_
  refine (follows_liftM _).bind fun log => ?_
  refine (follows_liftM _).bind fun lines => ?_
  refine (follows_forM ?_ lines).bind fun _ => ?_
  · exact fun line => (follows_note _ _ line.display).addsNoConfirm
  refine (follows_liftM _).bind fun units => ?_
  exact (follows_note _ _ _).addsNoConfirm

/-- What a job does once its transaction is confirmed. -/
def completion (client : Client) (payer : Address) (earlier : Int) (signature : String) :
    Action String := do
  Action.note .submitting .info ("Transaction sent: " ++ signature)
  noteOutcome client signature
  let later ← client.balance payer
  Action.note .submitting .info
    ("Balance changed: " ++ Amount.formatInt (later - earlier) ++ " lamports")
  pure signature

theorem follows_completion (client : Client) (payer : Address) (earlier : Int)
    (signature : String) :
    Follows AddsNoConfirm (completion client payer earlier signature) := by
  refine (follows_note _ _ _).addsNoConfirm.bind fun _ =>
    (follows_noteOutcome client signature).bind fun _ => ?_
  refine (client.follows_balance payer).addsNoConfirm.bind fun later => ?_
  exact (follows_note _ _ _).addsNoConfirm.bind fun _ => follows_pure signature

theorem outcome_on_completion (client : Client) (payer : Address) (earlier : Int)
    (signature : String) (session : Session) :
    ((completion client payer earlier signature).on session).1 =
      (followUp signature session.node 0).map fun _ => signature := by
  rw [completion, on_bind_of_ok (on_note _ _ _ _), on_bind]
  generalize noted : session.record _ = before
  have node : before.node = session.node := by rw [← noted, node_record]
  have outcome := outcome_on_noteOutcome client signature before
  have left := interruptions_on_noteOutcome client signature before
  rw [node] at outcome left
  have whole : followUp signature session.node 0 =
      ((noteOutcome client signature).on before).1 >>= fun _ => session.node.waiting 1 := by
    rw [outcome, bind_assoc]
    rfl
  rw [whole]
  rcases reached : (noteOutcome client signature).on before with ⟨result, after⟩
  rw [reached] at left
  cases result with
  | error fault => rfl
  | ok _ =>
      have read := client.outcome_on_balance payer after
      rw [Node.waiting_of_drop left] at read
      rw [Outcome.ok_bind, ← read]
      dsimp only
      rw [on_bind]
      rcases (client.balance payer).on after with ⟨fault | lamports, last⟩ <;> rfl

/-- The node is waited for once; after that everything hangs on what it answers to the reads that
follow. -/
theorem on_conclusion (client : Client) (payer : Address) (earlier : Int) (signature : String)
    (session : Session) :
    ∃ early late, ((conclusion client payer earlier signature).on session).2.calls =
        session.calls ++ (early ++ .confirm signature client.commitment :: late) ∧
      (∀ call ∈ early ++ late, ¬ call.IsConfirm) ∧
      ((conclusion client payer earlier signature).on session).1 =
        (verdict signature session.node (Call.awaitedIn early)).map fun _ => signature := by
  have same : conclusion client payer earlier signature =
      client.confirm signature >>= fun _ => completion client payer earlier signature := rfl
  have none := fun call member => (client.unconfirmed_opening session.connected
    [.confirm signature client.commitment] call member).1
  refine ⟨client.opening session.connected [.confirm signature client.commitment], ?_⟩
  rw [same, Client.confirm, on_bind, Client.on_reach, Client.awaitedIn_opening, verdict]
  cases session.node.waiting 0 with
  | error fault => exact ⟨[], rfl, by simpa using none, rfl⟩
  | ok _ =>
      dsimp only
      generalize reached : Session.mk _ _ _ _ _ _ _ _ _ = confirmed
      obtain ⟨late, added, others⟩ := follows_completion client payer earlier signature confirmed
      refine ⟨late, ?_, List.forall_mem_append.mpr ⟨none, others⟩, ?_⟩
      · rw [added, ← reached, List.append_assoc, List.append_assoc]
        rfl
      · have read : followUp signature confirmed.node 0 = followUp signature session.node 1 :=
          followUp_of_drop (by rw [← reached]; rfl) (by rw [← reached]; rfl) signature 0
        rw [outcome_on_completion, read]
        rfl

theorem concludes_conclusion (client : Client) (payer : Address) (earlier : Int)
    (signature : String) :
    Concludes id (conclusion client payer earlier signature) := by
  intro session
  obtain ⟨early, late, added, others, outcome⟩ :=
    on_conclusion client payer earlier signature session
  exact .inr ⟨early, signature, client.commitment, late, added, others, outcome⟩

theorem confirm_mem_of_submission {client : Client} {compiled : CompiledTransaction}
    {payer : Option Address} {session after : Session} {sent : Address × Int × String}
    (taken : (submission client compiled payer).on session = (.ok sent, after)) :
    Call.confirm sent.2.2
      client.commitment ∈ ((execute client compiled payer).on session).2.calls := by
  obtain ⟨early, late, added, -, -⟩ := on_conclusion client sent.1 sent.2.1 sent.2.2 after
  rw [execute_eq, on_bind_of_ok taken, added]
  simp

theorem concludes_execute (client : Client) (compiled : CompiledTransaction)
    (payer : Option Address) :
    Concludes id (execute client compiled payer) := by
  rw [execute_eq]
  exact .bind_left (follows_submission client compiled payer) fun sent =>
    concludes_conclusion client sent.1 sent.2.1 sent.2.2

theorem concludes_executeFile (client : Client) (path : String) (params : Params) :
    Concludes id (executeFile client path params) := by
  refine .bind_left ?_ fun compiled => concludes_execute client compiled none
  exact follows_files.bind fun directory => follows_ofTraced unconfirmed_record _

theorem concludes_transfer (client : Client) (source : String) (destination : Json) (lamports : Int)
    (keypair : Json) : Concludes id (transfer client source destination lamports keypair) := by
  refine .bind_left (follows_liftM _) fun sourceAddress =>
      .bind_left (follows_liftM _) fun destinationAddress =>
    .bind_left follows_files fun directory => .bind_left (follows_liftM _) fun keypair => ?_
  have rest : ∀ compiled : Nat → CompiledTransaction, Concludes id (do
      let units ← lamportsOf lamports
      let signature ← execute client (compiled units) none
      note .submitting .info ("Sent " ++ Amount.formatInt lamports ++ " lamports from " ++ source ++
        " to " ++ destination.display)
      pure signature) := by
    intro compiled
    refine .bind_left (follows_liftM _) fun units => ?_
    have noted : ∀ signature session, ((do
        note .submitting .info ("Sent " ++ Amount.formatInt lamports ++ " lamports from " ++
          source ++ " to " ++ destination.display)
        pure signature : Action String).on session).1 = .ok (id signature) :=
          fun signature session => rfl
    refine (concludes_execute client _ none).bind_right noted fun signature => ?_
    exact (follows_note _ _ _).addsNoConfirm.bind fun _ => follows_pure _
  split
  · exact .bind_left (follows_throw _) fun _ => rest _
  · exact rest _

theorem concludes_executeInstruction (client : Client) (instruction : InstructionTemplate)
    (keypair : Json) :
    Concludes id (executeInstruction client instruction keypair) := by
  refine .bind_left follows_files fun directory =>
    .bind_left (follows_ofTraced unconfirmed_record _) fun compiled => ?_
  exact concludes_execute client compiled none

end Job

end TxTemplate
