import TxTemplate.Job.Balance
import TxTemplate.Job.Dump
import TxTemplate.Job.Reformat
import TxTemplate.Proofs.Client

set_option autoImplicit false

/-! What jobs reach. Each operation of the client adds calls to the session: they follow on the
connection that is there, and go to the endpoint of the client. Jobs that store only read; all
others may submit. -/

namespace TxTemplate

namespace Call

/-- What a call makes of the connection: it is opened where there is none, and closed where there is
one. Requests for documents and pauses go past it; all else needs it, and has no place where there
is none. -/
def connection? : Call → Bool → Option Bool
  | .connect _ _, connected => if connected then none else some true
  | .close, connected => if connected then some false else none
  | .post _ _, connected | .pause _, connected => some connected
  | _, connected => if connected then some true else none

def connectionAfter? (calls : List Call) (connected : Bool) : Option Bool :=
  calls.foldlM (fun connected call => call.connection? connected) connected

theorem connectionAfter?_append (first later : List Call) (connected : Bool) :
    connectionAfter? (first ++ later) connected =
      (connectionAfter? first connected).bind (connectionAfter? later) :=
  List.foldlM_append

/-- Calls that only read, at an endpoint: accounts over a connection, transactions and blocks as
documents. -/
inductive ReadsAt (endpoint : String) : Call → Prop
  | connect (commitment : String) : ReadsAt endpoint (.connect endpoint commitment)
  | close : ReadsAt endpoint .close
  | accountInfo (address : Address) : ReadsAt endpoint (.accountInfo address)
  | transaction (params : List Json) :
      ReadsAt endpoint (.post endpoint (Client.requestBody "getTransaction" params))
  | block (params : List Json) :
    ReadsAt endpoint (.post endpoint (Client.requestBody "getBlock" params))

/-- All the calls of a client with an endpoint. -/
inductive MadeAt (endpoint : String) : Call → Prop
  | read {call : Call} (reads : ReadsAt endpoint call) : MadeAt endpoint call
  | balance (address : Address) : MadeAt endpoint (.balance address)
  | tokenBalance (address : Address) : MadeAt endpoint (.tokenBalance address)
  | airdrop (address : Address) (lamports : Int) : MadeAt endpoint (.airdrop address lamports)
  | latestBlockhash (commitment : String) : MadeAt endpoint (.latestBlockhash commitment)
  | send (payload : String) (skipPreflight : Bool) (commitment : String) :
      MadeAt endpoint (.send payload skipPreflight commitment)
  | confirm (signature commitment : String) : MadeAt endpoint (.confirm signature commitment)
  | pause (seconds : Nat) : MadeAt endpoint (.pause seconds)

end Call

namespace Session

variable {allowed : Call → Prop}

/-- Only calls that are allowed were added, and they follow on the connection that was there. -/
def Reaches (allowed : Call → Prop) (before after : Session) : Prop :=
  ∃ made, after.calls = before.calls ++ made ∧ (∀ call ∈ made, allowed call) ∧
    Call.connectionAfter? made before.connected = some after.connected

/-- The same of a session with a connection, which is there afterwards. -/
def Holds (allowed : Call → Prop) (before after : Session) : Prop :=
  before.connected = true → before.Reaches allowed after ∧ after.connected = true

theorem Reaches.mono {wider : Call → Prop} {before after : Session}
    (reaches : before.Reaches allowed after) (implies : ∀ call, allowed call → wider call) :
    before.Reaches wider after := by
  obtain ⟨made, added, each, linked⟩ := reaches
  exact ⟨made, added, fun call member => implies call (each call member), linked⟩

theorem reaches_of_same {before after : Session} (calls : after.calls = before.calls)
    (connected : after.connected = before.connected) : before.Reaches allowed after :=
  ⟨[], by rw [calls, List.append_nil],
    fun _ member => absurd member List.not_mem_nil, by rw [connected]; rfl⟩

instance : IsPreorder Session (Reaches allowed) where
  refl session := reaches_of_same rfl rfl
  trans first middle last := by
    rintro ⟨early, reached, earlyEach, earlyLinked⟩ ⟨late, ended, lateEach, lateLinked⟩
    refine ⟨early ++ late, by rw [ended, reached, List.append_assoc], ?_, ?_⟩
    · rw [List.forall_mem_append]
      exact ⟨earlyEach, lateEach⟩
    · rw [Call.connectionAfter?_append, earlyLinked]
      exact lateLinked

instance : IsPreorder Session (Holds allowed) where
  refl session connected := ⟨refl_of (Reaches allowed) session, connected⟩
  trans _ _ _ earlier later connected :=
    have ⟨reached, still⟩ := earlier connected
    have ⟨ended, last⟩ := later still
    ⟨trans_of (Reaches allowed) reached ended, last⟩

theorem reaches_call (session : Session) {call : Call} (may : allowed call)
    (stays : call.connection? session.connected = some session.connected) :
    session.Reaches allowed (session.call call) := by
  refine ⟨[call], rfl, fun _ member => List.mem_singleton.mp member ▸ may, ?_⟩
  show call.connection? session.connected >>= pure = _
  rw [stays]
  rfl

theorem reaches_record (session : Session) (note : Note) :
    session.Reaches allowed (session.record note) :=
  reaches_of_same (calls_record session note) (connected_record session note)

end Session

open Session TxTemplate.Action

namespace Action

variable {allowed : Call → Prop}

theorem Follows.wider {α : Type} {work : Action α} {wider : Call → Prop}
    (follows : Follows (Reaches allowed) work) (implies : ∀ call, allowed call → wider call) :
    Follows (Reaches wider) work :=
  follows.mono fun _ _ reaches => reaches.mono implies

theorem reaches_note (topic : Topic) (level : Level) (text : String) :
    Follows (Reaches allowed) (note topic level text) := fun session => reaches_record session _

theorem reaches_ofTraced {α : Type} (work : Traced α) : Follows (Reaches allowed) (ofTraced work) :=
  follows_ofTraced reaches_record work

theorem reaches_modify {change : Session → Session}
    (calls : ∀ session, (change session).calls = session.calls)
    (connected : ∀ session, (change session).connected = session.connected) :
    Follows (Reaches allowed) (modify change : Action PUnit) :=
  follows_modify fun session => reaches_of_same (calls session) (connected session)

theorem reaches_write (path : String) (content : Content) :
    Follows (Reaches allowed) (write path content) :=
  follows_files.bind fun _ => (follows_ofExcept _).bind fun _ =>
    reaches_modify (fun _ => rfl) fun _ => rfl

theorem holds_call {call : Call} (may : allowed call) (needs : call.connection? true = some true) :
    Follows (Holds allowed) (Action.call call) := by
  intro session connected
  exact ⟨reaches_call session may (by rw [connected, needs]), connected⟩

theorem holds_await : Follows (Holds allowed) Client.await := by
  intro session connected
  rw [Client.on_await]
  exact ⟨reaches_of_same rfl rfl, connected⟩

theorem holds_note (topic : Topic) (level : Level) (text : String) :
    Follows (Holds allowed) (note topic level text) := by
  intro session connected
  exact ⟨reaches_record session _, (connected_record session _).trans connected⟩

end Action

/-! ### The client -/

namespace Client

variable {allowed : Call → Prop} (client : Client)

theorem exists_on_connect (may : allowed (.connect client.endpoint client.commitment))
    (session : Session) :
    ∃ opened, client.connect.on session = (.ok ⟨⟩, opened) ∧ session.Reaches allowed opened ∧
      opened.connected = true := by
  refine ⟨_, on_connect client session, ?_, rfl⟩
  cases connected : session.connected with
  | true => exact reaches_of_same (List.append_nil _) connected.symm
  | false =>
      refine ⟨[.connect client.endpoint client.commitment], rfl, ?_, ?_⟩
      · exact fun _ member => List.mem_singleton.mp member ▸ may
      · rw [connected]
        rfl

theorem reaches_connected {α : Type} {work : Action α}
    (may : allowed (.connect client.endpoint client.commitment))
    (holds : Follows (Holds allowed) work) :
    Follows (Reaches allowed) (client.connect >>= fun _ => work) := by
  intro session
  obtain ⟨opened, reached, reaches, connected⟩ := exists_on_connect client may session
  rw [on_bind_of_ok reached]
  exact trans_of (Reaches allowed) reaches (holds opened connected).1

theorem reaches_reach {call : Call} (opens : allowed (.connect client.endpoint client.commitment))
    (may : allowed call) (needs : call.connection? true = some true) :
    Follows (Reaches allowed) (client.reach call) :=
  reaches_connected client opens ((holds_call may needs).bind fun _ => holds_await)

theorem reaches_close (may : allowed .close) : Follows (Reaches allowed) close := by
  intro session
  cases connected : session.connected with
  | true =>
      refine ⟨[.close], ?_, fun _ member => List.mem_singleton.mp member ▸ may, ?_⟩
      all_goals
        rw [close, on_bind, on_get]
        simp only [connected, if_true]
        rfl
  | false =>
      rw [close, on_bind, on_get]
      simp only [connected, Bool.false_eq_true, if_false, on_pure]
      exact refl_of (Reaches allowed) session

theorem reaches_closing {α : Type} {work : Action α} (may : allowed .close)
    (reaches : Follows (Reaches allowed) work) : Follows (Reaches allowed) (closing work) :=
  fun session => trans_of (Reaches allowed) (reaches session) (reaches_close may _)

section Reading

theorem reaches_accountInfo (address : Address) :
    Follows (Reaches (Call.ReadsAt client.endpoint)) (client.accountInfo address) := by
  refine (reaches_reach client (.connect _) (.accountInfo address) rfl).bind fun _ =>
    follows_get.bind fun _ => ?_
  split
  · exact follows_pure _
  · exact follows_throw _

theorem reaches_request {method : String} {params : List Json}
    (may : allowed (.post client.endpoint (requestBody method params))) :
    Follows (Reaches allowed) (client.request method params) := by
  intro session
  obtain ⟨node, -, requested⟩ := on_request client method params session
  rw [requested]
  exact reaches_call session may rfl

theorem reaches_transaction (signature : String) :
    Follows (Reaches (Call.ReadsAt client.endpoint)) (client.transaction signature) := by
  refine (reaches_request client (.transaction _)).bind fun transaction => ?_
  split
  · exact (follows_throw _).bind fun _ => follows_pure _
  · exact follows_pure _

theorem reaches_block (slot : Json) :
    Follows (Reaches (Call.ReadsAt client.endpoint)) (client.block slot) := by
  refine (reaches_request client (.block _)).bind fun block => ?_
  split
  · exact (follows_throw _).bind fun _ => follows_pure _
  · exact follows_pure _

end Reading

section Submitting

theorem reaches_made {call : Call} (may : Call.MadeAt client.endpoint call)
    (needs : call.connection? true = some true) :
    Follows (Reaches (Call.MadeAt client.endpoint)) (client.reach call) :=
  reaches_reach client (.read (.connect _)) may needs

theorem reaches_lookupTable (address : Address) :
    Follows (Reaches (Call.MadeAt client.endpoint)) (client.lookupTable address) :=
  ((reaches_accountInfo client address).wider fun _ => .read).bind fun _ => follows_ofExcept _

theorem reaches_balance (address : Address) :
    Follows (Reaches (Call.MadeAt client.endpoint)) (client.balance address) :=
  (reaches_made client (.balance address) rfl).bind fun _ _ => reaches_of_same rfl rfl

theorem reaches_tokenBalance (address : Address) :
    Follows (Reaches (Call.MadeAt client.endpoint)) (client.tokenBalance address) :=
  (reaches_made client (.tokenBalance address) rfl).bind fun _ => follows_get.bind fun _ =>
    follows_pure _

theorem reaches_airdrop (address : Address) (lamports : Int) :
    Follows (Reaches (Call.MadeAt client.endpoint)) (client.airdrop address lamports) :=
  (reaches_made client (.airdrop address lamports) rfl).bind fun _ => follows_pure _

theorem reaches_latestBlockhash :
    Follows (Reaches (Call.MadeAt client.endpoint)) client.latestBlockhash :=
  (reaches_made client (.latestBlockhash _) rfl).bind fun _ => follows_get.bind fun _ =>
    follows_pure _

theorem reaches_confirm (signature : String) :
    Follows (Reaches (Call.MadeAt client.endpoint)) (client.confirm signature) :=
  reaches_made client (.confirm signature _) rfl

theorem holds_submit (payload : String) (skipPreflight : Bool) :
    Follows (Holds (Call.MadeAt client.endpoint)) (client.submit payload skipPreflight) :=
  (holds_call (.send payload skipPreflight _) rfl).bind fun _ _ connected =>
    ⟨reaches_of_same rfl rfl, connected⟩

/-- Every attempt goes out on the connection of the first one, whatever became of those before
it. -/
theorem holds_submitUpTo (payload : String) (skipPreflight : Bool) (attempt left : Nat) :
    Follows (Holds (Call.MadeAt client.endpoint))
      (client.submitUpTo payload skipPreflight attempt left) := by
  induction left generalizing attempt with
  | zero => exact follows_throw _
  | succ left ih =>
      refine (holds_submit client payload skipPreflight).bind fun outcome => ?_
      cases outcome with
      | ok signature => exact follows_pure _
      | error fault =>
          dsimp only
          split
          · exact (holds_note _ _ _).bind fun _ => follows_throw _
          · exact (holds_note _ _ _).bind fun _ => (holds_call (.pause _) rfl).bind fun _ =>
              ih (attempt + 1)

theorem reaches_send (payload : String) (skipPreflight : Bool) :
    Follows (Reaches (Call.MadeAt client.endpoint)) (client.send payload skipPreflight) :=
  reaches_connected client (.read (.connect _))
    (holds_submitUpTo client payload skipPreflight 0 client.retries)

end Submitting

end Client

namespace Job

open Client

variable (client : Client)

/-! ### Jobs that store -/

section Storing

variable {allowed : Call → Prop}

theorem reaches_compileFile (path : String) (params : Params) :
    Follows (Reaches allowed) (compileFile path params) :=
  follows_files.bind fun _ => reaches_ofTraced _

theorem reaches_makeFolder (folder : Json) : Follows (Reaches allowed) (makeFolder folder) := by
  unfold makeFolder
  split
  · refine follows_files.bind fun directory => ?_
    rcases directory.makeFolders _ with ⟨outcome, made⟩
    refine Follows.bind (reaches_modify ?_ ?_) fun _ => (follows_ofExcept outcome).bind fun _ =>
      follows_pure _
    · exact fun _ => rfl
    · exact fun _ => rfl
  · exact follows_throw _

theorem reaches_store (folder : Json) (name : String) (document : Json) :
    Follows (Reaches allowed) (store folder name document) :=
  (reaches_makeFolder folder).bind fun _ => (reaches_write _ _).bind fun _ => follows_pure _

theorem reaches_programData (account : Account) :
    Follows (Reaches (Call.ReadsAt client.endpoint)) (programData client account) := by
  unfold programData
  split
  · split
    · exact follows_pure _
    · refine ((reaches_accountInfo client _).bind fun _ => follows_pure _).tryCatch fun fault => ?_
      have noted : Follows (Reaches (Call.ReadsAt client.endpoint)) (do
          Action.note .dumping .warning ("Program data account unavailable: " ++ fault.message)
          pure account.data) := (reaches_note _ _ _).bind fun _ => follows_pure _
      dsimp only
      split
      · exact (follows_throw _).bind fun _ => noted
      · exact noted
  · exact follows_pure _

theorem reaches_dumpAccount (address : String) (folder : Json) :
    Follows (Reaches (Call.ReadsAt client.endpoint)) (dumpAccount client address folder) := by
  refine (reaches_makeFolder folder).bind fun folder => (follows_liftM _).bind fun key => ?_
  refine (reaches_accountInfo client key).bind fun account => ?_
  split
  · refine (reaches_note _ _ _).bind fun _ =>
      (reaches_programData client account).bind fun data => ?_
    split
    · exact follows_throw _
    · exact (reaches_write _ _).bind fun _ => (reaches_note _ _ _).bind fun _ => follows_pure _
  · exact (reaches_note _ _ _).bind fun _ => (reaches_write _ _).bind fun _ =>
      (reaches_note _ _ _).bind fun _ => follows_pure _

theorem reaches_dumpAccounts (addresses : List String) (folder : Json) :
    Follows (Reaches (Call.ReadsAt client.endpoint)) (dumpAccounts client addresses folder) := by
  refine follows_forM (fun address => ?_) _
  refine (reaches_dumpAccount client address folder).discard.tryCatch fun fault => ?_
  dsimp only
  split
  · exact (follows_throw _).bind fun _ => reaches_note _ _ _
  · exact reaches_note _ _ _

theorem reaches_dumpTouched (signature : String) (folder : Json) :
    Follows (Reaches (Call.ReadsAt client.endpoint)) (dumpTouched client signature folder) :=
  (reaches_transaction client signature).bind fun _ => (follows_liftM _).bind fun addresses =>
    (reaches_note _ _ _).bind fun _ => (reaches_dumpAccounts client addresses folder).bind fun _ =>
      follows_pure _

theorem reaches_dumpNeeded (template : String) (folder : Json) (params : Params) :
    Follows (Reaches (Call.ReadsAt client.endpoint)) (dumpNeeded client template folder params) :=
  (reaches_compileFile template params).bind fun _ => reaches_dumpAccounts client _ folder

theorem reaches_dumpTransaction (signature : String) (folder : Json) :
    Follows (Reaches (Call.ReadsAt client.endpoint)) (dumpTransaction client signature folder) :=
  (reaches_transaction client signature).bind fun _ => (reaches_store folder _ _).bind fun _ =>
    (reaches_note _ _ _).bind fun _ => follows_pure _

theorem reaches_dumpBlock (slot folder : Json) :
    Follows (Reaches (Call.ReadsAt client.endpoint)) (dumpBlock client slot folder) :=
  (follows_liftM _).bind fun _ => (reaches_block client _).bind fun _ =>
      (reaches_store folder _ _).bind fun _ =>
    (reaches_note _ _ _).bind fun _ => follows_pure _

theorem reaches_decompile (signature : String) (folder : Json) :
    Follows (Reaches (Call.ReadsAt client.endpoint)) (decompile client signature folder) :=
  (reaches_transaction client signature).bind fun _ => (reaches_note _ _ _).bind fun _ =>
    (reaches_ofTraced _).bind fun _ => (reaches_store folder _ _).bind fun _ =>
      (reaches_note _ _ _).bind fun _ => follows_pure _

theorem reaches_reportBlock (slot folder : Json) :
    Follows (Reaches (Call.ReadsAt client.endpoint)) (reportBlock client slot folder) :=
  (follows_liftM _).bind fun _ => (reaches_block client _).bind fun _ =>
      (reaches_note _ _ _).bind fun _ =>
    (reaches_ofTraced _).bind fun _ => (reaches_store folder _ _).bind fun _ =>
      (reaches_note _ _ _).bind fun _ => follows_pure _

theorem reaches_reformat (dump : Reformat.Dumper) (templatePath : String)
    (schemaPath program : Option String) :
    Follows (Reaches allowed) (Reformat.run dump templatePath schemaPath program) := by
  refine follows_files.bind fun directory => (reaches_ofTraced _).bind fun changed =>
    Follows.bind ?_ fun _ => reaches_note _ _ _
  refine (reaches_write _ _).bind fun _ => (reaches_write _ _).bind fun _ => ?_
  split
  · exact follows_pure _
  · exact follows_throw _

end Storing

/-! ### Jobs that submit or ask for balances -/

theorem reaches_noteOutcome (signature : String) :
    Follows (Reaches (Call.ReadsAt client.endpoint)) (noteOutcome client signature) := by
  refine (reaches_transaction client signature).bind fun transaction => ?_
  refine (follows_liftM _).bind fun record => (follows_liftM _).bind fun log =>
    (follows_liftM _).bind fun lines => ?_
  refine (follows_forM (fun line => reaches_note _ _ _) _).bind fun _ => ?_
  exact (follows_liftM _).bind fun units => reaches_note _ _ _

theorem reaches_execute (compiled : CompiledTransaction) (payer : Option Address) :
    Follows (Reaches (Call.MadeAt client.endpoint)) (execute client compiled payer) := by
  refine (follows_liftM _).bind fun payer =>
    (follows_mapM (reaches_lookupTable client) _).bind fun tables => ?_
  refine (reaches_latestBlockhash client).bind fun blockhash => ?_
  refine (follows_liftM _).bind fun message => (follows_liftM _).bind fun signed => ?_
  refine (reaches_balance client payer).bind fun earlier =>
    (reaches_send client _ _).bind fun signature => ?_
  refine (reaches_confirm client signature).bind fun _ => (reaches_note _ _ _).bind fun _ => ?_
  refine ((reaches_noteOutcome client signature).wider fun _ => .read).bind fun _ => ?_
  exact (reaches_balance client payer).bind fun _ => (reaches_note _ _ _).bind fun _ =>
    follows_pure _

theorem reaches_executeFile (path : String) (params : Params) :
    Follows (Reaches (Call.MadeAt client.endpoint)) (executeFile client path params) :=
  (reaches_compileFile path params).bind fun compiled => reaches_execute client compiled none

theorem reaches_airdrop (address : String) (lamports : Int) :
    Follows (Reaches (Call.MadeAt client.endpoint)) (Job.airdrop client address lamports) :=
  (follows_liftM _).bind fun _ => (Client.reaches_airdrop client _ lamports).bind fun _ =>
    (reaches_confirm client _).bind fun _ => (reaches_note _ _ _).bind fun _ => follows_pure _

theorem reaches_transfer (source : String) (destination : Json) (lamports : Int) (keypair : Json) :
    Follows (Reaches (Call.MadeAt client.endpoint))
      (transfer client source destination lamports keypair) := by
  refine (follows_liftM _).bind fun sourceAddress =>
    (follows_liftM _).bind fun destinationAddress => ?_
  refine follows_files.bind fun directory => (follows_liftM _).bind fun keypair => ?_
  have paid : Follows (Reaches (Call.MadeAt client.endpoint)) (do
      let units ← lamportsOf lamports
      let signature ← execute client ⟨[transferOf sourceAddress destinationAddress units],
        [keypair], []⟩ none
      Action.note .submitting .info ("Sent " ++ Amount.formatInt lamports ++ " lamports from " ++
        source ++ " to " ++ destination.display)
      pure signature) :=
    (follows_liftM _).bind fun units => (reaches_execute client _ none).bind fun _ =>
      (reaches_note _ _ _).bind fun _ => follows_pure _
  dsimp only
  split
  · exact (follows_throw _).bind fun _ => paid
  · exact paid

theorem reaches_executeInstruction (instruction : InstructionTemplate) (keypair : Json) :
    Follows (Reaches (Call.MadeAt client.endpoint))
      (executeInstruction client instruction keypair) :=
  follows_files.bind fun _ => (reaches_ofTraced _).bind fun compiled =>
    reaches_execute client compiled none

theorem reaches_balance (address : String) :
    Follows (Reaches (Call.MadeAt client.endpoint)) (Job.balance client address) :=
  (follows_liftM _).bind fun _ => (Client.reaches_balance client _).bind fun _ =>
    (reaches_note _ _ _).bind fun _ => follows_pure _

theorem reaches_tokenBalance (owner : String) (mint : Json) :
    Follows (Reaches (Call.MadeAt client.endpoint)) (Job.tokenBalance client owner mint) :=
  (follows_liftM _).bind fun _ => (Client.reaches_tokenBalance client _).bind fun _ =>
    (reaches_note _ _ _).bind fun _ => follows_pure _

end Job

end TxTemplate
