import TxTemplate.Job.Balance
import TxTemplate.Job.Dump
import TxTemplate.Proofs.Fault.Confirmed
import TxTemplate.Proofs.Fault.Template

set_option autoImplicit false

/-! The stray faults of jobs. The client adds answers of the wrong kind, and what the node says in
place of an answer; signing adds keypairs and messages that do not go together; folders may be given
as values that are no text. -/

namespace TxTemplate

open Outcome Fault TxTemplate.Action

variable {origins : List Origin}

theorem Fault.within_node (rejection : .rejection ∈ origins) (other : .node ∈ origins)
    (cause : NodeFault) :
    (node cause).Within origins := by
  obtain ⟨kind, text⟩ := cause
  cases kind with
  | value | system _ => exact within_of_origin?_eq_none rfl
  | rejected | transport => exact within_of_mem rfl rejection
  | other _ => exact within_of_mem rfl other

/-! ### The client -/

namespace Client

theorem confined_make (endpoint commitment : String) (retries : Int) :
    Confined origins (make endpoint commitment retries) := by
  unfold make
  split
  · exact confined_error.mpr (within_job _)
  · exact confined_ok _

variable (client : Client)

theorem isConfined_connect : IsConfined origins client.connect := by
  refine isConfined_get.bind fun session => ?_
  split
  · exact (isConfined_call _).bind fun _ => isConfined_modify _
  · exact isConfined_pure _

section Reaching

variable (rejection : .rejection ∈ origins) (other : .node ∈ origins)

include rejection other

theorem isConfined_await : IsConfined origins await := by
  refine isConfined_get.bind fun session => (isConfined_set _).bind fun _ => ?_
  split
  · exact isConfined_pure _
  · exact isConfined_throw (within_node rejection other _)

theorem isConfined_reach (call : Call) : IsConfined origins (client.reach call) :=
  (isConfined_connect client).bind fun _ => (isConfined_call call).bind fun _ =>
    isConfined_await rejection other

theorem isConfined_accountInfo (address : Address) :
    IsConfined origins (client.accountInfo address) := by
  refine (isConfined_reach client rejection other _).bind fun _ =>
    isConfined_get.bind fun session => ?_
  split
  · exact isConfined_pure _
  · exact isConfined_throw (within_answer _)

theorem isConfined_balance (address : Address) : IsConfined origins (client.balance address) :=
  (isConfined_reach client rejection other _).bind fun _ => isConfined_get.bind fun _ =>
      (isConfined_set _).bind fun _ =>
    isConfined_pure _

theorem isConfined_tokenBalance (address : Address) :
    IsConfined origins (client.tokenBalance address) :=
  (isConfined_reach client rejection other _).bind fun _ => isConfined_get.bind fun _ =>
    isConfined_pure _

theorem isConfined_airdrop (address : Address) (lamports : Int) :
    IsConfined origins (client.airdrop address lamports) :=
  (isConfined_reach client rejection other _).bind fun _ => isConfined_pure _

theorem isConfined_latestBlockhash : IsConfined origins client.latestBlockhash :=
  (isConfined_reach client rejection other _).bind fun _ => isConfined_get.bind fun _ =>
    isConfined_pure _

theorem isConfined_confirm (signature : String) : IsConfined origins (client.confirm signature) :=
  isConfined_reach client rejection other _

theorem isConfined_lookupTable (address : Address) :
    IsConfined origins (client.lookupTable address) := by
  refine (isConfined_accountInfo client rejection other address).bind fun account =>
    isConfined_ofExcept ?_
  have read : Confined origins (LookupTable.read account.data) := by
    unfold LookupTable.read
    dsimp only
    split
    · simp
    · split
      · simp
      · split
        · simp
        · split <;> simp
  refine read.bind fun held _ => ?_
  dsimp only
  split
  · exact (confined_error.mpr (within_answer _)).bind fun _ _ => confined_ok _
  · exact confined_ok _

end Reaching

theorem isConfined_submit (payload : String) (skipPreflight : Bool) :
    IsConfined origins (client.submit payload skipPreflight) :=
  (isConfined_call _).bind fun _ => isConfined_get.bind fun _ => (isConfined_set _).bind fun _ =>
    isConfined_pure _

theorem isConfined_submitUpTo (rejection : .rejection ∈ origins) (other : .node ∈ origins)
    (payload : String) (skipPreflight : Bool) (attempt left : Nat) :
    IsConfined origins (client.submitUpTo payload skipPreflight attempt left) := by
  induction left generalizing attempt with
  | zero => exact isConfined_throw (within_job _)
  | succ left ih =>
      refine (isConfined_submit client payload skipPreflight).bind fun outcome => ?_
      cases outcome with
      | ok signature => exact isConfined_pure _
      | error fault =>
          dsimp only
          split
          · exact (isConfined_note _ _ _).bind fun _ =>
              isConfined_throw (within_node rejection other fault)
          · exact (isConfined_note _ _ _).bind fun _ => (isConfined_call _).bind fun _ =>
              ih (attempt + 1)

theorem isConfined_send (rejection : .rejection ∈ origins) (other : .node ∈ origins)
    (payload : String) (skipPreflight : Bool) :
    IsConfined origins (client.send payload skipPreflight) :=
  (isConfined_connect client).bind fun _ =>
    isConfined_submitUpTo client rejection other payload skipPreflight 0 _

theorem confined_resultOf (shape : .shape ∈ origins) (method : String) (answer : Json) :
    Confined origins (resultOf method answer) := by
  have known : Confined origins (do
      if ← answer.contains "error" then
        let cause ← answer.member "error"
        throw (.answer (.refused method cause))
      answer.fieldOrNull "result") := by
    refine (Json.confined_contains shape answer _).bind fun refused _ => ?_
    dsimp only
    split
    · exact (Json.confined_member shape answer _).bind fun _ _ =>
        confined_error.mpr (within_answer _)
    · exact Json.confined_fieldOrNull shape answer _
  unfold resultOf
  split
  · exact confined_error.mpr (within_disconnected _)
  · exact known

theorem isConfined_request (shape : .shape ∈ origins) (rejection : .rejection ∈ origins)
    (other : .node ∈ origins) (method : String) (params : List Json) :
    IsConfined origins (client.request method params) :=
  (isConfined_call _).bind fun _ => (isConfined_await rejection other).bind fun _ =>
      isConfined_get.bind fun _ => (isConfined_set _).bind fun _ =>
    isConfined_ofExcept (confined_resultOf shape method _)

theorem isConfined_transaction (shape : .shape ∈ origins) (rejection : .rejection ∈ origins)
    (other : .node ∈ origins) (signature : String) :
    IsConfined origins (client.transaction signature) := by
  refine (isConfined_request client shape rejection other _ _).bind fun result => ?_
  split
  · exact (isConfined_throw (within_answer _)).bind fun _ => isConfined_pure _
  · exact isConfined_pure _

theorem isConfined_block (shape : .shape ∈ origins) (rejection : .rejection ∈ origins)
    (other : .node ∈ origins) (slot : Json) : IsConfined origins (client.block slot) := by
  refine (isConfined_request client shape rejection other _ _).bind fun result => ?_
  split
  · exact (isConfined_throw (within_answer _)).bind fun _ => isConfined_pure _
  · exact isConfined_pure _

theorem isConfined_closing {α : Type} {work : Action α} (confined : IsConfined origins work) :
    IsConfined origins (closing work) := confined

end Client

/-! ### Submitting -/

theorem Extraction.confined_ofKeys (table : LookupTable) (keys : MessageKeys) :
    Confined origins (ofKeys table keys) := by
  have found (addresses : List Address) : Confined origins (found table addresses) := by
    unfold Extraction.found
    dsimp only
    split
    · exact confined_ok _
    · exact confined_error.mpr (within_job _)
  exact (found _).bind fun _ _ => (found _).bind fun _ _ => confined_ok _

theorem Extraction.confined_ofTables (tables : List LookupTable) (keys : MessageKeys) :
    Confined origins (ofTables tables keys) := by
  induction tables generalizing keys with
  | nil => exact confined_ok _
  | cons table rest ih =>
      exact (confined_ofKeys table keys).bind fun _ _ => (ih _).bind fun _ _ => confined_ok _

theorem SignedTransaction.confined_sign (signing : .signing ∈ origins) (keypairs : List Keypair)
    (message : Message) : Confined origins (sign keypairs message) := by
  have unsigned (cause : SigningFault) :
    Confined origins (.error (.signing cause) : Except Fault SignedTransaction) :=
    confined_error.mpr (within_of_mem rfl signing)
  unfold sign
  split
  · split
    · exact unsigned _
    · split
      · exact confined_ok _
      · exact unsigned _
  · split
    · exact unsigned _
    · split
      · exact unsigned _
      · split
        · exact confined_ok _
        · exact unsigned _

namespace Job

theorem confined_messageFor (signing : .signing ∈ origins) (compiled : CompiledTransaction)
    (payer : Address) (tables : List LookupTable) (blockhash : Address) :
    Confined origins (messageFor compiled payer tables blockhash) := by
  unfold messageFor
  split
  · unfold Message.plain
    dsimp only
    split
    · exact confined_ok _
    · exact confined_error.mpr (within_of_mem rfl signing)
  · refine (Extraction.confined_ofTables tables _).bind fun extracted _ => ?_
    dsimp only
    split
    · exact confined_error.mpr (within_job _)
    · exact confined_ok _

theorem isConfined_noteOutcome (shape : .shape ∈ origins) (rejection : .rejection ∈ origins)
    (other : .node ∈ origins) (client : Client) (signature : String) :
    IsConfined origins (noteOutcome client signature) := by
  refine (Client.isConfined_transaction client shape rejection other signature).bind
    fun transaction => ?_
  refine (isConfined_liftM (confined_recordOf shape transaction)).bind fun record => ?_
  refine (isConfined_liftM (Json.confined_fieldOrNull shape record _)).bind fun log => ?_
  refine (isConfined_liftM (Json.confined_elements shape _)).bind fun lines => ?_
  refine (isConfined_forM fun line => isConfined_note _ _ _).bind fun _ => ?_
  exact (isConfined_liftM (Json.confined_fieldOrNull shape record _)).bind fun _ =>
    isConfined_note _ _ _

theorem isConfined_execute (shape : .shape ∈ origins) (signing : .signing ∈ origins)
    (rejection : .rejection ∈ origins) (other : .node ∈ origins) (client : Client)
    (compiled : CompiledTransaction) (payer : Option Address) :
    IsConfined origins (execute client compiled payer) := by
  have chosen : Confined origins (payerOf compiled payer) := by
    unfold payerOf
    split
    · exact confined_ok _
    · split
      · exact confined_error.mpr (within_job _)
      · exact confined_ok _
  refine (isConfined_liftM chosen).bind fun payer => ?_
  refine (isConfined_mapM (Client.isConfined_lookupTable client rejection other)).bind
    fun tables => ?_
  refine (Client.isConfined_latestBlockhash client rejection other).bind fun blockhash => ?_
  refine (isConfined_liftM (confined_messageFor signing compiled payer tables blockhash)).bind
    fun message => ?_
  refine (isConfined_liftM (SignedTransaction.confined_sign signing compiled.signers message)).bind
    fun signed => ?_
  refine (Client.isConfined_balance client rejection other payer).bind fun earlier => ?_
  refine (Client.isConfined_send client rejection other _ _).bind fun signature => ?_
  refine (Client.isConfined_confirm client rejection other signature).bind fun _ =>
    (isConfined_note _ _ _).bind fun _ => ?_
  refine (isConfined_noteOutcome shape rejection other client signature).bind fun _ => ?_
  exact (Client.isConfined_balance client rejection other payer).bind fun _ =>
    (isConfined_note _ _ _).bind fun _ => isConfined_pure _

theorem isConfined_compileFile (shape : .shape ∈ origins) (count : .count ∈ origins)
    (depth : .depth ∈ origins) (derivation : .derivation ∈ origins) (path : String)
    (params : Params) :
    IsConfined origins (compileFile path params) :=
  isConfined_files.bind fun _ =>
    isConfined_ofTraced (TransactionTemplate.confined_compileFile shape count depth derivation _
      path params)

theorem isConfined_airdrop (rejection : .rejection ∈ origins) (other : .node ∈ origins)
    (client : Client) (address : String) (lamports : Int) :
    IsConfined origins (airdrop client address lamports) :=
  (isConfined_liftM (Address.confined_parse address)).bind fun _ =>
    (Client.isConfined_airdrop client rejection other _ lamports).bind fun _ =>
        (Client.isConfined_confirm client rejection other _).bind fun _ =>
      (isConfined_note _ _ _).bind fun _ => isConfined_pure _

theorem isConfined_transfer (shape : .shape ∈ origins) (signing : .signing ∈ origins)
    (rejection : .rejection ∈ origins) (other : .node ∈ origins) (client : Client) (source : String)
    (destination : Json) (lamports : Int) (keypair : Json) :
    IsConfined origins (transfer client source destination lamports keypair) := by
  refine (isConfined_liftM (Address.confined_parse source)).bind fun sourceAddress => ?_
  refine (isConfined_liftM (Address.confined_ofValue shape destination)).bind
    fun destinationAddress => ?_
  refine isConfined_files.bind fun directory => ?_
  refine (isConfined_liftM (Keypair.confined_resolve directory [] keypair)).bind fun keypair => ?_
  have paid : IsConfined origins (do
      let units ← lamportsOf lamports
      let signature ← execute client ⟨[transferOf sourceAddress destinationAddress units],
        [keypair], []⟩ none
      Action.note .submitting .info ("Sent " ++ Amount.formatInt lamports ++ " lamports from " ++
        source ++ " to " ++ destination.display)
      pure signature) := by
    refine (isConfined_liftM ?_).bind fun units =>
      (isConfined_execute shape signing rejection other client _ _).bind fun _ =>
        (isConfined_note _ _ _).bind fun _ => isConfined_pure _
    unfold lamportsOf
    split
    · exact confined_ok _
    · exact confined_error.mpr (within_shape shape _)
  dsimp only
  split
  · exact (isConfined_throw (within_job _)).bind fun _ => paid
  · exact paid

theorem isConfined_executeInstruction (shape : .shape ∈ origins) (signing : .signing ∈ origins)
    (rejection : .rejection ∈ origins) (other : .node ∈ origins) (client : Client)
    {instruction : InstructionTemplate}
    (compiles : Confined origins (instruction.compile []).outcome) (keypair : Json) :
    IsConfined origins (executeInstruction client instruction keypair) := by
  refine isConfined_files.bind fun directory =>
      Action.IsConfined.bind (isConfined_ofTraced ?_) fun compiled =>
    isConfined_execute shape signing rejection other client compiled none
  refine Traced.confined_bind (Traced.confined_mapM fun other member => ?_) fun _ => ?_
  · rw [List.mem_singleton.mp member]
    exact compiles
  · exact Traced.confined_bind (TransactionTemplate.confined_resolveSigners directory [] _) fun _ =>
      Traced.confined_bind (confined_ok _) fun _ => confined_ok _

/-- The keypair and the given parts of an instruction for a derived account are checked as they are;
its data packs whatever they are. -/
theorem isConfined_createAssociated (shape : .shape ∈ origins)
    (derivation : .derivation ∈ origins) (signing : .signing ∈ origins)
    (rejection : .rejection ∈ origins) (other : .node ∈ origins) (client : Client)
    (owner : String) {mint : Json} (mintConfined : Confined origins (Descriptor.resolve [] mint))
    (keypair : Json) :
    IsConfined origins (createAssociated client owner mint keypair) := by
  refine isConfined_executeInstruction shape signing rejection other client ?_ keypair
  have ownerConfined : Confined origins (Descriptor.resolve [] (.str owner)) :=
    Descriptor.confined_resolve_str [] owner
  refine InstructionTemplate.confined_compile_of_program rfl ?_ (confined_of_eq_ok rfl)
  simp only [Shorthand.createAssociated, List.forall_mem_cons, List.not_mem_nil, false_implies,
    implies_true, and_true]
  exact ⟨ownerConfined,
    Descriptor.confined_resolve_associated derivation ownerConfined mintConfined, ownerConfined,
    mintConfined, Descriptor.confined_resolve_str [] _, Descriptor.confined_resolve_str [] _⟩

theorem isConfined_closeAssociated (shape : .shape ∈ origins) (derivation : .derivation ∈ origins)
    (signing : .signing ∈ origins) (rejection : .rejection ∈ origins) (other : .node ∈ origins)
    (client : Client) (owner : String) {mint : Json}
    (mintConfined : Confined origins (Descriptor.resolve [] mint)) (keypair : Json) :
    IsConfined origins (closeAssociated client owner mint keypair) := by
  refine isConfined_executeInstruction shape signing rejection other client ?_ keypair
  have ownerConfined : Confined origins (Descriptor.resolve [] (.str owner)) :=
    Descriptor.confined_resolve_str [] owner
  refine InstructionTemplate.confined_compile_of_program rfl ?_ (confined_of_eq_ok rfl)
  simp only [Shorthand.closeAssociated, List.forall_mem_cons, List.not_mem_nil, false_implies,
    implies_true, and_true]
  exact ⟨Descriptor.confined_resolve_associated derivation ownerConfined mintConfined,
    ownerConfined, ownerConfined⟩

/-! ### Balances -/

theorem isConfined_balance (rejection : .rejection ∈ origins) (other : .node ∈ origins)
    (client : Client) (address : String) : IsConfined origins (balance client address) :=
  (isConfined_liftM (Address.confined_parse address)).bind fun _ =>
    (Client.isConfined_balance client rejection other _).bind fun _ =>
      (isConfined_note _ _ _).bind fun _ => isConfined_pure _

theorem isConfined_tokenBalance (derivation : .derivation ∈ origins)
    (rejection : .rejection ∈ origins) (other : .node ∈ origins) (client : Client)
    (owner : String) {mint : Json} (mintConfined : Confined origins (Descriptor.resolve [] mint)) :
    IsConfined origins (tokenBalance client owner mint) :=
  (isConfined_liftM (Descriptor.confined_resolve_associated derivation
    (Descriptor.confined_resolve_str [] owner) mintConfined)).bind fun _ =>
    (Client.isConfined_tokenBalance client rejection other _).bind fun _ =>
      (isConfined_note _ _ _).bind fun _ => isConfined_pure _

/-! ### Storing -/

theorem isConfined_changeFiles {change : Directory → Except Fault Directory}
    (confined : ∀ directory, Confined origins (change directory)) :
    IsConfined origins (changeFiles change) :=
  isConfined_files.bind fun directory => (isConfined_ofExcept (confined directory)).bind fun _ =>
    isConfined_modify _

theorem isConfined_write (path : String) (content : Content) :
    IsConfined origins (write path content) :=
  isConfined_changeFiles fun directory => Directory.confined_write directory path content

theorem confined_prepared (shape : .shape ∈ origins) (count : .count ∈ origins)
    (depth : .depth ∈ origins) (derivation : .derivation ∈ origins) (directory : Directory)
    (templatePath : String) (schemaPath program : Option String) :
    Confined origins (Reformat.prepared directory templatePath schemaPath program).outcome := by
  rw [Reformat.prepared, Traced.outcome_bind, Traced.outcome_liftM]
  refine (TransactionTemplate.confined_load shape directory templatePath).bind fun stored _ => ?_
  cases schemaPath with
  | none => exact confined_error.mpr (within_shape shape _)
  | some schemaPath =>
      rw [Traced.outcome_bind, Traced.outcome_liftM]
      exact (Reformat.confined_schemaIn directory schemaPath).bind fun schema _ =>
        Reformat.confined_templateWhere shape count depth derivation _ _ schema stored

theorem isConfined_reformat (shape : .shape ∈ origins) (count : .count ∈ origins)
    (depth : .depth ∈ origins) (derivation : .derivation ∈ origins) (templatePath : String)
    (schemaPath program : Option String) :
    IsConfined origins (Reformat.run Reformat.whole templatePath schemaPath program) := by
  refine isConfined_files.bind fun directory =>
    (isConfined_ofTraced (confined_prepared shape count depth derivation directory templatePath
      schemaPath program)).bind fun changed => ?_
  exact ((isConfined_write _ _).bind fun _ => (isConfined_write _ _).bind fun _ =>
    isConfined_pure _).bind fun _ => isConfined_note _ _ _

theorem isConfined_makeFolder (shape : .shape ∈ origins) (folder : Json) :
    IsConfined origins (makeFolder folder) := by
  unfold makeFolder
  split
  · exact isConfined_files.bind fun directory => (isConfined_modify _).bind fun _ =>
      (isConfined_ofExcept (Directory.confined_makeFolders directory _)).bind fun _ =>
        isConfined_pure _
  · exact isConfined_throw (within_shape shape _)

theorem isConfined_store (shape : .shape ∈ origins) (folder : Json) (name : String)
    (document : Json) :
    IsConfined origins (store folder name document) :=
  (isConfined_makeFolder shape folder).bind fun _ => (isConfined_write _ _).bind fun _ =>
    isConfined_pure _

theorem isConfined_programData (rejection : .rejection ∈ origins) (other : .node ∈ origins)
    (client : Client) (account : Account) :
    IsConfined origins (programData client account) := by
  unfold programData
  split
  · split
    · exact isConfined_pure _
    · refine IsConfined.tryCatch
        ((Client.isConfined_accountInfo client rejection other _).bind fun _ =>
        isConfined_pure _) ?_
      intro fault within
      have noted : IsConfined origins (do
          Action.note .dumping .warning ("Program data account unavailable: " ++ fault.message)
          pure account.data) := (isConfined_note _ _ _).bind fun _ => isConfined_pure _
      dsimp only
      split
      · exact (isConfined_throw within).bind fun _ => noted
      · exact noted
  · exact isConfined_pure _

theorem isConfined_dumpAccount (shape : .shape ∈ origins) (rejection : .rejection ∈ origins)
    (other : .node ∈ origins) (client : Client) (address : String) (folder : Json) :
    IsConfined origins (dumpAccount client address folder) := by
  refine (isConfined_makeFolder shape folder).bind fun folder => ?_
  refine (isConfined_liftM (Address.confined_parse address)).bind fun key => ?_
  refine (Client.isConfined_accountInfo client rejection other key).bind fun account => ?_
  split
  · refine (isConfined_note _ _ _).bind fun _ =>
      (isConfined_programData rejection other client account).bind fun data => ?_
    split
    · exact isConfined_throw (within_job _)
    · exact (isConfined_write _ _).bind fun _ => (isConfined_note _ _ _).bind fun _ =>
        isConfined_pure _
  · exact (isConfined_note _ _ _).bind fun _ => (isConfined_write _ _).bind fun _ =>
      (isConfined_note _ _ _).bind fun _ => isConfined_pure _

theorem isConfined_dumpAccounts (shape : .shape ∈ origins) (rejection : .rejection ∈ origins)
    (other : .node ∈ origins) (client : Client) (addresses : List String) (folder : Json) :
    IsConfined origins (dumpAccounts client addresses folder) := by
  refine isConfined_forM fun address => ?_
  refine (isConfined_dumpAccount shape rejection other client address folder).discard.tryCatch
    fun fault within => ?_
  dsimp only
  split
  · exact (isConfined_throw within).bind fun _ => isConfined_note _ _ _
  · exact isConfined_note _ _ _

theorem isConfined_dumpTouched (shape : .shape ∈ origins) (rejection : .rejection ∈ origins)
    (other : .node ∈ origins) (client : Client) (signature : String) (folder : Json) :
    IsConfined origins (dumpTouched client signature folder) :=
  (Client.isConfined_transaction client shape rejection other signature).bind fun transaction =>
    (isConfined_liftM (Touched.confined_addresses shape transaction)).bind fun addresses =>
      (isConfined_note _ _ _).bind fun _ =>
          (isConfined_dumpAccounts shape rejection other client addresses folder).bind fun _ =>
        isConfined_pure _

theorem isConfined_dumpNeeded (shape : .shape ∈ origins) (count : .count ∈ origins)
    (depth : .depth ∈ origins) (derivation : .derivation ∈ origins)
    (rejection : .rejection ∈ origins) (other : .node ∈ origins) (client : Client)
    (template : String) (folder : Json) (params : Params) :
    IsConfined origins (dumpNeeded client template folder params) :=
  (isConfined_compileFile shape count depth derivation template params).bind fun _ =>
    isConfined_dumpAccounts shape rejection other client _ folder

theorem isConfined_dumpTransaction (shape : .shape ∈ origins) (rejection : .rejection ∈ origins)
    (other : .node ∈ origins) (client : Client) (signature : String) (folder : Json) :
    IsConfined origins (dumpTransaction client signature folder) :=
  (Client.isConfined_transaction client shape rejection other signature).bind fun _ =>
    (isConfined_store shape folder _ _).bind fun _ => (isConfined_note _ _ _).bind fun _ =>
      isConfined_pure _

theorem isConfined_dumpBlock (shape : .shape ∈ origins) (rejection : .rejection ∈ origins)
    (other : .node ∈ origins) (client : Client) (slot : String) (folder : Json) :
    IsConfined origins (dumpBlock client (.str slot) folder) :=
  (isConfined_liftM (Slot.confined_parse_str slot)).bind fun _ =>
      (Client.isConfined_block client shape rejection other _).bind fun _ =>
    (isConfined_store shape folder _ _).bind fun _ => (isConfined_note _ _ _).bind fun _ =>
      isConfined_pure _

theorem isConfined_decompile (shape : .shape ∈ origins) (count : .count ∈ origins)
    (derivation : .derivation ∈ origins) (rejection : .rejection ∈ origins)
    (other : .node ∈ origins) (client : Client) (signature : String) (folder : Json) :
    IsConfined origins (decompile client signature folder) :=
  (Client.isConfined_transaction client shape rejection other signature).bind fun transaction =>
    (isConfined_note _ _ _).bind fun _ =>
      (isConfined_ofTraced (confined_decompileTransaction shape count derivation transaction)).bind
          fun _ =>
        (isConfined_store shape folder _ _).bind fun _ => (isConfined_note _ _ _).bind fun _ =>
          isConfined_pure _

theorem isConfined_reportBlock (shape : .shape ∈ origins) (count : .count ∈ origins)
    (rejection : .rejection ∈ origins) (other : .node ∈ origins) (client : Client)
    (slot : String) (folder : Json) : IsConfined origins (reportBlock client (.str slot) folder) :=
  (isConfined_liftM (Slot.confined_parse_str slot)).bind fun slot =>
    (Client.isConfined_block client shape rejection other _).bind fun block =>
        (isConfined_note _ _ _).bind fun _ =>
      (isConfined_ofTraced (Report.confined_ofBlock shape count block (.int slot))).bind fun _ =>
        (isConfined_store shape folder _ _).bind fun _ => (isConfined_note _ _ _).bind fun _ =>
          isConfined_pure _

end Job

end TxTemplate
