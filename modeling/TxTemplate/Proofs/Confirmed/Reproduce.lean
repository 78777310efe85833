import TxTemplate.Job.Submit
import TxTemplate.Proofs.Confirmed.Recompile
import TxTemplate.Proofs.Message.Groups

set_option autoImplicit false

/-! Submitting a decompiled message again. Each instruction comes back with the rights that the
whole message gave its accounts, so the message collects the same keys again. An instruction names
its keys by a single byte: where the keys are more than a byte can count, some of them are lost. -/

namespace TxTemplate

/-! ### Places -/

namespace IndexedInstruction

variable {keys : List Address} {address : Address}

/-- The key that the place of an address leads to. -/
def keyAt (keys : List Address) (address : Address) : Address :=
  (keys[(place keys address).toNat]?).getD address

theorem toNat_place : (place keys address).toNat = keys.idxOf address % 256 := by
  rw [place, UInt8.toNat_ofNat']

theorem getElem?_place (member : address ∈ keys) :
    keys[(place keys address).toNat]? = some (keyAt keys address) := by
  have inside : (place keys address).toNat < keys.length := by
    rw [toNat_place]
    exact Nat.lt_of_le_of_lt (Nat.mod_le _ _) (List.idxOf_lt_length_of_mem member)
  rw [keyAt, List.getElem?_eq_getElem inside, Option.getD_some]

theorem keyAt_of_length_le (few : keys.length ≤ 256) (member : address ∈ keys) :
    keyAt keys address = address := by
  have inside := List.idxOf_lt_length_of_mem member
  rw [keyAt, toNat_place, Nat.mod_eq_of_lt (Nat.lt_of_lt_of_le inside few),
    List.getElem?_eq_getElem inside, List.getElem_idxOf, Option.getD_some]

theorem keyAt_mem_take (member : address ∈ keys) : keyAt keys address ∈ keys.take 256 := by
  have found := getElem?_place member
  have early : (place keys address).toNat < 256 := by
    rw [toNat_place]
    exact Nat.mod_lt _ (by decide)
  rw [← List.getElem?_take_of_lt early] at found
  exact List.mem_of_getElem? found

end IndexedInstruction

/-- An instruction as it is found through the places of its keys. -/
def Instruction.throughPlaces (keys : List Address) (instruction : Instruction) : Instruction where
  program := IndexedInstruction.keyAt keys instruction.program
  data := instruction.data
  accounts := instruction.accounts.map fun account =>
    { account with address := IndexedInstruction.keyAt keys account.address }

/-! ### The RPC form of a message -/

/-- An instruction of a message as the node reports it: places as numbers, bytes in base 58. -/
def IndexedInstruction.Reported (instruction : IndexedInstruction) (document : Json) : Prop :=
  ∃ fields, document = .obj fields ∧
    fields.lookup "programIdIndex" = some (.int instruction.program.toNat) ∧
    fields.lookup "accounts" =
      some (.arr (instruction.accounts.map fun place => .int place.toNat)) ∧
    fields.lookup "data" = some (.str (Base58.text instruction.data))

/-- The transaction carries the plain message: its header, the texts of its keys, and its
instructions. -/
structure Message.Reported (message : Message) (transaction : Json) (fields : Fields)
    (instructions : List Json) : Prop where
  encoded : messageOf? transaction = .ok (some fields)
  records : ∃ recorded, recordOf transaction = .ok (.obj recorded) ∧
    Roster.Loads ((recorded.lookup "loadedAddresses").getD .null) [] []
  header : Roster.Counts fields message.header.signers message.header.readonlySigners
    message.header.readonlyOthers
  keys : fields.lookup "accountKeys" = some (.arr (message.keys.map fun key => .str key.text))
  given : instructionsOf fields = .ok instructions
  each : List.Forall₂ IndexedInstruction.Reported message.instructions instructions

def IndexedInstruction.document (instruction : IndexedInstruction) : Json :=
  .obj [("programIdIndex", .int instruction.program.toNat),
    ("accounts", .arr (instruction.accounts.map fun place => .int place.toNat)),
    ("data", .str (Base58.text instruction.data))]

def Message.fields (message : Message) : Fields :=
  [("header", .obj [("numRequiredSignatures", .int message.header.signers),
      ("numReadonlySignedAccounts", .int message.header.readonlySigners),
      ("numReadonlyUnsignedAccounts", .int message.header.readonlyOthers)]),
    ("accountKeys", .arr (message.keys.map fun key => .str key.text)),
    ("instructions", .arr (message.instructions.map IndexedInstruction.document))]

def Message.document (message : Message) : Json :=
  .obj [("transaction", .obj [("message", .obj message.fields)])]

theorem Message.reported_document (message : Message) :
    message.Reported message.document message.fields
      (message.instructions.map IndexedInstruction.document) where
  encoded := rfl
  records := ⟨[], rfl, rfl, rfl⟩
  header := ⟨_, rfl, rfl, rfl, rfl⟩
  keys := rfl
  given := rfl
  each := by
    rw [List.forall₂_map_right_iff, List.forall₂_same]
    exact fun instruction _ => ⟨_, rfl, rfl, rfl, rfl⟩

/-! ### Compiling again -/

section Instructions

variable {keys : List Address} {collected : MessageKeys} {instruction : Instruction}
  {params : Params}

theorem names_of_reported {document : Json} (program : instruction.program ∈ keys)
    (accounts : ∀ account ∈ instruction.accounts, account.address ∈ keys)
    (reported : (IndexedInstruction.ofInstruction keys instruction).Reported document) :
    Names (keys.map collected.entryOf) document
      (collected.entryOf (instruction.throughPlaces keys).program)
      ((instruction.throughPlaces keys).accounts.map fun account =>
        collected.entryOf account.address)
      instruction.data := by
  obtain ⟨fields, rfl, programAt, accountsAt, data⟩ := reported
  have entryAt {address : Address} (member : address ∈ keys) :
      (keys.map collected.entryOf)[(IndexedInstruction.place keys address).toNat]? =
        some (collected.entryOf (IndexedInstruction.keyAt keys address)) := by
    rw [List.getElem?_map, IndexedInstruction.getElem?_place member, Option.map_some]
  refine @Names.indexed _ _ _ (instruction.accounts.map fun account =>
    (IndexedInstruction.place keys account.address).toNat) _ _ _ programAt (entryAt program)
      ?_ ?_ ?_
  · rw [accountsAt, Option.getD_some, IndexedInstruction.ofInstruction, List.map_map, List.map_map]
    rfl
  · rw [Instruction.throughPlaces, List.map_map, List.forall₂_map_left_iff,
      List.forall₂_map_right_iff, List.forall₂_same]
    exact fun account member => entryAt (accounts account member)
  · rw [data]
    rfl

/-- An instruction that calls what keys stand for is determined by the keys and their rights. -/
theorem Instruction.eq_of_calls {compiled : Instruction}
    (calls : compiled.Calls (collected.entryOf instruction.program)
      (instruction.accounts.map fun account =>
      collected.entryOf account.address) instruction.data) :
    compiled = instruction.withRights fun address => collected.rightsAt address := by
  obtain ⟨program, data, accounts⟩ := compiled
  obtain ⟨programSame, rfl, each⟩ := calls
  obtain rfl := Address.text_injective programSame
  have accountsSame : List.Forall₂ (· = ·) accounts
      (instruction.withRights fun address => collected.rightsAt address).accounts := by
    rw [List.forall₂_map_right_iff] at each
    rw [Instruction.withRights, List.forall₂_map_right_iff]
    refine each.imp fun account given matched => ?_
    obtain ⟨address, signer, writable⟩ := account
    obtain ⟨addressSame, rfl, rfl⟩ := matched
    obtain rfl := Address.text_injective addressSame
    rfl
  rw [List.forall₂_eq_eq_eq] at accountsSame
  rw [accountsSame]
  rfl

theorem compile_of_reported {associated : List AssociatedAccount} {document : Json}
    {entry : InstructionTemplate} (wellFormed : Roster.WellFormed (keys.map collected.entryOf))
    (given : Roster.signers (keys.map collected.entryOf) <+: params)
    (sound : ∀ known ∈ associated, known.Derives) (program : instruction.program ∈ keys)
    (accounts : ∀ account ∈ instruction.accounts, account.address ∈ keys)
    (reported : (IndexedInstruction.ofInstruction keys instruction).Reported document)
    (done : (Decompiler.decompile ⟨keys.map collected.entryOf,
      Roster.signers (keys.map collected.entryOf), associated⟩ document).outcome = .ok entry) :
    (entry.compile params).outcome =
      .ok ((instruction.throughPlaces keys).withRights fun address =>
        collected.rightsAt address) := by
  have names := @names_of_reported keys collected instruction document program accounts reported
  obtain ⟨compiled, recompiles, calls⟩ :=
    recompile_of_names wellFormed rfl (supplied_of_wellFormed wellFormed given) sound names done
  obtain ⟨parts, data, -, -, rfl⟩ := Decompiler.decompile_eq_ok.mp done
  rw [recompile, Traced.outcome_bind, Traced.outcome_liftM, InstructionTemplate.ofJson_toJson _
    (fun _ member => absurd member List.not_mem_nil), Outcome.ok_bind] at recompiles
  rw [recompiles, Instruction.eq_of_calls calls]

end Instructions

/-! ### Signing again -/

theorem resolve_signerParams {directory : Directory} {decompiler : Decompiler}
    {sources : List String} {keypairs : List Keypair}
    (few : decompiler.signers.length ≤ MessageHeader.limit)
    (loads : List.Forall₂ (fun source keypair => Keypair.load directory (.str source) = .ok keypair)
      sources keypairs)
    (matching : sources.length = decompiler.signers.length) :
    decompiler.signerParams.mapM (Keypair.resolve directory (decompiler.signers ++ sources)) =
      .ok keypairs := by
  obtain ⟨sameLength, each⟩ := List.forall₂_iff_get.mp loads
  rw [Outcome.mapM_eq_ok, Decompiler.signerParams, List.forall₂_map_left_iff, List.forall₂_iff_get]
  refine ⟨by rw [List.length_range, ← matching, sameLength], fun index inside there => ?_⟩
  have here : index < sources.length := sameLength ▸ there
  have given : (decompiler.signers ++ sources)[decompiler.signers.length + index]? =
      some sources[index] := by
    rw [List.getElem?_append_right (Nat.le_add_right _ _), Nat.add_sub_cancel_left,
      List.getElem?_eq_getElem here]
  have short : (Decimal.ofNat (decompiler.signers.length + index + 1)).length ≤
      Decimal.digitLimit := by
    have limit : MessageHeader.limit = 255 := rfl
    have length := Decimal.length_ofNat_le (decompiler.signers.length + index + 1) 3 (by decide)
      (by omega)
    exact Nat.le_trans length (by decide)
  have resolved := Placeholder.resolve_text _ _ _ short given
  have position : (List.range decompiler.signers.length).get ⟨index, inside⟩ = index :=
    List.getElem_range _
  rw [position, Keypair.resolve, resolved, Outcome.ok_bind]
  exact each index here there

theorem DecompiledTransaction.ofJson_toJson {transaction : DecompiledTransaction}
    (plain : ∀ entry ∈ transaction.instructions, entry.extra = []) :
    TransactionTemplate.ofJson transaction.toJson =
      .ok ⟨transaction.instructions, transaction.signers, .null⟩ := by
  have instructions : (transaction.instructions.map InstructionTemplate.toJson).mapM
      InstructionTemplate.ofJson = .ok transaction.instructions := by
    refine InstructionTemplate.mapM_ofJson_toJson fun entry member field listed => ?_
    rw [plain entry member] at listed
    cases listed
  have found (first second : Json) :
      List.lookup "instructions" [("instructions", first), ("signers", second)] = some first ∧
      List.lookup "signers" [("instructions", first), ("signers", second)] = some second ∧
      List.lookup "lookup_tables" [("instructions", first), ("signers", second)] = none :=
        ⟨rfl, rfl, rfl⟩
  simp only [TransactionTemplate.ofJson, DecompiledTransaction.toJson, Json.contains, Json.member,
    Json.fieldOrNull, (found _ _).1, (found _ _).2.1, (found _ _).2.2, Option.isSome_some,
    Option.getD_some, Option.getD_none, Outcome.ok_bind, Json.elements_orElse]
  simp only [Json.elements, Outcome.ok_bind, instructions]
  rfl

/-! ### The whole message -/

theorem wellFormed_keys {keys : List Address} (distinct : keys.Nodup) (collected : MessageKeys) :
    Roster.WellFormed (keys.map collected.entryOf) where
  distinct := by
    rw [List.map_map]
    exact distinct.map Address.text_injective
  valid entry listed := by
    obtain ⟨key, -, rfl⟩ := List.mem_map.mp listed
    exact ⟨key, Address.read_text key⟩

section Messages

variable {payer blockhash : Address} {instructions : List Instruction} {message : Message}
  {transaction : Json} {fields : Fields} {documents : List Json}
  {decompiled : DecompiledTransaction}
  {params : Params}

/-- The rights that the instructions of a message ask for, key by key. -/
def Message.rosterOf (payer : Address) (instructions : List Instruction) (message : Message) :
    Roster :=
  message.keys.map (MessageKeys.entryOf (.ofInstructions payer instructions))

theorem signers_rosterOf (made : Message.plain payer instructions blockhash = .ok message) :
    (message.rosterOf payer instructions).signers = message.signers.map Address.text := by
  rw [Message.rosterOf, Roster.signers_eq (wellFormed_keys (Message.nodup_keys made) _).distinct,
    List.filter_map, List.map_map, ← Message.filter_keys_signers made]
  rfl

theorem ofMessage_of_reported (made : Message.plain payer instructions blockhash = .ok message)
    (reported : message.Reported transaction fields documents) :
    ∃ record, recordOf transaction = .ok record ∧
      Roster.ofMessage fields record = .ok (message.rosterOf payer instructions) := by
  obtain ⟨recorded, records, loads⟩ := reported.records
  have given : (fields.lookup "accountKeys").getD (.arr []) =
      .arr ((message.keys.map Address.text).map .str) := by
    rw [reported.keys, Option.getD_some, List.map_map]
    rfl
  refine ⟨_, records, ?_⟩
  rw [Roster.ofMessage_of_lists (.header given reported.header rfl loads), Message.ofKeys_keys made]
  exact congrArg Except.ok (List.append_nil _)

theorem reported_each (made : Message.plain payer instructions blockhash = .ok message)
    (reported : message.Reported transaction fields documents) :
    List.Forall₂ (fun instruction document =>
      (instruction.program ∈ message.keys ∧
        ∀ account ∈ instruction.accounts, account.address ∈ message.keys) ∧
        (IndexedInstruction.ofInstruction message.keys instruction).Reported document)
      instructions documents := by
  have each := reported.each
  have placed := Message.mem_keys made
  obtain ⟨-, rfl⟩ := Message.plain_eq_ok.mp made
  rw [List.forall₂_map_left_iff] at each
  exact (List.forall₂_and_left _ _).mpr ⟨placed, each⟩

theorem exists_decompiled (made : Message.plain payer instructions blockhash = .ok message)
    (reported : message.Reported transaction fields documents)
    (derivable : AssociatedAccount.Derivable (message.keys.map Address.text)) :
    ∃ decompiled, (decompileTransaction transaction).outcome = .ok decompiled := by
  obtain ⟨record, records, listed⟩ := ofMessage_of_reported made reported
  have accounts : (message.rosterOf payer instructions).map RosterEntry.account =
      message.keys.map Address.text := List.map_map
  obtain ⟨associated, found⟩ := AssociatedAccount.exists_find (accounts ▸ derivable)
  have each : ∀ document ∈ documents, ∃ entry,
    (Decompiler.decompile ⟨message.rosterOf payer instructions,
      (message.rosterOf payer instructions).signers, associated⟩ document).outcome = .ok entry := by
    intro document member
    obtain ⟨instruction, ⟨program, accounts⟩, reports⟩ :=
      Outcome.exists_of_mem_results (reported_each made reported) document member
    obtain ⟨data, converted, -⟩ := dataOfJson_base58 instruction.data
    exact ⟨_, Decompiler.decompile_eq_ok.mpr ⟨_, data,
      parts_of_names (names_of_reported program accounts reports), converted, rfl⟩⟩
  obtain ⟨decompiled, done, -⟩ := exists_decompileTransaction reported.encoded records listed found
    reported.given each
  exact ⟨decompiled, done⟩

theorem entries_of_decompiled (made : Message.plain payer instructions blockhash = .ok message)
    (reported : message.Reported transaction fields documents)
    (done : (decompileTransaction transaction).outcome = .ok decompiled) :
    ∃ associated, (∀ known ∈ associated, AssociatedAccount.Derives known) ∧
      List.Forall₂ (fun document entry =>
        (Decompiler.decompile ⟨message.rosterOf payer instructions,
        (message.rosterOf payer instructions).signers, associated⟩ document).outcome = .ok entry)
        documents decompiled.instructions ∧
      decompiled.signers = Decompiler.signerParams ⟨message.rosterOf payer instructions,
        (message.rosterOf payer instructions).signers, associated⟩ := by
  obtain ⟨record, records, listed⟩ := ofMessage_of_reported made reported
  obtain ⟨otherFields, otherRecord, roster, decompiler, otherDocuments, encoded, otherRecords,
    otherListed, ready, given, each, signers⟩ := decompileTransaction_eq_ok.mp done
  obtain rfl := Option.some.inj (Except.ok.inj (reported.encoded.symm.trans encoded))
  obtain rfl := Except.ok.inj (records.symm.trans otherRecords)
  obtain rfl := Except.ok.inj (listed.symm.trans otherListed)
  obtain rfl := Except.ok.inj (reported.given.symm.trans given)
  obtain ⟨associated, found, rfl⟩ := Decompiler.ofRoster_eq_ok.mp ready
  exact ⟨associated, AssociatedAccount.derives_of_find found, each, signers⟩

/-- What the instructions of a message become: what is found through their places, with the rights
that the whole message gave. -/
def Message.reread (payer : Address) (instructions : List Instruction) (message : Message) :
    List Instruction :=
  instructions.map fun instruction =>
    (instruction.throughPlaces message.keys).withRights fun address =>
      (MessageKeys.ofInstructions payer instructions).rightsAt address

theorem compile_instructions (made : Message.plain payer instructions blockhash = .ok message)
    (reported : message.Reported transaction fields documents)
    (done : (decompileTransaction transaction).outcome = .ok decompiled)
    (given : message.signers.map Address.text <+: params) :
    (decompiled.instructions.mapM (InstructionTemplate.compile params)).outcome =
      .ok (message.reread payer instructions) := by
  obtain ⟨associated, sound, entries, -⟩ := entries_of_decompiled made reported done
  rw [Traced.outcome_mapM, Outcome.mapM_eq_ok, Message.reread, List.forall₂_map_right_iff]
  refine ((Outcome.forall₂_comp (reported_each made reported) entries).imp ?_).flip
  rintro instruction entry ⟨document, ⟨⟨program, accounts⟩, reports⟩, decompiles⟩
  exact compile_of_reported (wellFormed_keys (Message.nodup_keys made) _)
    (signers_rosterOf made ▸ given) sound program accounts reports decompiles

theorem mem_take_of_reread (made : Message.plain payer instructions blockhash = .ok message)
    {address : Address}
    (member : address ∈ (Message.groupsOf payer (message.reread payer instructions)).addresses) :
    address ∈ message.keys.take 256 := by
  rcases Message.mem_groupsOf.mp member with rfl | ⟨again, listed, named⟩
  · obtain ⟨rest, whole⟩ := List.head?_eq_some_iff.mp (Message.head?_keys made)
    rw [whole, List.take_succ_cons]
    exact List.mem_cons_self
  · obtain ⟨instruction, inside, rfl⟩ := List.mem_map.mp listed
    obtain ⟨program, accounts⟩ := Message.mem_keys made instruction inside
    rcases named with rfl | ⟨_, accountListed, rfl⟩
    · exact IndexedInstruction.keyAt_mem_take program
    · obtain ⟨_, found, rfl⟩ := List.mem_map.mp accountListed
      obtain ⟨account, given, rfl⟩ := List.mem_map.mp found
      exact IndexedInstruction.keyAt_mem_take (accounts account given)

theorem reread_of_length_le (made : Message.plain payer instructions blockhash = .ok message)
    (few : message.keys.length ≤ 256) :
    message.reread payer instructions = instructions.map (.withRights fun address =>
      (MessageKeys.ofInstructions payer instructions).rightsAt address) := by
  refine List.map_congr_left fun instruction member => ?_
  obtain ⟨program, accounts⟩ := Message.mem_keys made instruction member
  have back : instruction.accounts.map (fun account =>
      { account with address := IndexedInstruction.keyAt message.keys account.address }) =
        instruction.accounts := by
    refine (List.map_congr_left fun account listed => ?_).trans (List.map_id _)
    rw [IndexedInstruction.keyAt_of_length_le few (accounts account listed)]
    rfl
  rw [Instruction.throughPlaces, IndexedInstruction.keyAt_of_length_le few program, back]

/-- A message comes back from what its instructions became exactly when a byte can count its
keys. -/
theorem plain_reread_iff (made : Message.plain payer instructions blockhash = .ok message) :
    Message.plain payer (message.reread payer instructions) blockhash = .ok message ↔
      message.keys.length ≤ 256 := by
  constructor
  · intro again
    have early : message.keys ⊆ message.keys.take 256 := by
      intro address member
      rw [Message.keys_eq again] at member
      exact mem_take_of_reread made member
    have length := (List.subperm_of_subset (Message.nodup_keys made) early).length_le
    exact Nat.le_trans length (List.length_take_le 256 _)
  · intro few
    rw [reread_of_length_le made few, Message.plain_withRights, made]

theorem compile_decompiled {directory : Directory} {sources : List String} {keypairs : List Keypair}
    (made : Message.plain payer instructions blockhash = .ok message)
    (reported : message.Reported transaction fields documents)
    (done : (decompileTransaction transaction).outcome = .ok decompiled)
    (loads : List.Forall₂ (fun source keypair => Keypair.load directory (.str source) = .ok keypair)
      sources keypairs) (matching : keypairs.map Keypair.address = message.signers) :
    ∃ template, TransactionTemplate.ofJson decompiled.toJson = .ok template ∧
      (template.compile directory (message.signers.map Address.text ++ sources)).outcome =
        .ok ⟨message.reread payer instructions, keypairs, []⟩ := by
  obtain ⟨associated, -, entries, signers⟩ := entries_of_decompiled made reported done
  have plain : ∀ entry ∈ decompiled.instructions, entry.extra = [] := by
    intro entry member
    obtain ⟨document, entryDone⟩ := Outcome.exists_of_mem_results entries entry member
    obtain ⟨parts, data, -, -, rfl⟩ := Decompiler.decompile_eq_ok.mp entryDone
    rfl
  have instructionsDone := compile_instructions made reported done (List.prefix_append _ sources)
  have few : (message.rosterOf payer instructions).signers.length ≤ MessageHeader.limit := by
    rw [signers_rosterOf made, List.length_map]
    exact Message.length_signers_le made
  have count : sources.length = (message.rosterOf payer instructions).signers.length := by
    rw [signers_rosterOf made, List.length_map, ← matching, List.length_map, loads.length_eq]
  have signed := @resolve_signerParams directory ⟨message.rosterOf payer instructions,
    (message.rosterOf payer instructions).signers, associated⟩ _ _ few loads count
  rw [← signers] at signed
  dsimp only at signed
  rw [signers_rosterOf made] at signed
  refine ⟨_, DecompiledTransaction.ofJson_toJson plain, ?_⟩
  simp only [TransactionTemplate.compile, TransactionTemplate.resolveSigners, Traced.outcome_bind,
    instructionsDone, Traced.outcome_liftM, signed, Outcome.ok_bind]
  rfl

theorem messageFor_nil (compiled : CompiledTransaction) (payer blockhash : Address) :
    Job.messageFor compiled payer [] blockhash =
      Message.plain payer compiled.instructions blockhash := rfl

/-- Submitting a decompiled message again. It decompiles where every two of its keys derive a token
account, the template compiles with the addresses of the signers and behind them the sources of
their keypairs, and the first signer, who pays, is the one who paid. With the same hash the same
message is signed exactly when a byte can count its keys. -/
theorem resubmit_decompiled_iff {directory : Directory} {sources : List String}
    {keypairs : List Keypair} (made : Message.plain payer instructions blockhash = .ok message)
    (reported : message.Reported transaction fields documents)
    (derivable : AssociatedAccount.Derivable (message.keys.map Address.text))
    (loads : List.Forall₂ (fun source keypair => Keypair.load directory (.str source) = .ok keypair)
      sources keypairs)
    (matching : keypairs.map Keypair.address = message.signers) :
    ∃ decompiled template compiled, (decompileTransaction transaction).outcome = .ok decompiled ∧
      TransactionTemplate.ofJson decompiled.toJson = .ok template ∧
      (template.compile directory (message.signers.map Address.text ++ sources)).outcome =
        .ok compiled ∧
      compiled.signers = keypairs ∧ compiled.lookupTables = [] ∧
        Job.payerOf compiled none = .ok payer ∧
      (Job.messageFor compiled payer [] blockhash = .ok message ↔ message.keys.length ≤ 256) := by
  obtain ⟨decompiled, done⟩ := exists_decompiled made reported derivable
  obtain ⟨template, read, compiles⟩ := compile_decompiled made reported done loads matching
  refine ⟨decompiled, template, _, done, read, compiles, rfl, rfl, ?_, ?_⟩
  · have first := Message.head?_signers made
    rw [← matching] at first
    cases keypairs with
    | nil => cases first
    | cons keypair rest => exact congrArg Except.ok (Option.some.inj first)
  · rw [messageFor_nil, plain_reread_iff made]

end Messages

/-! ### Two messages -/

def feePayer : Keypair where
  seed := List.replicate 32 0
  address := ⟨[0x3B, 0x6A, 0x27, 0xBC, 0xCE, 0xB6, 0xA4, 0x2D, 0x62, 0xA3, 0xA8, 0xD0, 0x2A, 0x6F,
    0x0D, 0x73,
    0x65, 0x32, 0x15, 0x77, 0x1D, 0xE2, 0x43, 0xA6, 0x3A, 0xC0, 0x48, 0xA1, 0x8B, 0x59, 0xDA, 0x29],
      rfl⟩

theorem load_feePayer : Keypair.load .empty (.str (Base58.text feePayer.secret)) = .ok feePayer :=
  Outcome.toOption_eq_some.mp (by decide +kernel)

def paidInstruction : Instruction :=
  ⟨Address.systemProgram, [2, 0], [⟨feePayer.address, true, true⟩]⟩

def paidMessage : Message where
  header := ⟨1, 0, 1⟩
  keys := [feePayer.address, Address.systemProgram]
  blockhash := Address.systemProgram
  instructions := [⟨1, [0], [2, 0]⟩]
  lookups := none

theorem resubmit_paidMessage :
    ∃ decompiled template compiled,
      (decompileTransaction paidMessage.document).outcome = .ok decompiled ∧
      TransactionTemplate.ofJson decompiled.toJson = .ok template ∧
      (template.compile .empty [feePayer.address.text, Base58.text feePayer.secret]).outcome =
        .ok compiled ∧
      Job.payerOf compiled none = .ok feePayer.address ∧
      Job.messageFor compiled feePayer.address [] Address.systemProgram = .ok paidMessage := by
  have made : Message.plain feePayer.address [paidInstruction] Address.systemProgram =
    .ok paidMessage := rfl
  have derivable : AssociatedAccount.Derivable (paidMessage.keys.map Address.text) := by
    decide +kernel
  obtain ⟨decompiled, template, compiled, done, read, compiles, -, -, pays, same⟩ :=
    resubmit_decompiled_iff made paidMessage.reported_document derivable
      (.cons load_feePayer .nil) rfl
  exact ⟨decompiled, template, compiled, done, read, compiles, pays, same.mpr (by decide)⟩

def numbered (number : Nat) : Address :=
  ⟨UInt8.ofNat (number / 256) :: UInt8.ofNat number :: List.replicate 30 0, rfl⟩

/-- An instruction of 256 accounts; with the one that pays there are more than a byte can count. -/
def crowdedInstruction : Instruction where
  program := numbered 0
  data := []
  accounts := (List.range 256).reverse.map fun number => ⟨numbered number, false, true⟩

def crowdedMessage : Message where
  header := .ofGroups (Message.groupsOf feePayer.address [crowdedInstruction])
  keys := (Message.groupsOf feePayer.address [crowdedInstruction]).addresses
  blockhash := Address.systemProgram
  instructions := [.ofInstruction (Message.groupsOf feePayer.address [crowdedInstruction]).addresses
    crowdedInstruction]
  lookups := none

/-- Whatever its keys derive, the crowded message never comes back. -/
theorem resubmit_crowdedMessage :
    Message.plain feePayer.address [crowdedInstruction] Address.systemProgram = .ok crowdedMessage ∧
      crowdedMessage.keys.length = 257 ∧ crowdedMessage.signers = [feePayer.address] ∧
      Keypair.load .empty (.str (Base58.text feePayer.secret)) = .ok feePayer ∧
      ¬ ∃ decompiled template compiled,
        (decompileTransaction crowdedMessage.document).outcome = .ok decompiled ∧
        TransactionTemplate.ofJson decompiled.toJson = .ok template ∧
        (template.compile .empty [feePayer.address.text, Base58.text feePayer.secret]).outcome =
          .ok compiled ∧
        Job.messageFor compiled feePayer.address [] Address.systemProgram = .ok crowdedMessage := by
  have made : Message.plain feePayer.address [crowdedInstruction] Address.systemProgram =
      .ok crowdedMessage := Message.plain_eq_ok.mpr ⟨by decide +kernel, rfl⟩
  have many : crowdedMessage.keys.length = 257 := by decide +kernel
  have signers : crowdedMessage.signers = [feePayer.address] := by decide +kernel
  refine ⟨made, many, signers, load_feePayer, ?_⟩
  rintro ⟨decompiled, template, compiled, done, read, compiles, same⟩
  obtain ⟨other, otherRead, otherCompiles⟩ :=
    compile_decompiled made crowdedMessage.reported_document done
    (.cons load_feePayer .nil) signers.symm
  obtain rfl := Except.ok.inj (read.symm.trans otherRead)
  rw [signers] at otherCompiles
  obtain rfl := Except.ok.inj (compiles.symm.trans otherCompiles)
  rw [messageFor_nil, plain_reread_iff made, many] at same
  exact absurd same (by decide)

end TxTemplate
