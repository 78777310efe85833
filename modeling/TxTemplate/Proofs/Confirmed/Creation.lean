import TxTemplate.Proofs.Confirmed.BestEffort
import TxTemplate.Proofs.Confirmed.Recompile

set_option autoImplicit false

/-! Creations of token accounts that the node has parsed. Their accounts are taken from the info in
the order of a fixed list of names, whatever its own order is, and come back from compiling in that
order. The list names the wallet before the payer, but the instruction itself has the payer first:
only where the two are the same account is it the same order. -/

namespace TxTemplate

/-- The accounts of a creation, and whether the account may be there already. -/
structure Creation where
  payer : Address
  account : Address
  wallet : Address
  mint : Address
  systemProgram : Address
  tokenProgram : Address
  idempotent : Bool
  deriving DecidableEq

namespace Creation

def accounts (creation : Creation) : List Address :=
  [creation.payer, creation.account, creation.wallet, creation.mint, creation.systemProgram,
    creation.tokenProgram]

/-- The accounts in the order in which their names are looked up. -/
def listed (creation : Creation) : List Address :=
  [creation.wallet, creation.account, creation.payer, creation.mint, creation.systemProgram,
    creation.tokenProgram]

theorem listed_eq_accounts_iff (creation : Creation) :
    creation.listed = creation.accounts ↔ creation.payer = creation.wallet := by
  constructor
  · intro same
    exact (List.cons.inj same).1.symm
  · intro same
    rw [listed, accounts, same]

def kind (creation : Creation) : String :=
  if creation.idempotent then "createIdempotent" else "create"

def bytes (creation : Creation) : Bytes := if creation.idempotent then [1] else []

def data (creation : Creation) : Json :=
  if creation.idempotent then Shorthand.typed "u8" (.int 1) else .int 0

/-- The info names each account of the creation; nothing is said about the order. -/
structure Named (creation : Creation) (info : Fields) : Prop where
  payer : info.lookup "source" = some (.str creation.payer.text)
  account : info.lookup "account" = some (.str creation.account.text)
  wallet : info.lookup "wallet" = some (.str creation.wallet.text)
  mint : info.lookup "mint" = some (.str creation.mint.text)
  systemProgram : info.lookup "systemProgram" = some (.str creation.systemProgram.text)
  tokenProgram : info.lookup "tokenProgram" = some (.str creation.tokenProgram.text)

/-- An instruction of the associated token program that the node has parsed as a creation. -/
inductive Parsed (creation : Creation) : Json → Prop where
  | intro {fields parsed info : Fields} (unindexed : fields.lookup "programIdIndex" = none)
      (program : fields.lookup "programId" = some (.str Address.associatedTokenProgram.text))
      (given : fields.lookup "parsed" = some (.obj parsed))
      (kind : parsed.lookup "type" = some (.str creation.kind))
      (detailed : parsed.lookup "info" = some (.obj info)) (named : Named creation info) :
      Parsed creation (.obj fields)

variable {creation : Creation}

theorem creationAccounts_of_named {info : Fields} (named : Named creation info) :
    NativeReading.creationAccounts (.obj info) = creation.listed.map Address.text := by
  simp only [NativeReading.creationAccounts, NativeReading.creationKeys, List.filterMap_cons,
    List.filterMap_nil, named.payer, named.account, named.wallet, named.mint, named.systemProgram,
    named.tokenProgram]
  rfl

theorem creationData_kind (creation : Creation) :
    NativeReading.creationData (.str creation.kind) = .ok creation.data := by
  unfold kind data
  cases creation.idempotent with
  | false => rfl
  | true => rfl

theorem pack_data (creation : Creation) (params : Params) :
    (TypedData.pack params creation.data).outcome = .ok creation.bytes := by
  unfold data bytes
  cases creation.idempotent with
  | false => rfl
  | true => rfl

theorem dataOfJson_data (creation : Creation) : dataOfJson creation.data = .ok creation.data := by
  unfold data
  cases creation.idempotent with
  | false => rfl
  | true => rfl

theorem read_of_named {parsed info : Fields}
    (kind : parsed.lookup "type" = some (.str creation.kind))
    (detailed : parsed.lookup "info" = some (.obj info)) (named : Named creation info) :
    NativeReading.read Address.associatedTokenProgram.text (.obj parsed) =
      .ok ⟨creation.listed.map Address.text, creation.data⟩ := by
  have other : ¬ Address.associatedTokenProgram.text = Address.systemProgram.text := by decide
  simp only [NativeReading.read, kind, detailed, Option.getD_some, if_neg other, if_true,
    creationData_kind, Outcome.ok_bind, creationAccounts_of_named named, Outcome.pure_eq_ok]

/-- A creation is read as its accounts in the order of their names, and its own data. -/
theorem parts_of_parsed {instruction : Json} (parsed : Parsed creation instruction)
    (decompiler : Decompiler) :
    decompiler.parts instruction = .ok ⟨Address.associatedTokenProgram.text,
      creation.listed.map Address.text, creation.data⟩ := by
  obtain ⟨unindexed, program, given, kind, detailed, named⟩ := parsed
  have known : creation.data ≠ .null := by
    unfold data
    cases creation.idempotent with
    | false => exact Json.noConfusion
    | true => exact Json.noConfusion
  simp only [Decompiler.parts, Decompiler.namedParts, Json.contains, Json.field?, unindexed,
    program, given, Option.isSome_none, Bool.false_eq_true, if_false, Outcome.ok_bind,
    Option.getD_some, Json.display, read_of_named kind detailed named, Outcome.pure_eq_ok]

theorem exists_decompile {instruction : Json} (parsed : Parsed creation instruction)
    (decompiler : Decompiler) :
    ∃ entry, (decompiler.decompile instruction).outcome = .ok entry :=
  ⟨_, Decompiler.decompile_eq_ok.mpr ⟨_, _, parts_of_parsed parsed decompiler,
    dataOfJson_data creation, rfl⟩⟩

end Creation

/-! ### Compiling -/

def Roster.rightsOf (roster : Roster) (address : Address) : AccountMeta where
  address := address
  signer := roster.signers.contains address.text
  writable := roster.isWritable address.text

theorem Roster.addresses_rightsOf (roster : Roster) (addresses : List Address) :
    (addresses.map roster.rightsOf).map AccountMeta.address = addresses := by
  rw [List.map_map]
  exact List.map_id addresses

section Compiling

variable {decompiler : Decompiler} {params : Params}

theorem resolveAccounts_of_addresses (signers : decompiler.signers = decompiler.roster.signers)
    (supplied : decompiler.Supplied params) (sound : decompiler.Sound) (addresses : List Address) :
    InstructionTemplate.resolveAccounts params
        ((addresses.map Address.text).map decompiler.accountTemplate) =
      .ok (addresses.map decompiler.roster.rightsOf) := by
  rw [InstructionTemplate.resolveAccounts, Outcome.mapM_eq_ok, List.map_map,
    List.forall₂_map_left_iff, List.forall₂_map_right_iff, List.forall₂_same]
  intro address _
  simp only [Function.comp_apply, InstructionTemplate.resolveAccount, Decompiler.accountTemplate,
    Decompiler.resolve_descriptor supplied sound (Address.read_text address), Outcome.ok_bind,
    Outcome.pure_eq_ok, Roster.rightsOf, signers]

/-- A creation comes back with its program and its bytes, and with its accounts in the order of
their names. -/
theorem recompile_of_parsed {creation : Creation} {instruction : Json}
    {entry : InstructionTemplate} (signers : decompiler.signers = decompiler.roster.signers)
    (supplied : decompiler.Supplied params) (sound : decompiler.Sound)
    (parsed : creation.Parsed instruction)
    (done : (decompiler.decompile instruction).outcome = .ok entry) :
    (recompile params entry).outcome =
      .ok ⟨Address.associatedTokenProgram, creation.bytes,
        creation.listed.map decompiler.roster.rightsOf⟩ := by
  obtain ⟨parts, data, taken, read, rfl⟩ := Decompiler.decompile_eq_ok.mp done
  obtain rfl := Except.ok.inj ((creation.parts_of_parsed parsed decompiler).symm.trans taken)
  obtain rfl : creation.data = data := Except.ok.inj (creation.dataOfJson_data.symm.trans read)
  exact recompile_of_resolved (Address.read_text _)
    (resolveAccounts_of_addresses signers supplied sound creation.listed)
      (creation.pack_data params)

end Compiling

section Transactions

variable {transaction record : Json} {message : Fields} {roster : Roster} {instructions : List Json}

theorem recompile_creations (encoded : messageOf? transaction = .ok (some message))
    (recorded : recordOf transaction = .ok record)
    (listed : Roster.ofMessage message record = .ok roster)
    (valid : ∀ entry ∈ roster, ∃ address, Address.read entry.account = .ok address)
    (given : instructionsOf message = .ok instructions) {template : DecompiledTransaction}
    (done : (decompileTransaction transaction).outcome = .ok template) :
    List.Forall₂ (fun instruction entry => ∀ creation : Creation, creation.Parsed instruction →
      ∀ params, roster.signers <+: params → (recompile params entry).outcome =
        .ok ⟨Address.associatedTokenProgram, creation.bytes, creation.listed.map roster.rightsOf⟩)
      instructions template.instructions := by
  obtain ⟨otherMessage, otherRecord, otherRoster, decompiler, otherInstructions, otherEncoded,
    otherRecorded, otherListed, made, otherGiven, each, -⟩ := decompileTransaction_eq_ok.mp done
  obtain rfl := Option.some.inj (Except.ok.inj (encoded.symm.trans otherEncoded))
  obtain rfl := Except.ok.inj (recorded.symm.trans otherRecorded)
  obtain rfl := Except.ok.inj (listed.symm.trans otherListed)
  obtain rfl := Except.ok.inj (given.symm.trans otherGiven)
  obtain ⟨associated, found, rfl⟩ := Decompiler.ofRoster_eq_ok.mp made
  refine each.imp fun instruction entry entryDone creation parsed params supplied => ?_
  exact recompile_of_parsed rfl (supplied_of_valid valid supplied)
    (AssociatedAccount.derives_of_find found) parsed entryDone

/-- A creation that was decompiled calls its program again, with its own bytes and with its accounts
in the order of their names, whatever their order in the info is. That is the order of the
instruction exactly where the wallet pays for itself. Creations always decompile, provided any two
of the accounts of the transaction derive an address. -/
theorem recompile_decompiled_creations (encoded : messageOf? transaction = .ok (some message))
    (recorded : recordOf transaction = .ok record)
    (listed : Roster.ofMessage message record = .ok roster)
    (valid : ∀ entry ∈ roster, ∃ address, Address.read entry.account = .ok address)
    (given : instructionsOf message = .ok instructions) :
    (AssociatedAccount.Derivable (roster.map RosterEntry.account) →
      (∀ instruction ∈ instructions, ∃ creation : Creation, creation.Parsed instruction) →
      ∃ template, (decompileTransaction transaction).outcome = .ok template) ∧
    ∀ template, (decompileTransaction transaction).outcome = .ok template →
      List.Forall₂ (fun instruction entry => ∀ creation : Creation, creation.Parsed instruction →
        ∀ params, roster.signers <+: params →
          ∃ compiled, (recompile params entry).outcome = .ok compiled ∧
            compiled.program = Address.associatedTokenProgram ∧ compiled.data = creation.bytes ∧
            compiled.accounts = creation.listed.map roster.rightsOf ∧
            (compiled.accounts.map AccountMeta.address = creation.accounts ↔
              creation.payer = creation.wallet)) instructions template.instructions := by
  constructor
  · intro derivable creations
    obtain ⟨associated, found⟩ := AssociatedAccount.exists_find derivable
    obtain ⟨template, done, -⟩ := exists_decompileTransaction encoded recorded listed found given
      fun instruction member => by
        obtain ⟨creation, parsed⟩ := creations instruction member
        exact Creation.exists_decompile parsed _
    exact ⟨template, done⟩
  · intro template done
    refine (recompile_creations encoded recorded listed valid given done).imp ?_
    intro instruction entry recompiles creation parsed params supplied
    refine ⟨_, recompiles creation parsed params supplied, rfl, rfl, rfl, ?_⟩
    rw [roster.addresses_rightsOf, creation.listed_eq_accounts_iff]

end Transactions

/-! ### A payer of its own -/

def Address.repeated (byte : UInt8) : Address := ⟨List.replicate 32 byte, List.length_replicate⟩

/-- The creation of a wallet's token account, for which somebody else may pay. -/
def walletCreation (payer : Address) : Creation where
  payer := payer
  account := ⟨[153, 88, 219, 56, 195, 187, 139, 240, 79, 109, 168, 29, 89, 211, 227, 79,
    126, 23, 222, 62, 201, 75, 136, 94, 45, 121, 5, 14, 117, 255, 63, 110], rfl⟩
  wallet := .repeated 2
  mint := .repeated 3
  systemProgram := .systemProgram
  tokenProgram := .tokenProgram
  idempotent := true

def Creation.document (creation : Creation) : Json :=
  .obj [("programId", .str Address.associatedTokenProgram.text),
    ("parsed", .obj [("type", .str creation.kind),
      ("info", .obj [("source", .str creation.payer.text), ("account", .str creation.account.text),
        ("wallet", .str creation.wallet.text), ("mint", .str creation.mint.text),
        ("systemProgram", .str creation.systemProgram.text),
        ("tokenProgram", .str creation.tokenProgram.text)])])]

theorem Creation.parsed_document (creation : Creation) : creation.Parsed creation.document :=
  .intro rfl rfl rfl rfl rfl ⟨rfl, rfl, rfl, rfl, rfl, rfl⟩

def Creation.message (creation : Creation) (others : List Address) : Fields :=
  [("accountKeys", .arr (((creation.payer :: others).map Address.text).map .str)),
    ("header", .obj [("numRequiredSignatures", .int 1)]),
      ("instructions", .arr [creation.document])]

def Creation.transaction (creation : Creation) (others : List Address) : Json :=
  .obj [("transaction", .obj [("message", .obj (creation.message others))])]

def Creation.roster (creation : Creation) (others : List Address) : Roster :=
  Roster.ofKeys 1 0 0 ((creation.payer :: others).map Address.text)

theorem Creation.ofMessage_message (creation : Creation) (others : List Address) :
    Roster.ofMessage (creation.message others) (.obj []) = .ok (creation.roster others) := by
  have lists : Roster.Lists (creation.message others) (.obj [])
      (creation.roster others ++ Roster.ofLoaded [] []) :=
    .header rfl ⟨_, rfl, rfl, rfl, rfl⟩ rfl ⟨rfl, rfl⟩
  rw [Roster.ofMessage_of_lists lists]
  exact congrArg Except.ok (List.append_nil _)

theorem Creation.valid_roster (creation : Creation) (others : List Address) :
    ∀ entry ∈ creation.roster others, ∃ address, Address.read entry.account = .ok address := by
  rw [roster, Roster.ofKeys, List.forall_mem_map]
  intro key member
  obtain ⟨address, -, same⟩ := List.mem_map.mp (List.fst_mem_of_mem_zipIdx member)
  exact ⟨address, by rw [Roster.keyEntry, ← same, Address.read_text]⟩

theorem recompile_systemCreation :
    ∃ template entry compiled,
      (decompileTransaction ((walletCreation .systemProgram).transaction [])).outcome =
        .ok template ∧
      template.instructions = [entry] ∧
      (recompile [Address.systemProgram.text] entry).outcome = .ok compiled ∧ compiled.data = [1] ∧
      compiled.accounts.map AccountMeta.address ≠ (walletCreation .systemProgram).accounts := by
  obtain ⟨decompiles, recompiles⟩ := recompile_decompiled_creations
    (rfl : messageOf? ((walletCreation .systemProgram).transaction []) = .ok (some _)) rfl
    (Creation.ofMessage_message _ _) (Creation.valid_roster _ _) rfl
  have all : ∀ instruction ∈ [(walletCreation .systemProgram).document],
      ∃ creation : Creation, creation.Parsed instruction := by
    rw [List.forall_mem_singleton]
    exact ⟨_, Creation.parsed_document _⟩
  have derivable : AssociatedAccount.Derivable
      (((walletCreation .systemProgram).roster []).map RosterEntry.account) := derivable_memosRoster
  obtain ⟨template, done⟩ := decompiles derivable all
  obtain ⟨entry, others, first, rest, same⟩ :=
    List.forall₂_cons_left_iff.mp (recompiles template done)
  obtain rfl := List.forall₂_nil_left_iff.mp rest
  obtain ⟨compiled, compiles, -, bytes, -, order⟩ :=
    first _ (Creation.parsed_document _) [Address.systemProgram.text] (List.prefix_refl _)
  refine ⟨template, entry, compiled, done, same, compiles, bytes, fun kept => ?_⟩
  have other : (walletCreation .systemProgram).payer ≠ (walletCreation .systemProgram).wallet := by
    decide
  exact other (order.mp kept)

/-- A creation that somebody else pays for, in a transaction that lists all its accounts, does not
come back with its accounts in their order. -/
theorem walletCreation_reordered :
    Address.associated? (walletCreation (.repeated 1)).wallet (walletCreation (.repeated 1)).mint =
        some (walletCreation (.repeated 1)).account ∧
      ¬ ∃ template entry compiled,
        (decompileTransaction ((walletCreation (.repeated 1)).transaction
          (walletCreation (.repeated 1)).accounts.tail)).outcome = .ok template ∧
        template.instructions = [entry] ∧
        (recompile [(Address.repeated 1).text] entry).outcome = .ok compiled ∧
        compiled.accounts.map AccountMeta.address = (walletCreation (.repeated 1)).accounts := by
  refine ⟨by decide +kernel, ?_⟩
  rintro ⟨template, entry, compiled, done, single, compiles, kept⟩
  have each := recompile_creations rfl rfl (Creation.ofMessage_message _ _)
    (Creation.valid_roster _ _) rfl done
  rw [single] at each
  cases each with
  | cons recompiles _ =>
      have back := recompiles _ (Creation.parsed_document _) _
        (List.prefix_refl [(Address.repeated 1).text])
      obtain rfl := Except.ok.inj (compiles.symm.trans back)
      rw [Roster.addresses_rightsOf, Creation.listed_eq_accounts_iff] at kept
      have other : (walletCreation (.repeated 1)).payer ≠
        (walletCreation (.repeated 1)).wallet := by decide
      exact other kept

end TxTemplate
