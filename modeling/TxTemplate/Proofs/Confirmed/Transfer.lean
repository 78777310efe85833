import TxTemplate.Job.Submit
import TxTemplate.Proofs.Confirmed.Creation
import TxTemplate.Proofs.TypedData.Leaf

set_option autoImplicit false

/-! Transfers that the node has parsed, and the shorthand for them. The amount of the one is written
as unpacked words are and may be a text, its accounts are descriptors; the shorthand has the number
and the addresses. Both compile to the instruction that moves the lamports. -/

namespace TxTemplate

/-- Lamports that an account sends to another. -/
structure Transfer where
  source : Address
  destination : Address
  lamports : Nat
  deriving DecidableEq

namespace Transfer

def instruction (transfer : Transfer) : Instruction :=
  Job.transferOf transfer.source transfer.destination transfer.lamports

def shorthand (transfer : Transfer) : Json :=
  .obj [("program_id", .str "transfer"), ("from", .str transfer.source.text),
    ("to", .str transfer.destination.text), ("amount", .int transfer.lamports)]

structure Permitted (roster : Roster) (transfer : Transfer) : Prop where
  source : ⟨transfer.source.text, true, true⟩ ∈ roster
  destination : ⟨transfer.destination.text, false, true⟩ ∈ roster

/-- The info names the accounts and the amount of the transfer; nothing is said about the order. -/
structure Named (transfer : Transfer) (info : Fields) : Prop where
  source : info.lookup "source" = some (.str transfer.source.text)
  destination : info.lookup "destination" = some (.str transfer.destination.text)
  lamports : info.lookup "lamports" = some (.int transfer.lamports)

/-- An instruction of the system program that the node has parsed as a transfer. -/
inductive Parsed (transfer : Transfer) : Json → Prop where
  | intro {fields parsed info : Fields} (unindexed : fields.lookup "programIdIndex" = none)
      (program : fields.lookup "programId" = some (.str Address.systemProgram.text))
      (given : fields.lookup "parsed" = some (.obj parsed))
      (kind : parsed.lookup "type" = some (.str "transfer"))
      (detailed : parsed.lookup "info" = some (.obj info)) (named : Named transfer info) :
      Parsed transfer (.obj fields)

variable {transfer : Transfer}

/-! ### Data -/

/-- However the amount is spelled, the data packs to the tag of a transfer and the amount. -/
theorem pack_transferData (params : Params) {amount : Json} (fits : transfer.lamports < 2 ^ 64)
    (spelled : amount = .int transfer.lamports ∨
      amount = .str (Decimal.natText transfer.lamports)) :
    (TypedData.pack params (Shorthand.transferData amount)).outcome =
      .ok transfer.instruction.data := by
  rw [TypedData.pack_eq, Shorthand.transferData, Shorthand.record, Shorthand.typed,
    TypedData.pack_object _ _ (TypedData.kind?_of_name rfl) rfl]
  generalize (fun entries =>
    TypedData.packEach (TypedData.packNested (TypedData.nestingLimit - 1) params) entries) =
    onEntries
  have tag : (TypedData.packWith onEntries params
    (Shorthand.typed "u32" (.int Shorthand.transferTag))).outcome =
      .ok (LittleEndian.encode WordKind.u32.width 2) :=
    TypedData.pack_word onEntries params (TypedData.kind?_of_name rfl) rfl (.inl rfl) (by decide)
  have units : (TypedData.packWith onEntries params (Shorthand.typed "u64" amount)).outcome =
      .ok (LittleEndian.encode WordKind.u64.width transfer.lamports) :=
    TypedData.pack_word onEntries params (TypedData.kind?_of_name rfl) rfl spelled fits
  simp only [TypedData.packEntries, Traced.outcome_bind, tag, units, Outcome.ok_bind,
    Traced.outcome_pure, List.append_nil]
  rfl

theorem safeInteger_spelled (n : Nat) :
    Scalar.safeInteger n = .int n ∨ Scalar.safeInteger n = .str (Decimal.natText n) := by
  unfold Scalar.safeInteger
  split
  · exact .inr rfl
  · exact .inl rfl

/-! ### The parsed instruction -/

theorem transfer_of_named {info : Fields} (named : Named transfer info) :
    NativeReading.transfer info = ⟨[transfer.source, transfer.destination].map Address.text,
      Shorthand.transferData (Scalar.safeInteger transfer.lamports)⟩ := by
  rw [NativeReading.transfer, named.source, named.destination, named.lamports]
  rfl

theorem read_of_named {parsed info : Fields} (kind : parsed.lookup "type" = some (.str "transfer"))
    (detailed : parsed.lookup "info" = some (.obj info)) (named : Named transfer info) :
    NativeReading.read Address.systemProgram.text (.obj parsed) =
      .ok ⟨[transfer.source, transfer.destination].map Address.text,
        Shorthand.transferData (Scalar.safeInteger transfer.lamports)⟩ := by
  have isTransfer : (Json.str "transfer").isText "transfer" = true := rfl
  simp only [NativeReading.read, kind, detailed, Option.getD_some, if_true, isTransfer,
    transfer_of_named named]

/-- A transfer is read as its two accounts, and data with an amount that every reader can hold. -/
theorem parts_of_parsed {instruction : Json} (parsed : transfer.Parsed instruction)
    (decompiler : Decompiler) :
    decompiler.parts instruction = .ok ⟨Address.systemProgram.text,
      [transfer.source, transfer.destination].map Address.text,
      Shorthand.transferData (Scalar.safeInteger transfer.lamports)⟩ := by
  obtain ⟨unindexed, program, given, kind, detailed, named⟩ := parsed
  simp only [Decompiler.parts, Decompiler.namedParts, Json.contains, Json.field?, unindexed,
    program, given, Option.isSome_none, Bool.false_eq_true, if_false, Outcome.ok_bind,
    Option.getD_some, Json.display, read_of_named kind detailed named, Outcome.pure_eq_ok]
  rfl

theorem decompile_of_parsed {instruction : Json} (parsed : transfer.Parsed instruction)
    (decompiler : Decompiler) :
    (decompiler.decompile instruction).outcome = .ok ⟨.str Address.systemProgram.text,
      Shorthand.transferData (Scalar.safeInteger transfer.lamports),
      ([transfer.source, transfer.destination].map Address.text).map decompiler.accountTemplate,
        []⟩ :=
  Decompiler.decompile_eq_ok.mpr ⟨_, _, parts_of_parsed parsed decompiler, rfl, rfl⟩

theorem rights_of_permitted {roster : Roster} (distinct : (roster.map RosterEntry.account).Nodup)
    (permitted : transfer.Permitted roster) :
    [transfer.source, transfer.destination].map roster.rightsOf =
      transfer.instruction.accounts := by
  have signs := Roster.contains_signers distinct permitted.source
  have writes := Roster.isWritable_eq distinct permitted.source
  have receives := Roster.contains_signers distinct permitted.destination
  have written := Roster.isWritable_eq distinct permitted.destination
  simp only [List.map_cons, List.map_nil, Roster.rightsOf, signs, writes, receives, written]
  rfl

theorem recompile_of_parsed {decompiler : Decompiler} {params : Params} {instruction : Json}
    {entry : InstructionTemplate} (distinct : (decompiler.roster.map RosterEntry.account).Nodup)
    (signers : decompiler.signers = decompiler.roster.signers)
    (supplied : decompiler.Supplied params) (sound : decompiler.Sound)
    (parsed : transfer.Parsed instruction) (fits : transfer.lamports < 2 ^ 64)
    (permitted : transfer.Permitted decompiler.roster)
    (done : (decompiler.decompile instruction).outcome = .ok entry) :
    (recompile params entry).outcome = .ok transfer.instruction := by
  obtain rfl := Except.ok.inj ((decompile_of_parsed parsed decompiler).symm.trans done)
  have resolved := resolveAccounts_of_addresses signers supplied sound [transfer.source,
    transfer.destination]
  rw [rights_of_permitted distinct permitted] at resolved
  exact recompile_of_resolved (Address.read_text _) resolved
    (pack_transferData params fits (safeInteger_spelled transfer.lamports))

/-! ### The shorthand -/

def compileDocument (params : Params) (document : Json) : Traced Instruction := do
  let template ← InstructionTemplate.ofJson document
  template.compile params

theorem compile_shorthand (params : Params) (fits : transfer.lamports < 2 ^ 64) :
    (compileDocument params transfer.shorthand).outcome = .ok transfer.instruction := by
  have read : InstructionTemplate.ofJson transfer.shorthand = .ok ⟨.str "transfer", .null, [],
      [("from", .str transfer.source.text), ("to", .str transfer.destination.text),
        ("amount", .int transfer.lamports)]⟩ := rfl
  have expanded : Shorthand.expand ⟨.str "transfer", .null, [],
      [("from", .str transfer.source.text), ("to", .str transfer.destination.text),
        ("amount", .int transfer.lamports)]⟩ =
      .ok (some (Shorthand.transfer (.str transfer.source.text) (.str transfer.destination.text)
        (.int transfer.lamports))) := rfl
  have resolved : InstructionTemplate.resolveAccounts params
      [⟨.str transfer.source.text, true, true⟩, ⟨.str transfer.destination.text, false, true⟩] =
        .ok transfer.instruction.accounts := by
    simp only [InstructionTemplate.resolveAccounts, List.mapM_cons, List.mapM_nil,
      InstructionTemplate.resolveAccount, Address.resolve_of_read params (Address.read_text _),
      Outcome.ok_bind, Outcome.pure_eq_ok]
    rfl
  have packs := pack_transferData params fits (.inl rfl)
  rw [compileDocument, read, Traced.liftM_ok_bind, InstructionTemplate.compile, expanded,
    Traced.liftM_ok_bind]
  simp only [InstructionTemplate.compileFull, Shorthand.transfer, Traced.outcome_bind,
    Traced.outcome_liftM, Address.resolve_of_read params (Address.read_text _), Outcome.ok_bind,
    resolved, packs, Traced.outcome_pure]
  rfl

end Transfer

/-! ### Transactions -/

section Transactions

variable {transaction record : Json} {message : Fields} {roster : Roster} {instructions : List Json}

/-- A parsed transfer that was decompiled compiles to the same instruction as the shorthand for it,
the one that moves the lamports, whatever descriptors and placeholders stand for its accounts. A
transaction of transfers, and of instructions that name their accounts, does decompile, provided any
two of its accounts derive an address. -/
theorem recompile_transfer_eq_shorthand (encoded : messageOf? transaction = .ok (some message))
    (recorded : recordOf transaction = .ok record) (lists : Roster.Lists message record roster)
    (wellFormed : roster.WellFormed) (given : instructionsOf message = .ok instructions) :
    (AssociatedAccount.Derivable (roster.map RosterEntry.account) →
      (∀ instruction ∈ instructions, (∃ transfer : Transfer, transfer.Parsed instruction) ∨
        ∃ program accounts bytes, Names roster instruction program accounts bytes) →
      ∃ template, (decompileTransaction transaction).outcome = .ok template) ∧
    ∀ template, (decompileTransaction transaction).outcome = .ok template →
      List.Forall₂ (fun instruction entry => ∀ transfer : Transfer, transfer.Parsed instruction →
        transfer.lamports < 2 ^ 64 → transfer.Permitted roster →
          ∀ params, roster.signers <+: params → ∀ others,
          (recompile params entry).outcome = .ok transfer.instruction ∧
          (Transfer.compileDocument others transfer.shorthand).outcome = .ok transfer.instruction)
        instructions template.instructions := by
  have listed := Roster.ofMessage_of_lists lists
  constructor
  · intro derivable known
    obtain ⟨associated, found⟩ := AssociatedAccount.exists_find derivable
    obtain ⟨template, done, -⟩ := exists_decompileTransaction encoded recorded listed found given
      fun instruction member => by
        rcases known instruction member with ⟨transfer, parsed⟩ | ⟨program, accounts, bytes, names⟩
        · exact ⟨_, Transfer.decompile_of_parsed parsed _⟩
        · obtain ⟨data, converted, -⟩ := dataOfJson_base58 bytes
          exact ⟨_, Decompiler.decompile_eq_ok.mpr ⟨_, data, parts_of_names names, converted, rfl⟩⟩
    exact ⟨template, done⟩
  · intro template done
    obtain ⟨otherMessage, otherRecord, otherRoster, decompiler, otherInstructions, otherEncoded,
      otherRecorded, otherListed, made, otherGiven, each, -⟩ := decompileTransaction_eq_ok.mp done
    obtain rfl := Option.some.inj (Except.ok.inj (encoded.symm.trans otherEncoded))
    obtain rfl := Except.ok.inj (recorded.symm.trans otherRecorded)
    obtain rfl := Except.ok.inj (listed.symm.trans otherListed)
    obtain rfl := Except.ok.inj (given.symm.trans otherGiven)
    obtain ⟨associated, found, rfl⟩ := Decompiler.ofRoster_eq_ok.mp made
    refine each.imp fun instruction entry entryDone transfer parsed fits permitted params supplied
      others => ?_
    exact ⟨Transfer.recompile_of_parsed wellFormed.distinct rfl
      (supplied_of_wellFormed wellFormed supplied)
      (AssociatedAccount.derives_of_find found) parsed fits permitted entryDone,
      Transfer.compile_shorthand others fits⟩

end Transactions

/-! ### To a derived account -/

/-- More lamports than every reader can count, sent to the token account that the source derives
with itself as the mint. -/
def savingTransfer : Transfer where
  source := .systemProgram
  destination := ⟨[23, 88, 42, 185, 178, 238, 65, 227, 2, 179, 225, 130, 227, 199, 214, 139,
    60, 151, 83, 105, 213, 157, 99, 14, 124, 137, 221, 235, 214, 84, 72, 208], rfl⟩
  lamports := 9007199254740992

def Transfer.document (transfer : Transfer) : Json :=
  .obj [("programId", .str Address.systemProgram.text),
    ("parsed", .obj [("type", .str "transfer"),
      ("info", .obj [("destination", .str transfer.destination.text),
        ("lamports", .int transfer.lamports), ("source", .str transfer.source.text)])])]

theorem Transfer.parsed_document (transfer : Transfer) : transfer.Parsed transfer.document :=
  .intro rfl rfl rfl rfl rfl ⟨rfl, rfl, rfl⟩

def Transfer.roster (transfer : Transfer) : Roster :=
  [⟨transfer.source.text, true, true⟩, ⟨transfer.destination.text, false, true⟩]

def Transfer.message (transfer : Transfer) : Fields :=
  [("accountKeys", .arr (transfer.roster.map fun entry => .str entry.account)),
    ("header", .obj [("numRequiredSignatures", .int 1)]),
      ("instructions", .arr [transfer.document])]

def Transfer.transaction (transfer : Transfer) : Json :=
  .obj [("transaction", .obj [("message", .obj transfer.message)])]

theorem Transfer.lists_roster (transfer : Transfer) :
    Roster.Lists transfer.message (.obj []) transfer.roster :=
  @Roster.Lists.header _ _ [transfer.source.text, transfer.destination.text] [] [] 1 0 0 _ rfl
    ⟨_, rfl, rfl, rfl, rfl⟩ rfl ⟨rfl, rfl⟩

theorem Transfer.wellFormed_roster {transfer : Transfer}
    (different : transfer.source ≠ transfer.destination) :
    transfer.roster.WellFormed where
  distinct := by
    have texts : transfer.source.text ≠ transfer.destination.text :=
      fun same => different (Address.text_injective same)
    simpa [Transfer.roster] using texts
  valid := by
    simp only [Transfer.roster, List.forall_mem_cons, List.not_mem_nil, false_implies, implies_true,
      and_true]
    exact ⟨⟨_, Address.read_text _⟩, ⟨_, Address.read_text _⟩⟩

theorem recompile_savingTransfer :
    Address.associated? savingTransfer.source savingTransfer.source =
      some savingTransfer.destination ∧
    ∃ template entry, (decompileTransaction savingTransfer.transaction).outcome = .ok template ∧
      template.instructions = [entry] ∧
      entry.data = Shorthand.transferData (.str "9007199254740992") ∧
      (recompile [Address.systemProgram.text] entry).outcome = .ok savingTransfer.instruction ∧
      (Transfer.compileDocument [] savingTransfer.shorthand).outcome =
        .ok savingTransfer.instruction := by
  obtain ⟨decompiles, recompiles⟩ := recompile_transfer_eq_shorthand
    (rfl : messageOf? savingTransfer.transaction = .ok (some savingTransfer.message)) rfl
    savingTransfer.lists_roster (Transfer.wellFormed_roster (by decide)) rfl
  have derivable : AssociatedAccount.Derivable (savingTransfer.roster.map RosterEntry.account) := by
    decide +kernel
  obtain ⟨template, done⟩ := decompiles derivable fun instruction member => by
    obtain rfl := List.mem_singleton.mp member
    exact .inl ⟨savingTransfer, savingTransfer.parsed_document⟩
  obtain ⟨entry, others, first, rest, same⟩ :=
    List.forall₂_cons_left_iff.mp (recompiles template done)
  obtain rfl := List.forall₂_nil_left_iff.mp rest
  obtain ⟨compiles, shorthand⟩ := first savingTransfer savingTransfer.parsed_document (by decide)
    ⟨List.mem_cons_self, List.mem_cons_of_mem _ List.mem_cons_self⟩ [Address.systemProgram.text]
      ⟨[], rfl⟩ []
  refine ⟨by decide +kernel, template, entry, done, same, ?_, compiles, shorthand⟩
  obtain ⟨_, _, _, decompiler, instructions, encoded, _, _, _, given, each, _⟩ :=
    decompileTransaction_eq_ok.mp done
  obtain rfl := Option.some.inj (Except.ok.inj encoded)
  obtain rfl : [savingTransfer.document] = instructions := Except.ok.inj given
  rw [same] at each
  cases each with
  | cons entryDone _ =>
      have known := Transfer.decompile_of_parsed savingTransfer.parsed_document decompiler
      obtain rfl := Except.ok.inj (known.symm.trans entryDone)
      rfl

end TxTemplate
