import TxTemplate.Proofs.Confirmed.Associated
import TxTemplate.Proofs.Confirmed.Data
import TxTemplate.Proofs.Confirmed.Roster
import TxTemplate.Proofs.Template
import TxTemplate.Proofs.TypedData.ByteText
import TxTemplate.Template.Compile

set_option autoImplicit false

/-! Compiling what was decompiled. The placeholders of signers, the descriptors of derived token
accounts and the hexadecimal text of the data all lead back to what the transaction had, provided
the caller's parameters begin with the addresses of the signers. -/

namespace TxTemplate

/-! ### Data -/

theorem dataOfJson_base58 (bytes : Bytes) :
    ∃ data, dataOfJson (.str (Base58.text bytes)) = .ok data ∧
      ∀ params, (TypedData.pack params data).outcome = .ok bytes := by
  by_cases empty : bytes = []
  · subst empty
    refine ⟨.str "", rfl, fun params => ?_⟩
    rw [pack_text, Placeholder.resolve_of_digits?_eq_none params rfl]
    rfl
  · have written : (Base58.text bytes).isEmpty = false := by
      rw [Bool.eq_false_iff, Ne, String.isEmpty_iff]
      intro none
      have chars := congrArg String.toList none
      rw [Base58.text, String.toList_ofList] at chars
      have read := Base58.decode_encode bytes
      rw [chars] at read
      exact empty (Option.some.inj read).symm
    refine ⟨.str ("0x" ++ Hex.text bytes), ?_, fun params => ?_⟩
    · have read : Base58.decodeTrimmed (Base58.text bytes).toList = some bytes := by
        rw [Base58.text, String.toList_ofList, Base58.decodeTrimmed_encode]
      have present : bytes.isEmpty = false := List.isEmpty_eq_false_iff.mpr empty
      simp [dataOfJson, dataAsHex, written, read, present, Except.map]
    · rw [pack_text, Placeholder.resolve_of_digits?_eq_none params
        (Placeholder.digits?_eq_none_of_head? (head?_hex bytes))]
      exact Scalar.bytesOfText_hex bytes

/-! ### Accounts -/

namespace Decompiler

variable {decompiler : Decompiler} {params : Params}

/-- The caller gives the addresses of the signers first, and there are not too many of them to be
numbered. -/
structure Supplied (decompiler : Decompiler) (params : Params) : Prop where
  given : decompiler.signers <+: params
  few : decompiler.signers.length ≤ 256 ^ 32

theorem resolve_withPlaceholder (supplied : Supplied decompiler params) {account : String}
    {address : Address} (named : Address.read account = .ok address) :
    Descriptor.resolve params (decompiler.withPlaceholder account) = .ok address := by
  unfold withPlaceholder
  cases listed : decompiler.signers.idxOf? account with
  | none => exact Address.resolve_of_read params named
  | some index =>
      obtain ⟨bound, same, -⟩ := List.idxOf?_eq_some_iff.mp listed
      have given : params[index]? = some account := by
        have prefixed := List.IsPrefix.getElem supplied.given bound
        have length := Nat.lt_of_lt_of_le bound supplied.given.length_le
        rw [List.getElem?_eq_getElem length, ← prefixed, same]
      have short : (Decimal.ofNat (index + 1)).length ≤ Decimal.digitLimit := by
        have few := supplied.few
        have wide : 256 ^ 32 < 10 ^ 100 := by decide
        have length := Decimal.length_ofNat_le (index + 1) 100 (by decide) (by omega)
        exact Nat.le_trans length (by decide)
      simp only [Descriptor.resolve, Placeholder.resolve_text params index account short given,
        Json.display, Descriptor.resolveText, Address.ofTag?_of_read named,
        Address.parse_of_read named]

/-- What was found among the accounts was derived. -/
def Sound (decompiler : Decompiler) : Prop := ∀ known ∈ decompiler.associated, known.Derives

theorem resolve_descriptor (supplied : Supplied decompiler params) (sound : Sound decompiler)
    {account : String} {address : Address} (named : Address.read account = .ok address) :
    Descriptor.resolve params (decompiler.descriptor account) = .ok address := by
  unfold descriptor
  cases found : decompiler.associated.find? fun known => known.account == account with
  | none => exact resolve_withPlaceholder supplied named
  | some known =>
      obtain ⟨owner, mint, derived, ownerNamed, mintNamed, derives, same⟩ :=
        sound known (List.mem_of_find?_eq_some found)
      have listed : known.account = account := by
        have matched := List.find?_some found
        exact beq_iff_eq.mp matched
      have whole : derived = address := by
        have read := Address.read_text derived
        rw [same, listed, named] at read
        exact (Except.ok.inj read).symm
      rw [← whole, ← derives]
      exact Descriptor.resolve_associated (resolve_withPlaceholder supplied ownerNamed)
        (Address.resolve_of_read params mintNamed)

end Decompiler

/-! ### Instructions -/

/-- An instruction that names its program and its accounts, by their positions in the roster or by
their addresses, and has the base 58 text of some bytes as its data. -/
inductive Names (roster : Roster) : Json → RosterEntry → List RosterEntry → Bytes → Prop where
  | indexed {fields : Fields} {position : Nat} {positions : List Nat} {program : RosterEntry}
      {accounts : List RosterEntry} {bytes : Bytes}
      (programAt : fields.lookup "programIdIndex" = some (.int position))
      (programListed : roster[position]? = some program)
      (accountsAt : (fields.lookup "accounts").getD (.arr []) =
        .arr (positions.map fun position : Nat => .int position))
      (accountsListed : List.Forall₂ (fun position entry =>
        roster[position]? = some entry) positions accounts)
      (data : (fields.lookup "data").getD (.str "") = .str (Base58.text bytes)) :
      Names roster (.obj fields) program accounts bytes
  | addressed {fields : Fields} {program : RosterEntry} {accounts : List RosterEntry}
      {bytes : Bytes}
      (unindexed : fields.lookup "programIdIndex" = none) (unparsed : fields.lookup "parsed" = none)
      (programNamed : fields.lookup "programId" = some (.str program.account))
      (programListed : program ∈ roster)
      (accountsNamed : (fields.lookup "accounts").getD (.arr []) =
        .arr (accounts.map fun entry => .str entry.account))
      (accountsListed : ∀ entry ∈ accounts, entry ∈ roster)
      (data : (fields.lookup "data").getD (.str "") = .str (Base58.text bytes)) :
      Names roster (.obj fields) program accounts bytes

section Instructions

variable {decompiler : Decompiler} {instruction : Json} {program : RosterEntry}
  {accounts : List RosterEntry} {bytes : Bytes}

theorem Names.listed {roster : Roster} (names : Names roster instruction program accounts bytes) :
    program ∈ roster ∧ ∀ entry ∈ accounts, entry ∈ roster := by
  cases names with
  | indexed programAt programListed accountsAt accountsListed data =>
      refine ⟨List.mem_of_getElem? programListed, ?_⟩
      clear accountsAt
      induction accountsListed with
      | nil => exact fun _ member => absurd member List.not_mem_nil
      | cons first _ ih =>
          rw [List.forall_mem_cons]
          exact ⟨List.mem_of_getElem? first, ih⟩
  | addressed unindexed unparsed programNamed programListed accountsNamed accountsListed data =>
      exact ⟨programListed, accountsListed⟩

theorem accountAt?_int {position : Nat} {entry : RosterEntry}
    (listed : decompiler.roster[position]? = some entry) :
    decompiler.accountAt? (.int position) = some entry.account := by
  have natural : ¬ (position : Int) < 0 := Int.not_lt.mpr (Int.natCast_nonneg position)
  simp only [Decompiler.accountAt?, if_neg natural, Int.toNat_natCast, listed, Option.map_some]

theorem accountsAt_ints {positions : List Nat}
    (listed : List.Forall₂ (fun position entry => decompiler.roster[position]? = some entry)
      positions accounts) :
    (positions.map fun position : Nat => Json.int position).filterMap decompiler.accountAt? =
      accounts.map RosterEntry.account := by
  induction listed with
  | nil => rfl
  | cons first _ ih =>
      rw [List.map_cons, List.map_cons, List.filterMap_cons_some (accountAt?_int first), ih]

theorem parts_of_names (names : Names decompiler.roster instruction program accounts bytes) :
    decompiler.parts instruction =
      .ok ⟨program.account, accounts.map RosterEntry.account, .str (Base58.text bytes)⟩ := by
  cases names with
  | indexed programAt programListed accountsAt accountsListed data =>
      simp only [Decompiler.parts, Json.contains, programAt, Option.isSome_some, Outcome.ok_bind,
        if_true, Decompiler.indexedParts, Json.member, Json.field?, accountsAt, Json.elements, data,
        accountAt?_int programListed, Option.getD_some, accountsAt_ints accountsListed]
      rfl
  | addressed unindexed unparsed programNamed programListed accountsNamed accountsListed data =>
      simp only [Decompiler.parts, Json.contains, unindexed, Option.isSome_none, Outcome.ok_bind,
        Bool.false_eq_true, if_false, Decompiler.namedParts, Json.field?, programNamed, unparsed,
        accountsNamed, Json.elements, data, Option.getD_some, Json.display, List.map_map]
      rfl

end Instructions

/-! ### Compiling -/

def recompile (params : Params) (entry : InstructionTemplate) : Traced Instruction := do
  let template ← InstructionTemplate.ofJson entry.toJson
  template.compile params

/-- The account of an instruction is that of an entry, with the rights that the entry gives. -/
structure AccountMeta.Matches (account : AccountMeta) (entry : RosterEntry) : Prop where
  address : account.address.text = entry.account
  signer : account.signer = entry.signer
  writable : account.writable = entry.writable

/-- The instruction calls the program with these accounts and these bytes. -/
structure Instruction.Calls (instruction : Instruction) (program : RosterEntry)
    (accounts : List RosterEntry) (bytes : Bytes) : Prop where
  program : instruction.program.text = program.account
  data : instruction.data = bytes
  accounts : List.Forall₂ AccountMeta.Matches instruction.accounts accounts

section Compiling

variable {decompiler : Decompiler} {params : Params} {accounts : List RosterEntry}

/-- The accounts of a transaction are distinct addresses. -/
structure Roster.WellFormed (roster : Roster) : Prop where
  distinct : (roster.map RosterEntry.account).Nodup
  valid : ∀ entry ∈ roster, ∃ address, Address.read entry.account = .ok address

theorem supplied_of_valid {roster : Roster} {associated : List AssociatedAccount}
    (valid : ∀ entry ∈ roster, ∃ address, Address.read entry.account = .ok address)
    (given : roster.signers <+: params) :
    Decompiler.Supplied ⟨roster, roster.signers, associated⟩ params where
  given := given
  few := by
    apply Address.length_le_of_nodup _ roster.nodup_signers
    intro account member
    obtain ⟨entry, listed, -, rfl⟩ := Roster.mem_signers.mp member
    exact valid entry listed

theorem supplied_of_wellFormed {roster : Roster} {associated : List AssociatedAccount}
    (wellFormed : roster.WellFormed) (given : roster.signers <+: params) :
    Decompiler.Supplied ⟨roster, roster.signers, associated⟩ params :=
  supplied_of_valid wellFormed.valid given

theorem resolveAccounts_of_listed (wellFormed : decompiler.roster.WellFormed)
    (signers : decompiler.signers = decompiler.roster.signers)
    (supplied : decompiler.Supplied params) (sound : decompiler.Sound)
    (listed : ∀ entry ∈ accounts, entry ∈ decompiler.roster) :
    ∃ metas, InstructionTemplate.resolveAccounts params
        ((accounts.map RosterEntry.account).map decompiler.accountTemplate) = .ok metas ∧
      List.Forall₂ AccountMeta.Matches metas accounts := by
  induction accounts with
  | nil => exact ⟨[], rfl, .nil⟩
  | cons entry rest ih =>
      rw [List.forall_mem_cons] at listed
      obtain ⟨address, named⟩ := wellFormed.valid entry listed.1
      obtain ⟨metas, resolved, same⟩ := ih listed.2
      have first : InstructionTemplate.resolveAccount params
        (decompiler.accountTemplate entry.account) =
          .ok ⟨address, entry.signer, entry.writable⟩ := by
        simp only [InstructionTemplate.resolveAccount, Decompiler.accountTemplate,
          Decompiler.resolve_descriptor supplied sound named, Outcome.ok_bind, signers,
          Roster.contains_signers wellFormed.distinct listed.1,
          Roster.isWritable_eq wellFormed.distinct listed.1, Outcome.pure_eq_ok]
      refine ⟨⟨address, entry.signer, entry.writable⟩ :: metas, ?_, .cons ⟨?_, rfl, rfl⟩ same⟩
      · unfold InstructionTemplate.resolveAccounts at resolved ⊢
        rw [List.map_cons, List.map_cons, List.mapM_cons, first, Outcome.ok_bind, resolved]
        rfl
      · exact Address.text_of_read named

theorem recompile_of_resolved {program : Address} {text : String} {data : Json}
    {templates : List AccountTemplate} {bytes : Bytes} {metas : List AccountMeta}
    (named : Address.read text = .ok program)
    (resolved : InstructionTemplate.resolveAccounts params templates = .ok metas)
    (packs : (TypedData.pack params data).outcome = .ok bytes) :
    (recompile params ⟨.str text, data, templates, []⟩).outcome = .ok ⟨program, bytes, metas⟩ := by
  rw [recompile, Traced.outcome_bind, Traced.outcome_liftM, InstructionTemplate.ofJson_toJson _
    (fun _ member => absurd member List.not_mem_nil), Outcome.ok_bind, InstructionTemplate.compile,
    InstructionTemplate.expand_eq_none rfl named, Traced.liftM_ok_bind]
  simp only [InstructionTemplate.compileFull, Traced.outcome_bind, Traced.outcome_liftM,
    Address.resolve_of_read params named, Outcome.ok_bind, resolved, packs, Traced.outcome_pure]

theorem recompile_of_names {instruction : Json} {program : RosterEntry} {bytes : Bytes}
    {entry : InstructionTemplate} (wellFormed : decompiler.roster.WellFormed)
    (signers : decompiler.signers = decompiler.roster.signers)
    (supplied : decompiler.Supplied params) (sound : decompiler.Sound)
    (names : Names decompiler.roster instruction program accounts bytes)
    (done : (decompiler.decompile instruction).outcome = .ok entry) :
    ∃ compiled, (recompile params entry).outcome = .ok compiled ∧
      compiled.Calls program accounts bytes := by
  obtain ⟨parts, data, taken, read, rfl⟩ := Decompiler.decompile_eq_ok.mp done
  rw [parts_of_names names] at taken
  obtain rfl := Except.ok.inj taken
  obtain ⟨written, converted, packs⟩ := dataOfJson_base58 bytes
  obtain rfl : written = data := Except.ok.inj (converted.symm.trans read)
  obtain ⟨programListed, listed⟩ := names.listed
  obtain ⟨address, named⟩ := wellFormed.valid program programListed
  obtain ⟨metas, resolved, same⟩ :=
    resolveAccounts_of_listed wellFormed signers supplied sound listed
  exact ⟨⟨address, bytes, metas⟩, recompile_of_resolved named resolved (packs params),
    Address.text_of_read named, rfl, same⟩

end Compiling

/-- Decompiling and compiling again gives back what the transaction had: where its accounts are
distinct addresses, every instruction that names its program and its accounts among them comes back
with the same program, accounts, rights and bytes, for all parameters that begin with the addresses
of the signers. A transaction of such instructions does decompile, provided any two of its accounts
derive an address. -/
theorem recompile_decompileTransaction {transaction record : Json} {message : Fields}
    {roster : Roster} {instructions : List Json}
    (encoded : messageOf? transaction = .ok (some message))
    (recorded : recordOf transaction = .ok record) (lists : Roster.Lists message record roster)
    (wellFormed : roster.WellFormed) (given : instructionsOf message = .ok instructions) :
    (AssociatedAccount.Derivable (roster.map RosterEntry.account) →
      (∀ instruction ∈ instructions, ∃ program accounts bytes,
        Names roster instruction program accounts bytes) →
      ∃ template, (decompileTransaction transaction).outcome = .ok template) ∧
    ∀ template, (decompileTransaction transaction).outcome = .ok template →
      List.Forall₂ (fun instruction entry => ∀ program accounts bytes,
        Names roster instruction program accounts bytes → ∀ params, roster.signers <+: params →
          ∃ compiled, (recompile params entry).outcome = .ok compiled ∧
            compiled.Calls program accounts bytes) instructions template.instructions := by
  have listed := Roster.ofMessage_of_lists lists
  constructor
  · intro derivable named
    obtain ⟨associated, found⟩ := AssociatedAccount.exists_find derivable
    have made := Decompiler.ofRoster_eq_ok.mpr ⟨associated, found, rfl⟩
    have decompiles : ∀ instruction ∈ instructions, ∃ entry,
        (Decompiler.decompile ⟨roster, roster.signers, associated⟩ instruction).outcome =
            .ok entry := by
      intro instruction member
      obtain ⟨program, accounts, bytes, names⟩ := named instruction member
      obtain ⟨data, converted, -⟩ := dataOfJson_base58 bytes
      exact ⟨_, Decompiler.decompile_eq_ok.mpr ⟨_, data, parts_of_names names, converted, rfl⟩⟩
    obtain ⟨entries, each⟩ := Outcome.exists_mapM decompiles
    exact ⟨⟨entries, _⟩, decompileTransaction_eq_ok.mpr ⟨message, record, roster, _, instructions,
      encoded, recorded, listed, made, given, Outcome.mapM_eq_ok.mp each, rfl⟩⟩
  · intro template done
    obtain ⟨otherMessage, otherRecord, otherRoster, decompiler, otherInstructions, otherEncoded,
      otherRecorded, otherListed, made, otherGiven, each, -⟩ := decompileTransaction_eq_ok.mp done
    obtain rfl := Option.some.inj (Except.ok.inj (encoded.symm.trans otherEncoded))
    obtain rfl := Except.ok.inj (recorded.symm.trans otherRecorded)
    obtain rfl := Except.ok.inj (listed.symm.trans otherListed)
    obtain rfl := Except.ok.inj (given.symm.trans otherGiven)
    obtain ⟨associated, found, rfl⟩ := Decompiler.ofRoster_eq_ok.mp made
    refine each.imp
      fun instruction entry entryDone program accounts bytes names params supplied => ?_
    exact recompile_of_names wellFormed rfl (supplied_of_wellFormed wellFormed supplied)
      (AssociatedAccount.derives_of_find found) names entryDone

/-- A program that signs for itself, and the token account that it derives with itself as the
mint. -/
def sampleRoster : Roster :=
  [⟨"11111111111111111111111111111111", true, true⟩,
    ⟨"2a8MS8dWyyYNgBHgtzeTwrsDKsE6RnCoUqnonB4C8Xc3", false, true⟩]

def sampleInstruction : Json :=
  .obj [("programIdIndex", .int 0), ("accounts", .arr [.int 1, .int 0]), ("data", .str "2g")]

def sampleMessage : Fields :=
  [("accountKeys", .arr (sampleRoster.map fun entry => .str entry.account)),
    ("header", .obj [("numRequiredSignatures", .int 1)]),
      ("instructions", .arr [sampleInstruction])]

def sampleTransaction : Json := .obj [("transaction", .obj [("message", .obj sampleMessage)])]

theorem recompile_sampleTransaction :
    ∃ template entry compiled, (decompileTransaction sampleTransaction).outcome = .ok template ∧
      template.instructions = [entry] ∧
      (recompile ["11111111111111111111111111111111"] entry).outcome = .ok compiled ∧
      compiled.Calls ⟨"11111111111111111111111111111111", true, true⟩ sampleRoster.reverse
        [0x61] := by
  have lists : Roster.Lists sampleMessage (.obj []) sampleRoster :=
    @Roster.Lists.header _ _ (sampleRoster.map RosterEntry.account) [] [] 1 0 0 _ rfl
      ⟨_, rfl, rfl, rfl, rfl⟩ rfl ⟨rfl, rfl⟩
  have wellFormed : sampleRoster.WellFormed := by
    refine ⟨by decide, fun entry member => ?_⟩
    have texts : ∀ entry ∈ sampleRoster, Address.isText entry.account = true := by decide
    have named := texts entry member
    unfold Address.isText at named
    split at named
    · exact ⟨_, ‹_›⟩
    · cases named
  have derivable : AssociatedAccount.Derivable (sampleRoster.map RosterEntry.account) := by
    decide +kernel
  have names : Names sampleRoster sampleInstruction ⟨"11111111111111111111111111111111", true, true⟩
      sampleRoster.reverse [0x61] :=
    @Names.indexed _ _ 0 [1, 0] _ _ _ rfl rfl rfl (.cons rfl (.cons rfl .nil)) rfl
  obtain ⟨decompiles, recompiles⟩ := recompile_decompileTransaction
    (rfl : messageOf? sampleTransaction = .ok (some sampleMessage)) rfl lists wellFormed
    (rfl : instructionsOf sampleMessage = .ok [sampleInstruction])
  have all : ∀ instruction ∈ [sampleInstruction], ∃ program accounts bytes,
      Names sampleRoster instruction program accounts bytes := by
    rw [List.forall_mem_singleton]
    exact ⟨_, _, _, names⟩
  obtain ⟨template, done⟩ := decompiles derivable all
  obtain ⟨entry, others, first, rest, same⟩ :=
    List.forall₂_cons_left_iff.mp (recompiles template done)
  obtain rfl := List.forall₂_nil_left_iff.mp rest
  obtain ⟨compiled, compiles, calls⟩ :=
    first _ _ _ names ["11111111111111111111111111111111"] ⟨[], rfl⟩
  exact ⟨template, entry, compiled, done, same, compiles, calls⟩

end TxTemplate
