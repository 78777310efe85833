import TxTemplate.Proofs.Confirmed.BestEffort
import TxTemplate.Proofs.Confirmed.Recompile

set_option autoImplicit false

/-! The report on an instruction beside its entry in a template. The two are read off the
instruction apart from each other, and the rights of an account are looked up in two ways; where the
accounts of the transaction are distinct addresses they still agree in all that both of them say. -/

namespace TxTemplate

/-! ### Outcomes side by side -/

namespace Outcome

variable {α β γ δ : Type} {related : α → β → Prop} {later : γ → δ → Prop}

/-- Two computations that fail with the same fault, or come to results that are related. -/
inductive Alike (related : α → β → Prop) : Except Fault α → Except Fault β → Prop where
  | failed (fault : Fault) : Alike related (.error fault) (.error fault)
  | done {first : α} {second : β} (same : related first second) : Alike related (.ok first)
      (.ok second)

theorem Alike.bind {first : Except Fault α} {second : Except Fault β} {f : α → Except Fault γ}
    {g : β → Except Fault δ} (alike : Alike related first second)
    (next : ∀ a b, related a b → Alike later (f a) (g b)) :
    Alike later (first >>= f) (second >>= g) := by
  cases alike with
  | failed fault => exact .failed fault
  | done same => exact next _ _ same

theorem alike_refl (outcome : Except Fault α) : Alike Eq outcome outcome := by
  cases outcome with
  | error fault => exact .failed fault
  | ok value => exact .done rfl

end Outcome

open Outcome

/-! ### Reading an instruction -/

def IsWhole (index : Json) : Prop := ∃ n, Number.ofJson? index = some (.int n)

/-- The forms of instructions: a program and accounts by their positions, with data, or a program by
its address, with what the node has parsed or with data. Accounts, where there are any, are
listed. -/
inductive Form : Json → Prop where
  | indexed {fields : Fields} {program data : Json} {positions : List Json}
      (programAt : fields.lookup "programIdIndex" = some program) (programWhole : IsWhole program)
      (accountsAt : (fields.lookup "accounts").getD (.arr []) = .arr positions)
      (accountsWhole : ∀ position ∈ positions, IsWhole position)
      (given : fields.lookup "data" = some data) (unparsed : fields.lookup "parsed" = none) :
      Form (.obj fields)
  | parsed {fields : Fields} {parsed : Json} {accounts : List Json}
      (unindexed : fields.lookup "programIdIndex" = none)
      (accountsListed : (fields.lookup "accounts").getD (.arr []) = .arr accounts)
      (given : fields.lookup "parsed" = some parsed) : Form (.obj fields)
  | addressed {fields : Fields} {data : Json} {accounts : List Json}
      (unindexed : fields.lookup "programIdIndex" = none)
      (accountsListed : (fields.lookup "accounts").getD (.arr []) = .arr accounts)
      (given : fields.lookup "data" = some data) (unparsed : fields.lookup "parsed" = none) :
      Form (.obj fields)

/-- What a report and a template take from an instruction, before its data is rewritten. -/
structure SameReading (reading : Report.Reading) (parts : Decompiler.Parts) : Prop where
  program : reading.program = parts.program
  accounts : reading.accounts = parts.accounts
  data : reading.data = parts.data

section Reading

variable (decompiler : Decompiler)

theorem entryAt_of_isWhole {index : Json} (whole : IsWhole index) :
    ∃ entry, Report.entryAt decompiler.roster index = .ok entry ∧
      decompiler.accountAt? index = entry.map RosterEntry.account := by
  obtain ⟨n, number⟩ := whole
  refine ⟨if n < 0 then none else decompiler.roster[n.toNat]?, by rw [Report.entryAt, number], ?_⟩
  have counted : decompiler.accountAt? index =
      if n < 0 then none else (decompiler.roster[n.toNat]?).map RosterEntry.account := by
    cases index with
    | int m =>
        obtain rfl : m = n := Number.int.inj (Option.some.inj number)
        rfl
    | bool flag =>
        obtain rfl : (if flag then 1 else 0) = n := Number.int.inj (Option.some.inj number)
        rfl
    | null | str _ | arr _ | obj _ => cases number
    | float x => cases Option.some.inj number
  rw [counted]
  split
  · rfl
  · rfl

theorem entriesAt_of_isWhole {positions : List Json}
    (whole : ∀ position ∈ positions, IsWhole position) :
    ∃ entries, positions.mapM (Report.entryAt decompiler.roster) = .ok entries ∧
      positions.filterMap decompiler.accountAt? =
        entries.filterMap fun entry => entry.map RosterEntry.account := by
  induction positions with
  | nil => exact ⟨[], rfl, rfl⟩
  | cons position rest ih =>
      rw [List.forall_mem_cons] at whole
      obtain ⟨entry, first, listed⟩ := entryAt_of_isWhole decompiler whole.1
      obtain ⟨entries, others, same⟩ := ih whole.2
      refine ⟨entry :: entries, by rw [List.mapM_cons, first, ok_bind, others]; rfl, ?_⟩
      rw [List.filterMap_cons, List.filterMap_cons, listed, same]

/-- Both readings fail alike, or take the same program, accounts and data from the instruction. -/
theorem read_alike {instruction : Json} (form : Form instruction) :
    Alike SameReading (Report.read decompiler.roster instruction)
      (decompiler.parts instruction) := by
  cases form with
  | @indexed fields program data positions programAt programWhole accountsAt accountsWhole given
      unparsed =>
      obtain ⟨entry, found, named⟩ := entryAt_of_isWhole decompiler programWhole
      obtain ⟨entries, listed, accounts⟩ := entriesAt_of_isWhole decompiler accountsWhole
      simp only [Report.read, Report.partsOf, Decompiler.parts, Decompiler.indexedParts,
        Json.contains, Json.member, Json.field?, Json.fieldOrNull, Json.elements, programAt,
        accountsAt, given, unparsed, Option.isSome_some, if_true, ok_bind, pure_eq_ok,
        Option.getD_some, found, listed, named, accounts]
      exact .done ⟨rfl, rfl, rfl⟩
  | @parsed fields parsed accounts unindexed accountsListed given =>
      simp only [Report.read, Report.partsOf, Decompiler.parts, Decompiler.namedParts,
        Json.contains, Json.field?, Json.fieldOrNull, Json.elements, unindexed, accountsListed,
        given, Option.isSome_none, Bool.false_eq_true, if_false, ok_bind, pure_eq_ok]
      refine (alike_refl (NativeReading.read _ parsed)).bind ?_
      rintro reading _ rfl
      exact .done ⟨rfl, rfl, rfl⟩
  | @addressed fields data accounts unindexed accountsListed given unparsed =>
      simp only [Report.read, Report.partsOf, Decompiler.parts, Decompiler.namedParts,
        Json.contains, Json.field?, Json.fieldOrNull, Json.elements, unindexed, accountsListed,
        given, unparsed, Option.isSome_none, Bool.false_eq_true, if_false, ok_bind, pure_eq_ok,
        Option.getD_some]
      exact .done ⟨rfl, rfl, rfl⟩

end Reading

/-! ### Accounts -/

/-- A line on an account and the account of a template: the rights are the same, and where the line
shows an address the descriptor leads to it. -/
inductive TellsAccount (params : Params) : Json → AccountTemplate → Prop where
  | intro {fields : Fields} {text : String} {account : AccountTemplate}
      (shown : fields.lookup "pubkey" = some (.str text))
      (signer : fields.lookup "isSigner" = some (.bool account.signer))
      (writable : fields.lookup "isWritable" = some (.bool account.writable))
      (leads : ∀ address, Address.read text = .ok address →
        Descriptor.resolve params account.address = .ok address) :
      TellsAccount params (.obj fields) account

section Accounts

variable {decompiler : Decompiler} {params : Params}

theorem rights_of_roster {roster : Roster} (distinct : (roster.map RosterEntry.account).Nodup)
    (account : String) :
    ((roster.reverse.find? fun entry => entry.account == account).map RosterEntry.signer).getD
      false =
        roster.signers.contains account ∧
      ((roster.reverse.find? fun entry => entry.account == account).map RosterEntry.writable).getD
        false =
        roster.isWritable account := by
  cases found : roster.reverse.find? fun entry => entry.account == account with
  | some entry =>
      have listed : entry ∈ roster := List.mem_reverse.mp (List.mem_of_find?_eq_some found)
      have matched := List.find?_some found
      obtain rfl : entry.account = account := beq_iff_eq.mp matched
      exact ⟨(Roster.contains_signers distinct listed).symm,
        (Roster.isWritable_eq distinct listed).symm⟩
  | none =>
      have absent : ∀ entry ∈ roster, entry.account ≠ account := by
        intro entry listed same
        have other := List.find?_eq_none.mp found entry (List.mem_reverse.mpr listed)
        exact other (beq_iff_eq.mpr same)
      constructor
      · refine (Bool.eq_false_iff.mpr fun signs => ?_).symm
        obtain ⟨entry, listed, -, same⟩ := Roster.mem_signers.mp (List.contains_iff_mem.mp signs)
        exact absent entry listed same
      · refine (Bool.eq_false_iff.mpr fun writes => ?_).symm
        obtain ⟨entry, listed, both⟩ := List.any_eq_true.mp writes
        exact absent entry listed (beq_iff_eq.mp (Bool.and_eq_true_iff.mp both).2)

theorem tellsAccount (distinct : (decompiler.roster.map RosterEntry.account).Nodup)
    (signers : decompiler.signers = decompiler.roster.signers)
    (supplied : decompiler.Supplied params) (sound : decompiler.Sound) (info : Json)
    (account : String) :
    TellsAccount params (Report.accountLine decompiler.roster info account)
      (decompiler.accountTemplate account) := by
  obtain ⟨signs, writes⟩ := rights_of_roster distinct account
  have leads : ∀ address, Address.read account = .ok address →
      Descriptor.resolve params (decompiler.accountTemplate account).address = .ok address :=
    fun address named => Decompiler.resolve_descriptor supplied sound named
  rw [← signers] at signs
  unfold Report.accountLine
  dsimp only
  rw [signs, writes]
  split
  · split
    · exact .intro rfl rfl rfl leads
    · exact .intro rfl rfl rfl leads
  · exact .intro rfl rfl rfl leads

end Accounts

/-! ### Instructions -/

/-- A line on an instruction and its entry in a template: program and data are the same, and the
accounts stand for each other one by one. -/
inductive TellsInstruction (params : Params) : Json → InstructionTemplate → Prop where
  | intro {fields : Fields} {lines : List Json} {entry : InstructionTemplate}
      (program : fields.lookup "program" = some entry.program)
      (data : fields.lookup "data" = some entry.data)
      (listed : fields.lookup "accounts" = some (.arr lines))
      (accounts : List.Forall₂ (TellsAccount params) lines entry.accounts) :
      TellsInstruction params (.obj fields) entry

theorem instructionLine_alike (decompiler : Decompiler) {params : Params} {instruction : Json}
    (distinct : (decompiler.roster.map RosterEntry.account).Nodup)
    (signers : decompiler.signers = decompiler.roster.signers)
    (supplied : decompiler.Supplied params) (sound : decompiler.Sound) (form : Form instruction) :
    Alike (TellsInstruction params) (Report.instructionLine decompiler.roster instruction)
      (decompiler.decompile instruction).outcome := by
  simp only [Report.instructionLine, Decompiler.decompile, Traced.outcome_bind,
    Traced.outcome_liftM, Traced.outcome_note, Traced.outcome_pure, ok_bind, pure_eq_ok]
  refine (read_alike decompiler form).bind ?_
  rintro ⟨_, _, _, info⟩ parts ⟨rfl, rfl, rfl⟩
  refine (alike_refl (dataOfJson parts.data)).bind ?_
  rintro data _ rfl
  refine .done (.intro rfl rfl rfl ?_)
  rw [List.forall₂_map_left_iff, List.forall₂_map_right_iff, List.forall₂_same]
  exact fun account _ => tellsAccount distinct signers supplied sound info account

/-- Templates and reports agree. Where the accounts of a transaction are distinct addresses, an
instruction is reported and decompiled with the same outcome: the same fault, or a line and an entry
with the same program, the same data and the same accounts, in their order and with their rights.
The accounts can be searched for derived ones exactly when any two of them derive an address. -/
theorem instructionLine_tells_decompiled {roster : Roster} (wellFormed : roster.WellFormed) :
    ((∃ decompiler, (Decompiler.ofRoster roster).outcome = .ok decompiler) ↔
      AssociatedAccount.Derivable (roster.map RosterEntry.account)) ∧
    ∀ decompiler, (Decompiler.ofRoster roster).outcome = .ok decompiler →
      ∀ params, roster.signers <+: params → ∀ instruction, Form instruction →
        Alike (TellsInstruction params) (Report.instructionLine roster instruction)
          (decompiler.decompile instruction).outcome := by
  constructor
  · rw [← AssociatedAccount.exists_find_iff]
    constructor
    · rintro ⟨decompiler, made⟩
      obtain ⟨associated, found, -⟩ := Decompiler.ofRoster_eq_ok.mp made
      exact ⟨associated, found⟩
    · rintro ⟨associated, found⟩
      exact ⟨_, Decompiler.ofRoster_eq_ok.mpr ⟨associated, found, rfl⟩⟩
  · intro decompiler made params given instruction form
    obtain ⟨associated, found, rfl⟩ := Decompiler.ofRoster_eq_ok.mp made
    exact instructionLine_alike ⟨roster, roster.signers, associated⟩ wellFormed.distinct rfl
      (supplied_of_wellFormed wellFormed given) (AssociatedAccount.derives_of_find found) form

/-- A transfer of more than doubles can count, from the only listed account to one that is not
listed. -/
def largeTransfer : Json :=
  .obj [("programId", .str "11111111111111111111111111111111"),
    ("parsed", .obj [("type", .str "transfer"),
      ("info", .obj [("source", .str "11111111111111111111111111111111"),
        ("destination", .str "2a8MS8dWyyYNgBHgtzeTwrsDKsE6RnCoUqnonB4C8Xc3"),
        ("lamports", .int 9007199254740992)])])]

theorem wellFormed_memosRoster : memosRoster.WellFormed where
  distinct := List.nodup_singleton _
  valid := by
    rw [memosRoster, List.forall_mem_singleton]
    exact ⟨Address.systemProgram, by decide⟩

theorem instructionLine_tells_largeTransfer :
    ∃ decompiler line entry, (Decompiler.ofRoster memosRoster).outcome = .ok decompiler ∧
      Report.instructionLine memosRoster largeTransfer = .ok line ∧
      (decompiler.decompile largeTransfer).outcome = .ok entry ∧
      TellsInstruction ["11111111111111111111111111111111"] line entry ∧ entry.accounts.length = 2 ∧
      entry.data = Shorthand.transferData (.str "9007199254740992") := by
  obtain ⟨searched, agree⟩ := instructionLine_tells_decompiled wellFormed_memosRoster
  obtain ⟨decompiler, made⟩ := searched.mpr derivable_memosRoster
  have form : Form largeTransfer := @Form.parsed _ _ [] rfl rfl rfl
  have alike := agree decompiler made ["11111111111111111111111111111111"] ⟨[], rfl⟩
    largeTransfer form
  have decompiled : (decompiler.decompile largeTransfer).outcome = .ok
      ⟨.str "11111111111111111111111111111111", Shorthand.transferData (.str "9007199254740992"),
        ["11111111111111111111111111111111", "2a8MS8dWyyYNgBHgtzeTwrsDKsE6RnCoUqnonB4C8Xc3"].map
          decompiler.accountTemplate, []⟩ := rfl
  rw [decompiled] at alike
  cases reported : Report.instructionLine memosRoster largeTransfer with
  | error fault =>
      rw [reported] at alike
      cases alike
  | ok line =>
      rw [reported] at alike
      cases alike with
      | done tells => exact ⟨decompiler, line, _, made, rfl, decompiled, tells, rfl, rfl⟩

end TxTemplate
