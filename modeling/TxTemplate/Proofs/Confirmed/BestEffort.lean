import TxTemplate.Confirmed.Report
import TxTemplate.Proofs.Confirmed.Associated
import TxTemplate.Proofs.Confirmed.Data
import TxTemplate.Proofs.Confirmed.Roster

set_option autoImplicit false

/-! Which transactions of the usual shapes are decompiled and reported. Whatever the program of an
instruction is, nothing in it is refused but one kind of text: content that is not base 58 and has
other characters than those of ASCII. -/

namespace TxTemplate

/-! ### Texts -/

/-- Texts that are not base 58 and on which base 64 is not even tried. -/
def Unreadable (text : String) : Prop :=
  Base58.decodeTrimmed text.toList = none ∧ Scalar.isAscii text.toList = false

theorem dataAsHex_of_unreadable {text : String} (unreadable : Unreadable text) :
    dataAsHex text = .error .nonAscii := by
  have written : text.isEmpty = false := by
    rw [Bool.eq_false_iff, Ne, String.isEmpty_iff]
    rintro rfl
    cases unreadable.2
  simp [dataAsHex, written, unreadable.1, unreadable.2]

theorem exists_dataAsHex {text : String} (readable : ¬ Unreadable text) :
    ∃ hex, dataAsHex text = .ok hex := by
  unfold dataAsHex
  by_cases empty : text.isEmpty = true
  · exact ⟨text, if_pos empty⟩
  · rw [if_neg empty]
    cases base58 : Base58.decodeTrimmed text.toList with
    | some bytes => exact ⟨_, rfl⟩
    | none =>
        have ascii : Scalar.isAscii text.toList = true := by
          rw [← Bool.not_eq_false]
          exact fun other => readable ⟨base58, other⟩
        cases base64 : Base64.decode text.toList with
        | some bytes => exact ⟨_, by simp only [ascii]; rfl⟩
        | none => exact ⟨text, by simp only [ascii]; rfl⟩

theorem dataAsHex_of_neither {text hex : String} (base58 : Base58.decodeTrimmed text.toList = none)
    (base64 : Base64.decode text.toList = none) (done : dataAsHex text = .ok hex) : hex = text := by
  unfold dataAsHex at done
  split at done
  · exact (Except.ok.inj done).symm
  · simp only [base58, base64] at done
    split at done
    · cases done
    · exact (Except.ok.inj done).symm

theorem exists_dataOfJson_iff {content : Json} :
    (∃ data, dataOfJson content = .ok data) ↔ ∀ text, content = .str text → ¬ Unreadable text := by
  cases content with
  | str text =>
      constructor
      · rintro ⟨data, read⟩ other same unreadable
        obtain rfl := Json.str.inj same
        rw [dataOfJson, dataAsHex_of_unreadable unreadable] at read
        cases read
      · intro readable
        obtain ⟨hex, written⟩ := exists_dataAsHex (readable text rfl)
        exact ⟨.str hex, by rw [dataOfJson, written]; rfl⟩
  | null | bool _ | int _ | float _ | arr _ | obj _ =>
      exact ⟨fun _ text same => (by cases same), fun _ => ⟨_, rfl⟩⟩

/-- The content of the instruction is no text that is refused. -/
def Readable (instruction : Json) : Prop :=
  ∃ content, contentOf instruction = .ok content ∧ ∀ text, content = .str text → ¬ Unreadable text

/-- The data is what the content of the instruction becomes; text that is neither base 58 nor base
64 has stayed. -/
def KeepsContent (instruction data : Json) : Prop :=
  ∃ content, contentOf instruction = .ok content ∧ dataOfJson content = .ok data ∧
    ∀ text, content = .str text → Base58.decodeTrimmed text.toList = none →
      Base64.decode text.toList = none → data = .str text

theorem keepsContent_of_read {instruction content data : Json}
    (brought : contentOf instruction = .ok content) (read : dataOfJson content = .ok data) :
    KeepsContent instruction data := by
  refine ⟨content, brought, read, ?_⟩
  rintro text rfl base58 base64
  cases written : dataAsHex text with
  | error fault =>
      rw [dataOfJson, written] at read
      cases read
  | ok hex =>
      rw [dataOfJson, written] at read
      obtain rfl : .str hex = data := Except.ok.inj read
      rw [dataAsHex_of_neither base58 base64 written]

/-! ### Shapes of instructions -/

/-- What the node gives for an instruction that it parsed: a text, or a kind with an info. -/
inductive ParsedShape : Json → Prop where
  | text (text : String) : ParsedShape (.str text)
  | named {fields : Fields} {kind text : String} (type : fields.lookup "type" = some (.str kind))
      (info : fields.lookup "info" = some (.str text)) : ParsedShape (.obj fields)
  | detailed {fields members : Fields} {kind : String}
      (type : fields.lookup "type" = some (.str kind))
      (info : fields.lookup "info" = some (.obj members)) : ParsedShape (.obj fields)

/-- The shapes of instructions: by indices, by addresses, and parsed. -/
inductive Shaped : Json → Prop where
  | indexed {fields : Fields} {program : Int} {accounts : List Int} {text : String}
      (programAt : fields.lookup "programIdIndex" = some (.int program))
      (accountsAt : fields.lookup "accounts" = some (.arr (accounts.map .int)))
      (data : fields.lookup "data" = some (.str text)) (unparsed : fields.lookup "parsed" = none) :
      Shaped (.obj fields)
  | addressed {fields : Fields} {program text : String} {accounts : List String}
      (unindexed : fields.lookup "programIdIndex" = none)
      (programNamed : fields.lookup "programId" = some (.str program))
      (accountsNamed : fields.lookup "accounts" = some (.arr (accounts.map .str)))
      (data : fields.lookup "data" = some (.str text)) (unparsed : fields.lookup "parsed" = none) :
      Shaped (.obj fields)
  | parsed {fields : Fields} {program : String} {reading : Json} {accounts : List Json}
      (unindexed : fields.lookup "programIdIndex" = none)
      (programNamed : fields.lookup "programId" = some (.str program))
      (accountsListed : (fields.lookup "accounts").getD (.arr []) = .arr accounts)
      (parsed : fields.lookup "parsed" = some reading) (shape : ParsedShape reading) :
        Shaped (.obj fields)

section Instructions

variable {instruction : Json}

theorem exists_nativeReading (program : String) {parsed : Json} (shape : ParsedShape parsed) :
    ∃ reading, NativeReading.read program parsed = .ok reading := by
  have known : ∀ {fields : Fields} {kind : String}, fields.lookup "type" = some (.str kind) →
      ∃ reading, NativeReading.read program (.obj fields) = .ok reading := by
    intro fields kind type
    have created : ∃ data, NativeReading.creationData (.str kind) = .ok data := by
      unfold NativeReading.creationData
      split
      all_goals first | contradiction | exact ⟨_, rfl⟩
    obtain ⟨data, created⟩ := created
    unfold NativeReading.read
    simp only [type, Option.getD_some, created, Outcome.ok_bind]
    repeat' split
    all_goals exact ⟨_, rfl⟩
  cases shape with
  | text text => exact ⟨_, rfl⟩
  | named type _ => exact known type
  | detailed type _ => exact known type

theorem exists_parts (shaped : Shaped instruction) (decompiler : Decompiler) :
    ∃ parts, decompiler.parts instruction = .ok parts := by
  cases shaped with
  | indexed programAt accountsAt data unparsed =>
      simp [Decompiler.parts, Decompiler.indexedParts, Json.contains, Json.member, Json.field?,
        programAt, accountsAt, data, Json.elements]
  | addressed unindexed programNamed accountsNamed data unparsed =>
      simp [Decompiler.parts, Decompiler.namedParts, Json.contains, Json.field?, unindexed,
        programNamed, accountsNamed, data, unparsed, Json.elements]
  | @parsed fields program reading accounts unindexed programNamed accountsListed parsed shape =>
      obtain ⟨native, read⟩ := exists_nativeReading program shape
      simp [Decompiler.parts, Decompiler.namedParts, Json.contains, Json.field?, unindexed,
        programNamed, parsed, Json.display, read]

theorem exists_read (shaped : Shaped instruction) (roster : Roster) :
    ∃ reading, Report.read roster instruction = .ok reading ∧
      contentOf instruction = .ok reading.data := by
  cases shaped with
  | @indexed fields program accounts text programAt accountsAt data unparsed =>
      obtain ⟨entries, listed⟩ : ∃ entries,
          (accounts.map Json.int).mapM (Report.entryAt roster) = .ok entries := by
        apply Outcome.exists_mapM
        intro index member
        obtain ⟨n, -, rfl⟩ := List.mem_map.mp member
        exact ⟨_, rfl⟩
      have read : ∃ program accounts, Report.read roster (.obj fields) =
          .ok ⟨program, accounts, .str text, .null⟩ := by
        simp only [Report.read, Report.partsOf, Json.contains, Json.member, Json.field?,
          Json.fieldOrNull, programAt, accountsAt, data, unparsed, Json.elements,
          Option.isSome_some, if_true, Outcome.ok_bind, Option.getD_some, listed]
        exact ⟨_, _, rfl⟩
      obtain ⟨program, accounts, read⟩ := read
      refine ⟨_, read, ?_⟩
      simp [contentOf, Decompiler.parts, Decompiler.indexedParts, Json.contains, Json.member,
        Json.field?, programAt, accountsAt, data, Json.elements, Except.map]
  | addressed unindexed programNamed accountsNamed data unparsed =>
      simp [Report.read, Report.partsOf, contentOf, Decompiler.parts, Decompiler.namedParts,
        Json.contains, Json.field?, Json.fieldOrNull, unindexed, programNamed, accountsNamed, data,
        unparsed, Json.elements, Except.map]
  | @parsed fields program reading accounts unindexed programNamed accountsListed parsed shape =>
      obtain ⟨⟨listed, data⟩, read⟩ := exists_nativeReading program shape
      cases data with
      | null | bool _ | int _ | float _ | str _ | arr _ | obj _ =>
          simp [Report.read, Report.partsOf, contentOf, Decompiler.parts, Decompiler.namedParts,
            Json.contains, Json.field?, Json.fieldOrNull, unindexed, programNamed, accountsListed,
            parsed, Json.elements, Json.display, read, Except.map]

/-- An instruction of one of the shapes decompiles exactly when its content can be read. -/
theorem exists_decompile_iff (shaped : Shaped instruction) (decompiler : Decompiler) :
    (∃ entry, (decompiler.decompile instruction).outcome = .ok entry) ↔ Readable instruction := by
  obtain ⟨parts, taken⟩ := exists_parts shaped decompiler
  have brought := contentOf_of_parts taken
  constructor
  · rintro ⟨entry, done⟩
    obtain ⟨other, data, again, read, -⟩ := Decompiler.decompile_eq_ok.mp done
    exact ⟨other.data, contentOf_of_parts again, exists_dataOfJson_iff.mp ⟨data, read⟩⟩
  · rintro ⟨content, same, readable⟩
    obtain rfl := Except.ok.inj (brought.symm.trans same)
    obtain ⟨data, read⟩ := exists_dataOfJson_iff.mpr readable
    exact ⟨_, Decompiler.decompile_eq_ok.mpr ⟨parts, data, taken, read, rfl⟩⟩

theorem keepsContent_of_decompile {decompiler : Decompiler} {entry : InstructionTemplate}
    (done : (decompiler.decompile instruction).outcome = .ok entry) :
    KeepsContent instruction entry.data := by
  obtain ⟨parts, data, taken, read, rfl⟩ := Decompiler.decompile_eq_ok.mp done
  exact keepsContent_of_read (contentOf_of_parts taken) read

def LineKeepsContent (instruction line : Json) : Prop :=
  ∃ fields data, line = .obj fields ∧ fields.lookup "data" = some data ∧
    KeepsContent instruction data

theorem exists_instructionLine_iff (shaped : Shaped instruction) (roster : Roster) :
    (∃ line, Report.instructionLine roster instruction = .ok line) ↔ Readable instruction := by
  obtain ⟨reading, taken, brought⟩ := exists_read shaped roster
  simp only [Report.instructionLine, taken, Outcome.ok_bind]
  constructor
  · rintro ⟨line, done⟩
    obtain ⟨data, read, -⟩ := Outcome.bind_eq_ok.mp done
    exact ⟨reading.data, brought, exists_dataOfJson_iff.mp ⟨data, read⟩⟩
  · rintro ⟨content, same, readable⟩
    obtain rfl := Except.ok.inj (brought.symm.trans same)
    obtain ⟨data, read⟩ := exists_dataOfJson_iff.mpr readable
    exact ⟨_, by rw [read, Outcome.ok_bind]; rfl⟩

theorem keepsContent_of_instructionLine (shaped : Shaped instruction) {roster : Roster}
    {line : Json} (done : Report.instructionLine roster instruction = .ok line) :
    LineKeepsContent instruction line := by
  obtain ⟨reading, taken, brought⟩ := exists_read shaped roster
  rw [Report.instructionLine, taken, Outcome.ok_bind] at done
  obtain ⟨data, read, same⟩ := Outcome.bind_eq_ok.mp done
  obtain rfl := Except.ok.inj same
  exact ⟨_, data, rfl, rfl, keepsContent_of_read brought read⟩

end Instructions

/-! ### Balances -/

def Balances (value : Json) : Prop :=
  value = .null ∨ ∃ amounts : List Int, value = .arr (amounts.map .int)

theorem orElse_of_balances {value : Json} (balances : Balances value) :
    ∃ amounts : List Int, value.orElse (.arr []) = .arr (amounts.map .int) := by
  obtain rfl | ⟨amounts, rfl⟩ := balances
  · exact ⟨[], rfl⟩
  · cases amounts with
    | nil => exact ⟨[], rfl⟩
    | cons amount rest => exact ⟨amount :: rest, rfl⟩

theorem balanceAt_ints (amounts : List Int) (position : Nat) :
    Report.balanceAt (.arr (amounts.map .int)) position =
      .ok ((amounts[position]?.map Json.int).getD .null) := by
  unfold Report.balanceAt
  rw [Json.size, Outcome.ok_bind, List.length_map]
  split
  · rename_i listed
    simp [Json.itemAt, List.getElem?_eq_getElem listed]
  · rename_i missing
    rw [List.getElem?_eq_none (Nat.not_lt.mp missing)]
    rfl

theorem exists_balanceLines (earlier later : List Int) (position : Nat) (roster : Roster) :
    ∃ lines, Report.balanceLines (.arr (earlier.map .int)) (.arr (later.map .int)) position roster =
      .ok lines := by
  induction roster generalizing position with
  | nil => exact ⟨[], rfl⟩
  | cons entry rest ih =>
      obtain ⟨lines, others⟩ := ih (position + 1)
      have first : ∃ line,
        Report.balanceLine (.arr (earlier.map .int)) (.arr (later.map .int)) position
          entry = .ok line := by
        simp only [Report.balanceLine, balanceAt_ints, Outcome.ok_bind]
        cases earlier[position]? with
        | none => exact ⟨_, rfl⟩
        | some old =>
            cases later[position]? with
            | none => exact ⟨_, rfl⟩
            | some new => exact ⟨_, rfl⟩
      obtain ⟨line, first⟩ := first
      refine ⟨line :: lines, ?_⟩
      rw [Report.balanceLines, first, Outcome.ok_bind, others, Outcome.ok_bind]
      rfl

/-! ### Transactions -/

/-- A transaction of the usual shapes: its accounts, its instructions, what the ledger recorded of
its balances, and its signatures. -/
structure WellShaped (transaction : Json) (fields message recorded : Fields) (roster : Roster)
    (instructions : List Json) : Prop where
  encoded : transaction.fieldOrNull "transaction" = .ok (.obj fields)
  holds : fields.lookup "message" = some (.obj message)
  records : recordOf transaction = .ok (.obj recorded)
  lists : Roster.Lists message (.obj recorded) roster
  given : instructionsOf message = .ok instructions
  each : ∀ instruction ∈ instructions, Shaped instruction
  earlier : Balances ((recorded.lookup "preBalances").getD .null)
  later : Balances ((recorded.lookup "postBalances").getD .null)
  signed : ∃ signatures, (fields.lookup "signatures").getD (.arr []) = .arr signatures

section Transactions

variable {transaction : Json} {fields message recorded : Fields} {roster : Roster}
  {instructions : List Json}

theorem WellShaped.messageOf?
    (shaped : WellShaped transaction fields message recorded roster instructions) :
    messageOf? transaction = .ok (some message) := by
  rw [TxTemplate.messageOf?, shaped.encoded, Outcome.ok_bind]
  simp only [shaped.holds]
  rfl

/-- A transaction decompiles exactly when every two of its addresses derive a token account and the
content of each of its instructions can be read. -/
theorem exists_decompileTransaction_iff
    (shaped : WellShaped transaction fields message recorded roster instructions) :
    (∃ template, (decompileTransaction transaction).outcome = .ok template) ↔
      AssociatedAccount.Derivable (roster.map RosterEntry.account) ∧
        ∀ instruction ∈ instructions, Readable instruction := by
  have listed := Roster.ofMessage_of_lists shaped.lists
  constructor
  · rintro ⟨template, done⟩
    obtain ⟨other, record, otherRoster, decompiler, items, encoded, recorded, otherListed, made,
      given, each, -⟩ := decompileTransaction_eq_ok.mp done
    obtain rfl := Option.some.inj (Except.ok.inj (shaped.messageOf?.symm.trans encoded))
    obtain rfl := Except.ok.inj (shaped.records.symm.trans recorded)
    obtain rfl := Except.ok.inj (listed.symm.trans otherListed)
    obtain rfl := Except.ok.inj (shaped.given.symm.trans given)
    obtain ⟨associated, found, -⟩ := Decompiler.ofRoster_eq_ok.mp made
    refine ⟨AssociatedAccount.exists_find_iff.mp ⟨associated, found⟩, fun instruction member => ?_⟩
    have all := Outcome.exists_mapM_iff.mp ⟨_, Outcome.mapM_eq_ok.mpr each⟩
    exact (exists_decompile_iff (shaped.each instruction member) decompiler).mp
      (all instruction member)
  · rintro ⟨derivable, readable⟩
    obtain ⟨associated, found⟩ := AssociatedAccount.exists_find derivable
    obtain ⟨template, done, -⟩ :=
      exists_decompileTransaction shaped.messageOf? shaped.records listed found
      shaped.given fun instruction member =>
        (exists_decompile_iff (shaped.each instruction member) _).mpr (readable instruction member)
    exact ⟨template, done⟩

theorem transactionLine_eq
    (shaped : WellShaped transaction fields message recorded roster instructions) :
    ∃ signature log accounts, Report.transactionLine transaction =
      (instructions.mapM (Report.instructionLine roster)).map fun lines =>
        some (.obj [("signature", signature), ("ixs", .arr lines),
          ("meta", .obj [("logs", log), ("accounts", accounts)])]) := by
  obtain ⟨earlier, before⟩ := orElse_of_balances shaped.earlier
  obtain ⟨later, after⟩ := orElse_of_balances shaped.later
  obtain ⟨accounts, measured⟩ := exists_balanceLines earlier later 0 roster
  obtain ⟨signature, signed⟩ : ∃ signature, (((fields.lookup "signatures").getD .null).orElse
      (.arr [.str ""])).itemAt 0 = .ok signature := by
    obtain ⟨signatures, listed⟩ := shaped.signed
    cases known : fields.lookup "signatures" with
    | none => exact ⟨.str "", rfl⟩
    | some value =>
        rw [known] at listed
        obtain rfl : value = .arr signatures := listed
        cases signatures with
        | nil => exact ⟨.str "", rfl⟩
        | cons signature rest => exact ⟨signature, rfl⟩
  have field (members : Fields) (key : String) :
      (Json.obj members).fieldOrNull key = .ok ((members.lookup key).getD .null) := rfl
  have given := shaped.given
  rw [instructionsOf] at given
  refine ⟨signature, ((recorded.lookup "logMessages").getD .null).orElse (.arr []),
    .arr accounts, ?_⟩
  simp only [Report.transactionLine, shaped.messageOf?, shaped.records, shaped.encoded,
    Outcome.ok_bind, Roster.ofMessage_of_lists shaped.lists, field, before, after, measured, signed,
    given]
  cases instructions.mapM (Report.instructionLine roster) with
  | error fault => rfl
  | ok lines => rfl

theorem exists_transactionLine_iff
    (shaped : WellShaped transaction fields message recorded roster instructions) :
    (∃ line, Report.transactionLine transaction = .ok (some line)) ↔
      ∀ instruction ∈ instructions, Readable instruction := by
  obtain ⟨signature, log, accounts, report⟩ := transactionLine_eq shaped
  have lines : (∃ lines, instructions.mapM (Report.instructionLine roster) = .ok lines) ↔
      ∀ instruction ∈ instructions, Readable instruction := by
    rw [Outcome.exists_mapM_iff]
    exact forall₂_congr fun instruction member =>
      exists_instructionLine_iff (shaped.each instruction member) roster
  rw [← lines, report]
  cases instructions.mapM (Report.instructionLine roster) with
  | error fault => simp [Except.map]
  | ok lines => simp [Except.map]

/-- Decompiling and reporting do the best they can. On a transaction of the usual shapes only two
things stop them: two addresses without a token account stop decompiling, and content that cannot be
read stops both. Otherwise there is one entry for each instruction, in their order, and text that is
neither base 58 nor base 64 stays as it is. -/
theorem bestEffort_of_wellShaped
    (shaped : WellShaped transaction fields message recorded roster instructions) :
    ((∃ template, (decompileTransaction transaction).outcome = .ok template) ↔
      AssociatedAccount.Derivable (roster.map RosterEntry.account) ∧
        ∀ instruction ∈ instructions, Readable instruction) ∧
    ((∃ line, Report.transactionLine transaction = .ok (some line)) ↔
      ∀ instruction ∈ instructions, Readable instruction) ∧
    (∀ template, (decompileTransaction transaction).outcome = .ok template →
      List.Forall₂ (fun instruction entry => KeepsContent instruction entry.data) instructions
        template.instructions) ∧
    ∀ line, Report.transactionLine transaction = .ok line →
      ∃ members lines, line = some (.obj members) ∧ members.lookup "ixs" = some (.arr lines) ∧
        List.Forall₂ LineKeepsContent instructions lines := by
  refine ⟨exists_decompileTransaction_iff shaped, exists_transactionLine_iff shaped, ?_, ?_⟩
  · intro template done
    obtain ⟨other, -, -, decompiler, items, encoded, -, -, -, given, each, -⟩ :=
      decompileTransaction_eq_ok.mp done
    obtain rfl := Option.some.inj (Except.ok.inj (shaped.messageOf?.symm.trans encoded))
    obtain rfl := Except.ok.inj (shaped.given.symm.trans given)
    exact each.imp fun _ _ => keepsContent_of_decompile
  · intro line done
    obtain ⟨signature, log, accounts, report⟩ := transactionLine_eq shaped
    rw [report] at done
    cases reported : instructions.mapM (Report.instructionLine roster) with
    | error fault =>
        rw [reported] at done
        cases done
    | ok lines =>
        rw [reported] at done
        obtain rfl := Except.ok.inj done
        refine ⟨_, lines, rfl, rfl, ?_⟩
        have each := (List.forall₂_and_left _ _).mpr ⟨shaped.each, Outcome.mapM_eq_ok.mp reported⟩
        exact each.imp fun _ _ both => keepsContent_of_instructionLine both.1 both.2

end Transactions

/-! ### Memos -/

def memo (text : String) : Json :=
  .obj [("programId", .str "MemoSq4gqABAXKb96qnH8TysNcWxMyWCqXgDLGmfcHr"), ("parsed", .str text)]

def memosMessage (texts : List String) : Fields :=
  [("accountKeys", .arr [.str "11111111111111111111111111111111"]),
    ("header", .obj [("numRequiredSignatures", .int 1)]), ("instructions", .arr (texts.map memo))]

def memosRecord : Fields := [("preBalances", .arr [.int 9]), ("postBalances", .arr [.int 4])]

def memosTransaction (texts : List String) : Json :=
  .obj [("transaction", .obj [("message", .obj (memosMessage texts))]), ("meta", .obj memosRecord)]

def memosRoster : Roster := [⟨"11111111111111111111111111111111", true, true⟩]

theorem wellShaped_memosTransaction (texts : List String) :
    WellShaped (memosTransaction texts) [("message", .obj (memosMessage texts))]
      (memosMessage texts)
      memosRecord memosRoster (texts.map memo) where
  encoded := rfl
  holds := rfl
  records := rfl
  lists := @Roster.Lists.header _ _ ["11111111111111111111111111111111"] [] [] 1 0 0 _ rfl
    ⟨_, rfl, rfl, rfl, rfl⟩ rfl ⟨rfl, rfl⟩
  given := rfl
  each := by
    rw [List.forall_mem_map]
    exact fun text _ => @Shaped.parsed _ _ _ [] rfl rfl rfl rfl (.text text)
  earlier := .inr ⟨[9], rfl⟩
  later := .inr ⟨[4], rfl⟩
  signed := ⟨[], rfl⟩

theorem derivable_memosRoster :
    AssociatedAccount.Derivable (memosRoster.map RosterEntry.account) := by
  decide +kernel

theorem bestEffort_memosTransaction :
    ∃ template line,
      (decompileTransaction (memosTransaction ["hello!", "2g"])).outcome = .ok template ∧
      Report.transactionLine (memosTransaction ["hello!", "2g"]) = .ok (some line) ∧
      template.instructions.length = 2 ∧
      template.instructions.head?.map InstructionTemplate.data = some (.str "hello!") := by
  have readable : ∀ instruction ∈ ["hello!", "2g"].map memo, Readable instruction := by
    rw [List.forall_mem_map]
    intro text member
    refine ⟨.str text, rfl, ?_⟩
    rintro _ ⟨⟩ ⟨-, other⟩
    have ascii : ∀ text ∈ ["hello!", "2g"], Scalar.isAscii text.toList = true := by decide
    rw [ascii text member] at other
    cases other
  obtain ⟨decompiles, reports, keeps, -⟩ :=
    bestEffort_of_wellShaped (wellShaped_memosTransaction ["hello!", "2g"])
  obtain ⟨template, done⟩ := decompiles.mpr ⟨derivable_memosRoster, readable⟩
  obtain ⟨line, reported⟩ := reports.mpr readable
  have each := keeps template done
  refine ⟨template, line, done, reported, each.length_eq.symm, ?_⟩
  obtain ⟨first, rest, ⟨content, brought, -, stays⟩, -, same⟩ := List.forall₂_cons_left_iff.mp each
  obtain rfl : .str "hello!" = content := Except.ok.inj brought
  rw [same, List.head?_cons, Option.map_some, stays "hello!" rfl (by decide) (by decide)]

/-- One memo in another alphabet is enough to lose the template and the report. -/
theorem memosTransaction_refused :
    AssociatedAccount.Derivable (memosRoster.map RosterEntry.account) ∧
      WellShaped (memosTransaction ["hello!", "é"])
        [("message", .obj (memosMessage ["hello!", "é"]))]
        (memosMessage ["hello!", "é"]) memosRecord memosRoster [memo "hello!", memo "é"] ∧
      Base58.decodeTrimmed "é".toList = none ∧ Base64.decode "é".toList = none ∧
      (¬ ∃ template,
        (decompileTransaction (memosTransaction ["hello!", "é"])).outcome = .ok template) ∧
      Report.transactionLine (memosTransaction ["hello!", "é"]) = .error .nonAscii := by
  refine ⟨derivable_memosRoster, wellShaped_memosTransaction _, by decide, by decide, ?_, rfl⟩
  rw [exists_decompileTransaction_iff (wellShaped_memosTransaction _)]
  rintro ⟨-, readable⟩
  obtain ⟨content, brought, read⟩ := readable (memo "é") (by simp)
  obtain rfl : .str "é" = content := Except.ok.inj brought
  exact read "é" rfl ⟨by decide, by decide⟩

end TxTemplate
