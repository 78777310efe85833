import TxTemplate.Proofs.Confirmed.Data
import TxTemplate.Proofs.TypedData.Integers

set_option autoImplicit false

/-! The integers of decompiled transactions. The amount of a transfer is written as unpacked words
are, so a double holds it; everything else that an instruction brings in is passed on as the node
gave it. So a template is without unsafe integers exactly when what is passed on is. -/

namespace TxTemplate

open Json

/-! ### What is passed on -/

/-- The amount of a parsed instruction that is a transfer of lamports. -/
def parsedAmount? (program : String) : Json → Option Json
  | .obj fields =>
    match (fields.lookup "info").getD .null with
    | .obj info =>
      if program = Address.systemProgram.text ∧
        ((fields.lookup "type").getD .null).isText "transfer" = true then
        some ((info.lookup "lamports").getD .null)
      else none
    | _ => none
  | _ => none

def parsedCreation (program : String) : Json → Bool
  | .obj fields =>
    let kind := (fields.lookup "type").getD .null
    program = Address.associatedTokenProgram.text &&
      (kind.isText "create" || kind.isText "createIdempotent")
  | _ => false

/-- An amount that is no number is passed on as it is; a number is written anew. -/
def passedAmount : Json → Json
  | .int _ => .null
  | amount => amount

/-- What a parsed instruction passes on as it stands: its amount if it is a transfer, nothing if it
is a creation, whose data is known, and otherwise all of its info. -/
def passedParsed (program : String) (parsed : Json) : Json :=
  match parsedAmount? program parsed with
  | some amount => passedAmount amount
  | none => if parsedCreation program parsed then .null else parsedData parsed

def parsedForm? : Json → Option (String × Json)
  | .obj fields =>
    match fields.lookup "programIdIndex", fields.lookup "parsed" with
    | none, some parsed => some (((fields.lookup "programId").getD (.str "")).display, parsed)
    | _, _ => none
  | _ => none

def dataMember : Json → Json
  | .obj fields => (fields.lookup "data").getD (.str "")
  | _ => .null

/-- What an instruction passes on as it stands. -/
def passedOn (instruction : Json) : Json :=
  match parsedForm? instruction with
  | some (program, parsed) => passedParsed program parsed
  | none => dataMember instruction

def transferred? (instruction : Json) : Option Json :=
  (parsedForm? instruction).bind fun form => parsedAmount? form.1 form.2

/-! ### Parsed instructions -/

def readData (reading : NativeReading) (parsed : Json) : Json :=
  match reading.data with
  | .null => parsedData parsed
  | known => known

theorem readData_of_transfer {program : String} {parsed amount : Json} {reading : NativeReading}
    (given : parsedAmount? program parsed = some amount)
    (read : NativeReading.read program parsed = .ok reading) :
    readData reading parsed = Shorthand.transferData (NativeReading.safeNumber amount) := by
  cases parsed with
  | obj fields =>
      unfold parsedAmount? at given
      dsimp only at given
      split at given
      · rename_i info found
        split at given
        · rename_i transfer
          obtain rfl := Option.some.inj given
          simp only [NativeReading.read, found, if_pos transfer.1, transfer.2] at read
          obtain rfl := Except.ok.inj read
          rfl
        · cases given
      · cases given
  | null | bool _ | int _ | float _ | str _ | arr _ => cases given

theorem safe_transferData {amount : Json} : (Shorthand.transferData amount).Safe ↔ amount.Safe := by
  have tag : Shorthand.transferTag ≤ (Scalar.maxSafe : Int) := by decide
  simp [Shorthand.transferData, Shorthand.record, Shorthand.typed, tag]

theorem safe_safeNumber {amount : Json} :
    (NativeReading.safeNumber amount).Safe ↔ (passedAmount amount).Safe := by
  cases amount with
  | int n => simp [NativeReading.safeNumber, passedAmount, safe_safeInteger]
  | null | bool _ | float _ | str _ | arr _ | obj _ => rfl

theorem associated_ne_system :
    Address.associatedTokenProgram.text ≠ Address.systemProgram.text := by decide

theorem safe_readData_of_creation {program : String} {parsed : Json} {reading : NativeReading}
    (created : parsedCreation program parsed = true)
    (read : NativeReading.read program parsed = .ok reading) :
    (readData reading parsed).Safe := by
  cases parsed with
  | obj fields =>
      simp only [parsedCreation, Bool.and_eq_true, decide_eq_true_eq, Bool.or_eq_true] at created
      obtain ⟨rfl, named⟩ := created
      rw [NativeReading.read, if_neg associated_ne_system, if_pos rfl] at read
      obtain ⟨data, known, same⟩ := Outcome.bind_eq_ok.mp read
      obtain rfl := Except.ok.inj same
      have one : (1 : Int) ≤ (Scalar.maxSafe : Int) := by decide
      cases kind : (fields.lookup "type").getD .null with
      | str text =>
          simp only [kind, isText, decide_eq_true_eq] at named known
          rcases named with rfl | rfl
          · obtain rfl := Except.ok.inj known
            simp [readData]
          · obtain rfl := Except.ok.inj known
            simp [readData, Shorthand.typed, one]
      | null | bool _ | int _ | float _ | arr _ | obj _ => simp [kind, isText] at named
  | null | bool _ | int _ | float _ | str _ | arr _ => cases created

theorem creationData_eq_null {fields : Fields} {data : Json}
    (uncreated : parsedCreation Address.associatedTokenProgram.text (.obj fields) = false)
    (known : NativeReading.creationData ((fields.lookup "type").getD .null) = .ok data) :
    data = .null := by
  simp only [parsedCreation, decide_true, Bool.true_and, Bool.or_eq_false_iff] at uncreated
  unfold NativeReading.creationData at known
  split at known
  · cases known
  · cases known
  · rename_i kind
    simp [kind, isText] at uncreated
  · rename_i kind
    simp [kind, isText] at uncreated
  · exact (Except.ok.inj known).symm

theorem readData_literal (accounts : List String) (fields : Fields) :
    readData ⟨accounts, NativeReading.literalData ((fields.lookup "info").getD .null)⟩
      (.obj fields) =
      parsedData (.obj fields) := by
  cases given : fields.lookup "info" with
  | none => rfl
  | some info =>
      simp only [readData, parsedData, given, Option.getD_some]
      cases info <;> rfl

/-- Any other data is the info, whether or not its program is known. -/
theorem readData_of_other {program : String} {parsed : Json} {reading : NativeReading}
    (untransferred : parsedAmount? program parsed = none)
    (uncreated : parsedCreation program parsed = false)
    (read : NativeReading.read program parsed = .ok reading) :
    readData reading parsed = parsedData parsed := by
  cases parsed with
  | obj fields =>
      simp only [NativeReading.read] at read
      split at read
      · rename_i system
        split at read
        · rename_i info kind found
          simp [parsedAmount?, found, system, kind] at untransferred
        · obtain rfl := Except.ok.inj read
          rfl
      · split at read
        · rename_i associated
          subst associated
          obtain ⟨data, known, same⟩ := Outcome.bind_eq_ok.mp read
          obtain rfl := Except.ok.inj same
          rw [creationData_eq_null uncreated known]
          rfl
        · obtain rfl := Except.ok.inj read
          exact readData_literal _ fields
  | null | bool _ | int _ | float _ | str _ | arr _ =>
      obtain rfl := Except.ok.inj read
      rfl

theorem safe_readData_iff {program : String} {parsed : Json} {reading : NativeReading}
    (read : NativeReading.read program parsed = .ok reading) :
    (readData reading parsed).Safe ↔ (passedParsed program parsed).Safe := by
  unfold passedParsed
  cases given : parsedAmount? program parsed with
  | some amount => rw [readData_of_transfer given read, safe_transferData, safe_safeNumber]
  | none =>
      cases created : parsedCreation program parsed with
      | true => simp [safe_readData_of_creation created read]
      | false => rw [readData_of_other given created read]; rfl

/-! ### Instructions -/

theorem data_of_indexedParts {decompiler : Decompiler} {fields : Fields}
    {parts : Decompiler.Parts} (taken : decompiler.indexedParts (.obj fields) = .ok parts) :
    parts.data = dataMember (.obj fields) := by
  simp only [Decompiler.indexedParts, Outcome.bind_eq_ok] at taken
  obtain ⟨_, _, _, _, _, _, data, given, same⟩ := taken
  obtain rfl := Except.ok.inj given
  obtain rfl := Except.ok.inj same
  rfl

theorem data_of_namedParts {fields : Fields} {parts : Decompiler.Parts}
    (taken : Decompiler.namedParts (.obj fields) = .ok parts) :
    match fields.lookup "parsed" with
    | some parsed => ∃ reading,
        NativeReading.read (((fields.lookup "programId").getD (.str "")).display) parsed =
          .ok reading ∧
          parts.data = readData reading parsed
    | none => parts.data = dataMember (.obj fields) := by
  simp only [Decompiler.namedParts, Json.field?, Outcome.ok_bind] at taken
  cases given : fields.lookup "parsed" with
  | some parsed =>
      simp only [given] at taken
      obtain ⟨reading, read, same⟩ := Outcome.bind_eq_ok.mp taken
      obtain rfl := Except.ok.inj same
      exact ⟨reading, read, rfl⟩
  | none =>
      simp only [given] at taken
      obtain ⟨_, _, same⟩ := Outcome.bind_eq_ok.mp taken
      obtain rfl := Except.ok.inj same
      rfl

/-- Only objects have the members that an instruction is read from. -/
theorem object_of_parts {decompiler : Decompiler} {instruction : Json} {parts : Decompiler.Parts}
    (taken : decompiler.parts instruction = .ok parts) : ∃ fields, instruction = .obj fields := by
  obtain ⟨indexed, -, rest⟩ := Outcome.bind_eq_ok.mp taken
  cases instruction with
  | obj fields => exact ⟨fields, rfl⟩
  | null | bool _ | int _ | float _ | str _ | arr _ => cases indexed <;> cases rest

theorem data_of_parts {decompiler : Decompiler} {instruction : Json} {parts : Decompiler.Parts}
    (taken : decompiler.parts instruction = .ok parts) :
    match parsedForm? instruction with
    | some (program, parsed) => ∃ reading, NativeReading.read program parsed = .ok reading ∧
        parts.data = readData reading parsed
    | none => parts.data = dataMember instruction := by
  obtain ⟨fields, rfl⟩ := object_of_parts taken
  rw [Decompiler.parts, Json.contains, Outcome.ok_bind] at taken
  cases indexed : fields.lookup "programIdIndex" with
  | some index =>
      simp only [indexed, Option.isSome_some, if_true] at taken
      simp only [parsedForm?, indexed]
      exact data_of_indexedParts taken
  | none =>
      simp only [indexed, Option.isSome_none, Bool.false_eq_true, if_false] at taken
      have data := data_of_namedParts taken
      simp only [parsedForm?, indexed]
      cases given : fields.lookup "parsed" with
      | some parsed =>
          simp only [given] at data
          exact data
      | none =>
          simp only [given] at data
          exact data

/-! ### Entries -/

theorem safe_dataOfJson {content data : Json} (read : dataOfJson content = .ok data) :
    data.Safe ↔ content.Safe := by
  cases content with
  | str text =>
      rw [dataOfJson] at read
      cases written : dataAsHex text with
      | ok hex =>
          rw [written] at read
          obtain rfl := Except.ok.inj read
          simp
      | error fault =>
          rw [written] at read
          cases read
  | null | bool _ | int _ | float _ | arr _ | obj _ =>
      obtain rfl := Except.ok.inj read
      rfl

theorem safe_parts {decompiler : Decompiler} {instruction : Json} {parts : Decompiler.Parts}
    (taken : decompiler.parts instruction = .ok parts) :
    parts.data.Safe ↔ (passedOn instruction).Safe := by
  have data := data_of_parts taken
  unfold passedOn
  cases form : parsedForm? instruction with
  | some named =>
      obtain ⟨program, parsed⟩ := named
      simp only [form] at data
      obtain ⟨reading, read, same⟩ := data
      rw [same, safe_readData_iff read]
  | none =>
      simp only [form] at data
      rw [data]

theorem safe_accountTemplate (decompiler : Decompiler) (account : String) :
    (decompiler.accountTemplate account).toJson.Safe := by
  have placeholder : ∀ text, (decompiler.withPlaceholder text).Safe := by
    intro text
    unfold Decompiler.withPlaceholder
    split <;> exact holds_str _
  have address : (decompiler.descriptor account).Safe := by
    unfold Decompiler.descriptor
    split
    · simp [Descriptor.associated, placeholder]
    · exact placeholder account
  simp [Decompiler.accountTemplate, AccountTemplate.toJson, address]

theorem safe_entry_iff {decompiler : Decompiler} {instruction : Json} {entry : InstructionTemplate}
    (done : (decompiler.decompile instruction).outcome = .ok entry) :
    entry.toJson.Safe ↔ (passedOn instruction).Safe := by
  obtain ⟨parts, data, taken, read, rfl⟩ := Decompiler.decompile_eq_ok.mp done
  rw [← safe_parts taken, ← safe_dataOfJson read]
  simp [InstructionTemplate.toJson, safe_accountTemplate]

theorem data_of_transferred {decompiler : Decompiler} {instruction : Json}
    {entry : InstructionTemplate} {n : Int} (transfer : transferred? instruction = some (.int n))
    (done : (decompiler.decompile instruction).outcome = .ok entry) :
    entry.data = Shorthand.transferData (Scalar.safeInteger n) := by
  obtain ⟨parts, data, taken, read, rfl⟩ := Decompiler.decompile_eq_ok.mp done
  obtain ⟨⟨program, parsed⟩, form, amount⟩ := Option.bind_eq_some_iff.mp transfer
  have known := data_of_parts taken
  simp only [form] at known
  obtain ⟨reading, native, same⟩ := known
  rw [same, readData_of_transfer amount native] at read
  exact (Except.ok.inj read).symm

/-! ### Templates -/

theorem safe_entries_iff {decompiler : Decompiler} {instructions : List Json}
    {entries : List InstructionTemplate}
    (each : List.Forall₂ (fun instruction entry =>
      (decompiler.decompile instruction).outcome = .ok entry) instructions entries) :
    (∀ entry ∈ entries, entry.toJson.Safe) ↔
      ∀ instruction ∈ instructions, (passedOn instruction).Safe := by
  induction each with
  | nil => simp
  | cons first _ ih => rw [List.forall_mem_cons, List.forall_mem_cons, safe_entry_iff first, ih]

theorem safe_signerParams (decompiler : Decompiler) :
    ∀ signer ∈ decompiler.signerParams, signer.Safe := by
  intro signer member
  obtain ⟨index, -, rfl⟩ := List.mem_map.mp member
  exact holds_str _

theorem safe_template {template : DecompiledTransaction} :
    template.toJson.Safe ↔
      (∀ entry ∈ template.instructions, entry.toJson.Safe) ∧ ∀ signer ∈ template.signers,
        signer.Safe := by
  simp [DecompiledTransaction.toJson]

/-- The integers of what is read and decompiled. A value that is read from bytes is safe where its
schema is, and its words are those of the bytes, the widest written safely. A template is safe
exactly when everything is that its instructions pass on as the node gave it; the amount of a
transfer is not among that, and written safely as well. -/
theorem safe_of_unpack_and_decompile (buffer : Bytes) (offset : Int) (schema transaction : Json) :
    (∀ value, TypedData.unpack buffer schema offset = .ok value →
      TypedData.Numbers buffer offset schema value) ∧
    ∀ template, (decompileTransaction transaction).outcome = .ok template →
      ∃ message instructions, messageOf? transaction = .ok (some message) ∧
        instructionsOf message = .ok instructions ∧
        (template.toJson.Safe ↔ ∀ instruction ∈ instructions, (passedOn instruction).Safe) ∧
        List.Forall₂ (fun instruction entry => ∀ n, transferred? instruction = some (.int n) →
          entry.data = Shorthand.transferData (Scalar.safeInteger n)) instructions
            template.instructions := by
  refine ⟨fun value read => TypedData.numbers_unpack read, fun template done => ?_⟩
  obtain ⟨message, record, roster, decompiler, instructions, encoded, -, -, -, given, each,
    signers⟩ :=
    decompileTransaction_eq_ok.mp done
  have signersSafe : ∀ signer ∈ template.signers, signer.Safe :=
    signers ▸ safe_signerParams decompiler
  refine ⟨message, instructions, encoded, given, ?_, each.imp fun _ _ entry n transfer =>
    data_of_transferred transfer entry⟩
  rw [safe_template, safe_entries_iff each]
  exact and_iff_left signersSafe

/-- A transaction of one instruction that the node parsed for the system program, with an amount one
above the largest safe integer. -/
def amountTransaction (kind : String) : Json :=
  .obj [("transaction", .obj [("message", .obj [("instructions", .arr
    [.obj [("programId", .str Address.systemProgram.text), ("parsed", .obj [("type", .str kind),
      ("info", .obj [("lamports", .int 9007199254740992),
        ("source", .str Address.systemProgram.text)])])]])])])]

/-- The largest word is read as a text, and a transfer's amount is written so. -/
theorem safe_largestWord_transfer :
    (∃ value, TypedData.unpack (List.replicate 8 255) (.obj [("type", .str "u64")]) 0 = .ok value ∧
      value.Safe ∧
      TypedData.words value = [(.u64, some (.str "18446744073709551615"))]) ∧
    ∃ template entry, (decompileTransaction (amountTransaction "transfer")).outcome = .ok template ∧
      template.toJson.Safe ∧ template.instructions = [entry] ∧
      entry.data = Shorthand.transferData (.str "9007199254740992") := by
  obtain ⟨read, decompiled⟩ := safe_of_unpack_and_decompile (List.replicate 8 255) 0
    (.obj [("type", .str "u64")]) (amountTransaction "transfer")
  constructor
  · have word : (Json.obj [("type", .str "u64")]).Safe := by decide
    have numbers := read _ rfl
    exact ⟨_, rfl, numbers.safe word, numbers.words.trans rfl⟩
  · obtain ⟨template, done⟩ : ∃ template,
        (decompileTransaction (amountTransaction "transfer")).outcome = .ok template := ⟨_, rfl⟩
    obtain ⟨message, instructions, encoded, given, safe, amounts⟩ := decompiled template done
    obtain rfl := Option.some.inj (Except.ok.inj encoded)
    obtain rfl := Except.ok.inj given
    obtain ⟨entry, others, first, rest, single⟩ := List.forall₂_cons_left_iff.mp amounts
    obtain rfl := List.forall₂_nil_left_iff.mp rest
    refine ⟨template, entry, done, safe.mpr ?_, single, first _ rfl⟩
    rw [List.forall_mem_singleton]
    decide

/-- The lamports of a created account are passed on as the number that the node gave. -/
theorem not_safe_accountCreation :
    ∃ template, (decompileTransaction (amountTransaction "createAccount")).outcome = .ok template ∧
      ¬ template.toJson.Safe := by
  refine ⟨_, rfl, ?_⟩
  decide

end TxTemplate
