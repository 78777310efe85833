import Mathlib
import TxTemplate.Proofs.Reformat.Run
import TxTemplate.Proofs.TypedData.Repack

set_option autoImplicit false

/-! What reformatting does to the bytes of an instruction. The data is packed, read through the
schema and stored as what was read; so the bytes stay where the schema covers all of them and loses
none. -/

namespace TxTemplate.Reformat

open TxTemplate.Action TypedData

/-- The one change to a template: the first instruction that names the program holds `old` bytes,
and gets the data that the schema reads from them. -/
structure Change (program : String) (schema : Json) (stored changed : TransactionTemplate)
    (target : InstructionTemplate) (old : Bytes) (data : Json) : Prop where
  listed : ∃ before after, stored.instructions = before ++ target :: after ∧
    (∀ other ∈ before, names program other = false) ∧
    changed = { stored with instructions := before ++ { target with data := data } :: after }
  named : names program target = true
  packed : (pack [] target.data).outcome = .ok old
  read : unpack old schema 0 = .ok data

theorem exists_change {program shown : String} {schema : Json}
    {stored changed : TransactionTemplate}
    (done : (templateWhere (names program) shown schema stored).outcome = .ok changed) :
    ∃ target old data, Change program schema stored changed target old data := by
  obtain ⟨before, target, after, old, data, listed, others, named, packed, read, same⟩ :=
    exists_target done
  exact ⟨target, old, data, ⟨before, after, listed, others, same⟩, named, packed, read⟩

/-! ### The bytes before and after -/

section Bytes

variable {old : Bytes} {data : Json}

/-- Through the schema of one value the bytes stay exactly where it covers them all and loses
none. -/
theorem keeps_bytes_object {fields : Fields} (read : unpack old (.obj fields) 0 = .ok data)
    (sized : ∀ leaf ∈ leaves (.obj fields), 0 ≤ leaf.size)
    (plain : ∀ slice ∈ slices old 0 (leaves (.obj fields)), ¬ Misread slice) :
    (pack [] data).outcome = .ok old ↔
      span (leaves (.obj fields)) = old.length ∧
        ∀ slice ∈ slices old 0 (leaves (.obj fields)), Lossless slice := by
  have supported := supported_of_unpack read sized
  have slicewise := pack_eq_window_iff supported read
    (fun entries => packEach (packNested (nestingLimit - 1) []) entries) []
  have lossless : (∀ slice ∈ slices old 0 (leaves (.obj fields)), repack [] slice = .ok slice.2) ↔
      ∀ slice ∈ slices old 0 (leaves (.obj fields)), Lossless slice := by
    refine forall₂_congr fun slice member => ?_
    rw [repack_eq_ok_iff (cut_of_unpack supported read slice member)]
    exact and_iff_left (plain slice member)
  rw [← pack_eq, lossless] at slicewise
  have covered : span (leaves (.obj fields)) = old.length →
      window old 0 (span (leaves (.obj fields))) = old := by
    intro total
    rw [total, window, Int.toNat_zero, List.drop_zero, Int.toNat_natCast, List.take_length]
  constructor
  · intro packs
    have total : span (leaves (.obj fields)) = old.length :=
      (length_of_pack supported read packs).symm
    rw [covered total] at slicewise
    exact ⟨total, slicewise.mp packs⟩
  · rintro ⟨total, kept⟩
    rw [covered total] at slicewise
    exact slicewise.mpr kept

/-- A list of typed values is no typed value: packing takes its items for single bytes. -/
theorem keeps_bytes_list {entries : List Json} (read : unpack old (.arr entries) 0 = .ok data) :
    (pack [] data).outcome = .ok old ↔ entries = [] ∧ old = [] := by
  obtain ⟨items, itemsRead, same⟩ := Outcome.bind_eq_ok.mp read
  obtain rfl := Except.ok.inj same
  cases entries with
  | nil =>
      obtain rfl : [] = items := Except.ok.inj itemsRead
      constructor
      · intro packs
        exact ⟨rfl, (Except.ok.inj packs).symm⟩
      · rintro ⟨-, rfl⟩
        rfl
  | cons entry rest =>
      obtain ⟨item, itemRead, later⟩ := Outcome.bind_eq_ok.mp itemsRead
      obtain ⟨covered, measured, last⟩ := Outcome.bind_eq_ok.mp later
      obtain ⟨others, -, same⟩ := Outcome.bind_eq_ok.mp last
      obtain rfl : item :: others = items := Except.ok.inj same
      obtain ⟨members, rfl⟩ : ∃ members, item = .obj members := by
        cases item with
        | obj members => exact ⟨members, rfl⟩
        | null | bool _ | int _ | float _ | str _ | arr _ => cases measured
      constructor
      · intro packs
        cases packs
      · rintro ⟨none, -⟩
        cases none

end Bytes

/-- What reformatting keeps. Whenever it succeeds, the first instruction that names the program has
got the data that the schema reads from its bytes, and that is stored. Through the schema of one
value, without negative sizes and with no byte string misread, the new data packs to the bytes from
before exactly where the schema covers them all and reads every slice without loss; through a list
of schemas it does so only where there is no schema and no byte. -/
theorem reformatted_keeps_bytes_iff {dump : Dumper} {templatePath schemaPath program : String}
    {session after : Session}
    (done : (run dump templatePath (some schemaPath) (some program)).on session = (.ok (), after)) :
    ∃ stored schema changed target old data,
      TransactionTemplate.load session.directory templatePath = .ok stored ∧
      schemaIn session.directory schemaPath = .ok schema ∧
      Change program schema stored changed target old data ∧
      (session.logPlace = none → session.directory.write templatePath
        (.text (dump changed.toJson).text) = .ok after.directory) ∧
      ((∃ fields, schema = .obj fields ∧ ((∀ leaf ∈ leaves schema, 0 ≤ leaf.size) →
          (∀ slice ∈ slices old 0 (leaves schema), ¬ Misread slice) →
          ((pack [] data).outcome = .ok old ↔ span (leaves schema) = old.length ∧
            ∀ slice ∈ slices old 0 (leaves schema), Lossless slice))) ∨
        ∃ entries, schema = .arr entries ∧
          ((pack [] data).outcome = .ok old ↔ entries = [] ∧ old = [])) := by
  obtain ⟨changed, written, made, -, saved, rfl⟩ := run_eq_ok.mp done
  obtain ⟨path, stored, schema, same, loaded, given, change⟩ := prepared_eq_ok.mp made
  obtain rfl := Option.some.inj same
  obtain ⟨target, old, data, change⟩ := exists_change change
  refine ⟨stored, schema, changed, target, old, data, loaded, given, change, fun unlogged => ?_, ?_⟩
  · rw [Session.record_withFiles ((noted_noted _ _ _ session).logPlace.trans unlogged)]
    rw [noted, Session.directory_foldl_record unlogged] at saved
    exact saved
  · have read := change.read
    cases schema with
    | obj fields => exact .inl ⟨fields, rfl, keeps_bytes_object read⟩
    | arr entries => exact .inr ⟨entries, rfl, keeps_bytes_list read⟩
    | null | bool _ | int _ | float _ | str _ => cases read

/-! ### A stored instruction of three bytes -/

def memoProgram : String := "MemoSq4gqABAXKb96qnH8TysNcWxMyWCqXgDLGmfcHr"

def memoText : String :=
  "\x7b\"instructions\":[\x7b\"program_id\":\"MemoSq4gqABAXKb96qnH8TysNcWxMyWCqXgDLGmfcHr\"," ++
    "\"data\":\"0x01f402\",\"accounts\":[]\x7d],\"signers\":[]\x7d"

def memoTemplate (data : Json) : TransactionTemplate :=
  ⟨[⟨.str memoProgram, data, [], []⟩], [], .null⟩

def memoDirectory (schema : String) : Directory :=
  ⟨[(["tx.json"], .file (.text memoText)), (["format.json"], .file (.text schema))]⟩

def coveringText : String :=
  "\x7b\"type\":\"object\",\"data\":[\x7b\"type\":\"u8\"\x7d,\x7b\"type\":\"u16\"\x7d]\x7d"

theorem load_memoDirectory (schema : String) :
    TransactionTemplate.load (memoDirectory schema) "tx.json" =
      .ok (memoTemplate (.str "0x01f402")) := by
  have means : Json.read memoText = .ok (.obj [("instructions", .arr [.obj
      [("program_id", .str memoProgram), ("data", .str "0x01f402"), ("accounts", .arr [])]]),
      ("signers", .arr [])]) := by cbv
  rw [TransactionTemplate.load, Directory.readDocument_of_text rfl rfl (by decide +kernel) means]
  rfl

theorem change_memoTemplate {program : String} {schema held data : Json}
    {changed : TransactionTemplate} {target : InstructionTemplate} {old : Bytes}
    (change : Change program schema (memoTemplate held) changed target old data) :
    held = target.data ∧ changed = memoTemplate data := by
  obtain ⟨before, after, listed, -, rfl⟩ := change.listed
  obtain ⟨rfl, rest⟩ | ⟨before, -, listed⟩ := List.cons_eq_append_iff.mp listed
  · obtain ⟨rfl, rfl⟩ := List.cons.inj rest
    exact ⟨rfl, rfl⟩
  · exact absurd listed.symm (by simp)

theorem pack_memoData : (pack [] (.str "0x01f402")).outcome = .ok [1, 0xF4, 2] := rfl

/-- Reformatting succeeds on the stored instruction and gives it that data. -/
def Rewrites (text : String) (data : Json) : Prop :=
  ∃ after, (run whole "tx.json" (some "format.json") (some memoProgram)).on
      (.start (memoDirectory text) [] Node.silent) = (.ok (), after) ∧
    (memoTemplate data).save (memoDirectory text) "tx.json" = .ok after.directory

theorem templateWhere_memoTemplate {schema data : Json}
    (read : unpack [1, 0xF4, 2] schema 0 = .ok data) :
    (templateWhere (names memoProgram) memoProgram schema
      (memoTemplate (.str "0x01f402"))).outcome =
      .ok (memoTemplate data) := by
  have named : names memoProgram ⟨.str memoProgram, .str "0x01f402", [], []⟩ = true := by decide
  simp only [templateWhere, memoTemplate, List.takeWhile_cons, List.dropWhile_cons, named,
    Bool.not_true, Bool.false_eq_true, if_false, Traced.outcome_bind, reread, pack_memoData,
    Traced.outcome_liftM, Outcome.ok_bind, read]
  rfl

theorem schemaIn_memoDirectory {text : String} {schema : Json}
    (plain : Directory.plainLines text.toList = text.toList) (means : Json.read text = .ok schema) :
    schemaIn (memoDirectory text) "format.json" = .ok schema := by
  rw [schemaIn, Directory.readDocument_of_text rfl rfl plain means]
  rfl

theorem prepared_memoDirectory {text : String} {schema data : Json}
    (given : schemaIn (memoDirectory text) "format.json" = .ok schema)
    (read : unpack [1, 0xF4, 2] schema 0 = .ok data) :
    (prepared (memoDirectory text) "tx.json" (some "format.json") (some memoProgram)).outcome =
      .ok (memoTemplate data) :=
  prepared_eq_ok.mpr
    ⟨_, _, _, rfl, load_memoDirectory text, given, templateWhere_memoTemplate read⟩

theorem rewrites_of_unpack {text : String} {schema data : Json}
    (given : schemaIn (memoDirectory text) "format.json" = .ok schema)
    (read : unpack [1, 0xF4, 2] schema 0 = .ok data) : Rewrites text data := by
  have unlogged : (Session.start (memoDirectory text) [] Node.silent).logPlace = none := rfl
  have saved : ∃ written,
      (memoTemplate data).save (memoDirectory text) "tx.json" = .ok written := ⟨_, rfl⟩
  obtain ⟨written, saved⟩ := saved
  have stays : (noted "tx.json" (some "format.json") (some memoProgram)
      (.start (memoDirectory text) [] Node.silent)).directory = memoDirectory text :=
    Session.directory_foldl_record unlogged _
  refine ⟨_, run_eq_ok.mpr ⟨_, written, prepared_memoDirectory given read, rfl, ?_, rfl⟩, ?_⟩
  · rw [stays]
    exact saved
  · rw [Session.record_withFiles ((noted_noted _ _ _ _).logPlace.trans unlogged)]
    exact saved

/-- Through a schema of one byte and a word of two the stored instruction keeps its bytes. -/
theorem reformatted_coveringText :
    ∃ data, Rewrites coveringText data ∧ (pack [] data).outcome = .ok [1, 0xF4, 2] := by
  have means : Json.read coveringText = .ok (.obj [("type", .str "object"),
      ("data", .arr [.obj [("type", .str "u8")], .obj [("type", .str "u16")]])]) := by cbv
  have given := schemaIn_memoDirectory (by decide +kernel) means
  obtain ⟨after, done, saves⟩ := rewrites_of_unpack given rfl
  obtain ⟨stored, schema, changed, target, old, data, loads, gives, change, saved, kept⟩ :=
    reformatted_keeps_bytes_iff done
  obtain rfl := Except.ok.inj ((load_memoDirectory _).symm.trans loads)
  obtain rfl := Except.ok.inj (given.symm.trans gives)
  obtain ⟨held, rfl⟩ := change_memoTemplate change
  obtain rfl : [1, 0xF4, 2] = old := Except.ok.inj (pack_memoData.symm.trans (held ▸ change.packed))
  refine ⟨data, ⟨after, done, saved rfl⟩, ?_⟩
  obtain ⟨fields, -, exactly⟩ | ⟨entries, list, -⟩ := kept
  · refine (exactly (by decide) (by decide)).mpr ⟨by decide, ?_⟩
    have words : ∀ slice ∈ slices [1, 0xF4, 2] 0 [⟨.word .u8, 1⟩, ⟨.word .u16, 2⟩],
        slice.1.kind ≠ .boolean ∧ slice.1.kind ≠ .string := by decide
    intro slice member
    exact ⟨fun truth => absurd truth (words slice member).1,
      fun text => absurd text (words slice member).2⟩
  · cases list

/-- A schema loses bytes when it reads them and what it reads packs to others, or to none. -/
def losesBytes (old : Bytes) (schema : Json) : Bool :=
  match unpack old schema 0 with
  | .ok data => (pack [] data).outcome.toOption != some old
  | .error _ => false

theorem exists_of_losesBytes {old : Bytes} {schema : Json} (loses : losesBytes old schema = true) :
    ∃ data, unpack old schema 0 = .ok data ∧ (pack [] data).outcome ≠ .ok old := by
  unfold losesBytes at loses
  cases read : unpack old schema 0 with
  | error _ => simp [read] at loses
  | ok data =>
      refine ⟨data, rfl, fun packs => ?_⟩
      simp [read, packs, Except.toOption] at loses

/-- Schemas that lose bytes of the stored instruction: one covers only the first byte, one reads a
truth value, one reads a text, one is a list. -/
def lossySchemas : List (String × Json) :=
  [("\x7b\"type\":\"u8\"\x7d", .obj [("type", .str "u8")]),
    ("\x7b\"type\":\"object\",\"data\":[\x7b\"type\":\"u16\"\x7d,\x7b\"type\":\"boolean\"\x7d]\x7d",
      .obj [("type", .str "object"),
        ("data", .arr [.obj [("type", .str "u16")], .obj [("type", .str "boolean")]])]),
    ("\x7b\"type\":\"string\",\"length\":3\x7d",
      .obj [("type", .str "string"), ("length", .int 3)]),
    ("[\x7b\"type\":\"u8\"\x7d,\x7b\"type\":\"u16\"\x7d]",
      .arr [.obj [("type", .str "u8")], .obj [("type", .str "u16")]])]

def negativeSchema : Json :=
  .obj [("type", .str "object"),
    ("data", .arr [.obj [("type", .str "u8")], .obj [("type", .str "u16")],
    .obj [("type", .str "bytes"), ("size", .int (-2))], .obj [("type", .str "u16")]])]

/-- Reformatting changes the bytes of an instruction through every one of these schemas, and a size
below nought makes bytes be read twice. -/
theorem reformatted_lossySchemas :
    (pack [] (.str "0x01f402")).outcome = .ok [1, 0xF4, 2] ∧
      (∀ entry ∈ lossySchemas,
        ∃ data, Rewrites entry.1 data ∧ (pack [] data).outcome ≠ .ok [1, 0xF4, 2]) ∧
      ∃ data, unpack [1, 0xF4, 2] negativeSchema 0 = .ok data ∧
        (pack [] data).outcome ≠ .ok [1, 0xF4, 2] := by
  have means : ∀ entry ∈ lossySchemas, Json.read entry.1 = .ok entry.2 := by
    simp only [lossySchemas, List.forall_mem_cons, List.not_mem_nil, false_implies, implies_true,
      and_true]
    refine ⟨?_, ?_, ?_, ?_⟩
    all_goals cbv
  have plain : ∀ entry ∈ lossySchemas, Directory.plainLines entry.1.toList = entry.1.toList := by
    decide +kernel
  have loses : ∀ entry ∈ lossySchemas, losesBytes [1, 0xF4, 2] entry.2 = true := by decide +kernel
  refine ⟨rfl, fun entry member => ?_, exists_of_losesBytes (by decide +kernel)⟩
  obtain ⟨data, read, changes⟩ := exists_of_losesBytes (loses entry member)
  have given := schemaIn_memoDirectory (plain entry member) (means entry member)
  exact ⟨data, rewrites_of_unpack given read, changes⟩

end TxTemplate.Reformat
