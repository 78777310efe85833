import TxTemplate.Proofs.Fault.Foreign

set_option autoImplicit false

/-! What leaks through packing. A value leaks by one of its parts, the first that cannot be packed,
and every way in which a part can do so is listed. -/

namespace TxTemplate

open Outcome

variable {fault : Fault}

namespace TypedData

/-! ### Parts -/

/-- A size to which bytes are not brought: they would have to be filled up beyond all strings of
bytes, or cut by more than any count. -/
def Unfit (size : Int) (bytes : Bytes) : Prop :=
  (bytes.length : Int) < size ∧ (bufferLimit : Int) ≤ size ∨ size < -(countLimit : Int)

theorem fit_of_unfit {size : Int} {bytes : Bytes} (unfit : Unfit size bytes) :
    fit size bytes = .error .countTooLarge := by
  have positive : 0 < (bufferLimit : Int) ∧ 0 < (countLimit : Int) := by decide
  unfold fit
  rcases unfit with ⟨short, large⟩ | low
  · rw [if_pos (by omega), if_neg (by omega), if_pos large]
  · rw [if_neg (by omega), if_pos low]

theorem exists_fit {size : Int} {bytes : Bytes} (fits : ¬ Unfit size bytes) :
    ∃ filled, fit size bytes = .ok filled := by
  unfold Unfit at fits
  unfold fit
  split
  · split
    · exact ⟨_, rfl⟩
    · rw [if_neg (by omega)]
      exact ⟨_, rfl⟩
  · rw [if_neg (by omega)]
    exact ⟨_, rfl⟩

theorem leaks_fit {size : Int} {bytes : Bytes} :
    Leaks (fit size bytes) fault ↔ Unfit size bytes ∧ fault = .countTooLarge := by
  by_cases unfit : Unfit size bytes
  · simp [fit_of_unfit unfit, unfit]
  · obtain ⟨filled, done⟩ := exists_fit unfit
    simp [done, unfit]

theorem leaks_fitTo {size : Option Int} {bytes : Bytes} :
    Leaks (fitTo size bytes) fault ↔ ∃ n, size = some n ∧ Unfit n bytes ∧
      fault = .countTooLarge := by
  cases size with
  | none => simp [fitTo]
  | some n => simp [fitTo, leaks_fit]

theorem leaks_reserve {value : Json} :
    Leaks (reserve value) fault ↔ Leaks (Scalar.natural value) fault ∨
      ∃ count, Scalar.natural value = .ok count ∧ bufferLimit ≤ count ∧ fault = .countTooLarge := by
  unfold reserve
  cases Scalar.natural value with
  | error other => simp [leaks_error]
  | ok count =>
      by_cases large : bufferLimit ≤ count
      · simp [large]
      · simp [large]

theorem leaks_noteCut {value : Int} :
    Leaks (noteCut value).outcome fault ↔
      Decimal.isWritable value = false ∧ fault = .unwritable := by
  unfold noteCut
  cases Decimal.isWritable value with
  | true => simp
  | false => simp [Traced.fail, Fault.unwritable]

theorem outside_of_not_isWritable {value : Int} (long : Decimal.isWritable value = false) :
    value < -128 ∨ 255 < value := by
  have wide := Decimal.lt_of_not_isWritable 8 (by decide) long
  omega

theorem isWritable_of_entryValue {item : Json} {value : Int} (known : entryValue item = .ok value)
    (other : ∀ n : Int, item ≠ .int n) : Decimal.isWritable value = true := by
  unfold entryValue at known
  split at known
  · rename_i flag
    obtain rfl := Except.ok.inj known
    exact Decimal.isWritable_of_lt 1 (by decide) (by cases flag <;> decide)
  · exact absurd rfl (other _)
  · split at known
    · rename_i read
      obtain rfl := Except.ok.inj known
      exact Decimal.isWritable_of_read read
    · cases known
  · cases known

theorem leaks_entryValue {item : Json} (other : ∀ n : Int, item ≠ .int n) :
    Leaks (entryValue item) fault ↔ item.isWritable = false ∧ fault = .unwritable := by
  cases item with
  | int n => exact absurd rfl (other n)
  | null | bool _ | float _ => simp [entryValue, Json.isWritable]
  | str text =>
      simp only [entryValue]
      cases Scalar.readTrimmed text <;> simp [Json.isWritable]
  | arr _ | obj _ => simp [entryValue]

def cutEntry (item : Json) : Except Fault UInt8 := do
  let value ← entryValue item
  if value < -128 ∨ 255 < value then (noteCut value).outcome
  pure (UInt8.ofNat (value.emod 256).toNat)

theorem outcome_packEntry (params : Params) (item : Json) :
    (packEntry params item).outcome = Placeholder.resolve params item >>= cutEntry := by
  rw [packEntry, Traced.outcome_bind, Traced.outcome_liftM]
  congr 1
  funext resolved
  rw [Traced.outcome_bind, Traced.outcome_liftM, cutEntry]
  congr 1
  funext value
  split
  · simp only [Traced.outcome_bind, Traced.outcome_pure, pure_eq_ok]
  · rfl

/-- Numbers leak from the note that they were cut, all else from the refusal. -/
theorem leaks_cutEntry {item : Json} :
    Leaks (cutEntry item) fault ↔ item.isWritable = false ∧ fault = .unwritable := by
  have noted : ∀ value : Int, Leaks (do
      if value < -128 ∨ 255 < value then (noteCut value).outcome
      pure (UInt8.ofNat (value.emod 256).toNat)) fault ↔
        Decimal.isWritable value = false ∧ fault = .unwritable := by
    intro value
    split
    · simp only [leaks_bind, leaks_noteCut, pure_eq_ok, not_leaks_ok, and_false, exists_false,
        or_false]
    · rename_i inside
      exact iff_of_false (not_leaks_ok _) fun leaks => inside (outside_of_not_isWritable leaks.1)
  rw [cutEntry, leaks_bind]
  simp only [noted]
  by_cases whole : ∃ n : Int, item = .int n
  · obtain ⟨n, rfl⟩ := whole
    simp [entryValue, Json.isWritable]
  · have other : ∀ n : Int, item ≠ .int n := fun n same => whole ⟨n, same⟩
    rw [leaks_entryValue other]
    refine or_iff_left ?_
    rintro ⟨value, known, long, -⟩
    rw [isWritable_of_entryValue known other] at long
    cases long

theorem leaks_packEntry {params : Params} {item : Json} :
    Leaks (packEntry params item).outcome fault ↔ Scalar.IsLeaky item fault := by
  rw [outcome_packEntry, leaks_bind, Placeholder.leaks_resolve, Scalar.IsLeaky]
  refine or_congr Iff.rfl ?_
  simp only [leaks_cutEntry]
  exact Placeholder.exists_resolved_isWritable

theorem outcome_packArray (params : Params) (items : List Json) :
    (packArray params items).outcome = items.mapM fun item => (packEntry params item).outcome := by
  induction items with
  | nil => rfl
  | cons item rest ih =>
      rw [packArray, List.mapM_cons, Traced.outcome_bind]
      congr 1
      funext byte
      rw [Traced.outcome_bind, ih]
      rfl

theorem outcome_packEach (packOne : Json → Traced Bytes) (entries : List Json) :
    (packEach packOne entries).outcome =
      (entries.mapM fun entry => (packOne entry).outcome).map List.flatten := by
  induction entries with
  | nil => rfl
  | cons entry rest ih =>
      rw [packEach, List.mapM_cons, Traced.outcome_bind]
      cases (packOne entry).outcome with
      | error other => rfl
      | ok bytes =>
          rw [ok_bind, ok_bind, Traced.outcome_bind, ih]
          cases rest.mapM fun entry => (packOne entry).outcome <;> rfl

theorem leaks_packEach {packOne : Json → Traced Bytes} {entries : List Json} :
    Leaks (packEach packOne entries).outcome fault ↔
      FirstLeaks (fun entry => ∃ bytes, (packOne entry).outcome = .ok bytes)
        (fun entry => Leaks (packOne entry).outcome fault) entries := by
  rw [outcome_packEach, leaks_map, leaks_mapM]

/-- The text of a list that has a numeral of too many digits in it. -/
def OverlongNumeral (text : String) (fault : Fault) : Prop :=
  ∃ first rest digits, text.toList.dropWhile Text.isBlank = first :: rest ∧
    (first = '[' ∨ first = '\x7b') ∧
    Json.read text = .error (.longNumeral digits) ∧ fault = .numeral text (.tooLong digits)

theorem leaks_entriesOfText {text : String} :
    Leaks (entriesOfText text) fault ↔ OverlongNumeral text fault := by
  unfold entriesOfText OverlongNumeral
  cases text.toList.dropWhile Text.isBlank with
  | nil => simp [KindFault.isWritable]
  | cons first rest =>
      by_cases opening : first = '[' ∨ first = '\x7b'
      · simp only [if_pos opening]
        cases read : Json.read text with
        | ok document => cases document <;> simp [KindFault.isWritable]
        | error cause => cases cause <;> simp [KindFault.isWritable, opening]
      · simp [opening, KindFault.isWritable]

theorem leaks_kindOf {fields : Fields} :
    Leaks (kindOf fields) fault ↔
      ∃ member, fields.lookup "type" = some member ∧ member.NamesNothing fault := by
  unfold kindOf
  cases fields.lookup "type" with
  | none => simp [Json.isWritable]
  | some member =>
      have shown : ∀ member, (KindFault.packed member).isWritable = member.isWritable :=
        fun _ => rfl
      simp [Kind.leaks_ofMember shown]

theorem leaks_packArray {params : Params} {items : List Json} :
    Leaks (packArray params items).outcome fault ↔
      FirstLeaks (fun item => ∃ byte, (packEntry params item).outcome = .ok byte)
        (fun item => Scalar.IsLeaky item fault) items := by
  simp only [outcome_packArray, leaks_mapM, leaks_packEntry]

/-! ### Typed values -/

/-- The entries that a text lists are packed one level of texts further down, where there is one. -/
def packListed : Nat → Params → List Json → Traced Bytes
  | 0, _ => fun _ => Traced.fail .nestedTooDeeply
  | depth + 1, params => packEach (packNested depth params)

theorem packNested_eq (depth : Nat) (params : Params) (value : Json) :
    packNested depth params value = packWith (packListed depth params) params value := by
  cases depth <;> rfl

/-- The values that leak where texts may still list entries on so many levels, and what they
leak. -/
inductive IsLeaky (params : Params) : Nat → Json → Fault → Prop where
  | placeholder {depth : Nat} {text : String} {fault : Fault}
      (overlong : Placeholder.Overlong text fault) :
      IsLeaky params depth (.str text) fault
  | letters {depth : Nat} {text : String} {value : Json}
      (resolved : Placeholder.resolve params (.str text) = .ok value)
        (other : Scalar.IsNonAscii value.display) :
      IsLeaky params depth (.str text) .nonAscii
  | count {depth : Nat} {value : Json} {count : Nat} (number : (∃ n, value = .int n) ∨
      ∃ x, value = .float x)
      (counted : Scalar.natural value = .ok count) (large : bufferLimit ≤ count) :
      IsLeaky params depth value .countTooLarge
  | negative {depth : Nat} {n : Int} (low : n < 0) (long : Decimal.isWritable n = false) :
      IsLeaky params depth (.int n) .unwritable
  | item {depth : Nat} {before after : List Json} {item : Json} {fault : Fault}
      (earlier : ∀ other ∈ before, ∃ byte, (packEntry params other).outcome = .ok byte)
      (leaky : Scalar.IsLeaky item fault) :
        IsLeaky params depth (.arr (before ++ item :: after)) fault
  | kind {depth : Nat} {fields : Fields} {member : Json} {fault : Fault}
      (given : fields.lookup "type" = some member) (nothing : member.NamesNothing fault) :
      IsLeaky params depth (.obj fields) fault
  | literal {depth : Nat} {fields : Fields} {kind : Kind} {data : Json}
      (named : kind? fields = some kind)
      (scalar : (∃ word, kind = .word word) ∨ kind = .boolean)
        (given : fields.lookup "data" = some data)
      (long : data.isWritable = false) : IsLeaky params depth (.obj fields) .unwritable
  | parameter {depth : Nat} {fields : Fields} {kind : Kind} {text : String} {fault : Fault}
      (named : kind? fields = some kind) (given : fields.lookup "data" = some (.str text))
      (overlong : Placeholder.Overlong text fault) : IsLeaky params depth (.obj fields) fault
  | address {depth : Nat} {fields : Fields} {data : Json} {fault : Fault}
      (named : kind? fields = some .pubkey)
      (given : fields.lookup "data" = some data) (leaky : Descriptor.IsLeaky params data fault) :
      IsLeaky params depth (.obj fields) fault
  | bytes {depth : Nat} {fields : Fields} {data : Json} {fault : Fault}
      (named : kind? fields = some .bytes)
      (given : fields.lookup "data" = some data) (leaky : IsLeaky params depth data fault) :
      IsLeaky params depth (.obj fields) fault
  | size {depth : Nat} {fields : Fields} {data : Json} {packed : Bytes} {size : Int}
      (named : kind? fields = some .bytes) (given : fields.lookup "data" = some data)
      (done : (packNested depth params data).outcome = .ok packed)
        (declared : byteSize? fields = some size)
      (unfit : Unfit size packed) : IsLeaky params depth (.obj fields) .countTooLarge
  | string {depth : Nat} {fields : Fields} {data : Json} {fault : Fault}
      (named : kind? fields = some .string)
      (given : fields.lookup "data" = some data) (other : ∀ text, data ≠ .str text)
      (leaky : IsLeaky params depth data fault) : IsLeaky params depth (.obj fields) fault
  | length {depth : Nat} {fields : Fields} {text : String} {value : Json} {length : Int}
      (named : kind? fields = some .string) (given : fields.lookup "data" = some (.str text))
      (resolved : Placeholder.resolve params (.str text) = .ok value)
        (declared : textLength? fields = some length)
      (unfit : Unfit length (Utf8.bytes value.display)) :
        IsLeaky params depth (.obj fields) .countTooLarge
  | entry {depth : Nat} {fields : Fields} {before after : List Json} {entry : Json} {fault : Fault}
      (named : kind? fields = some .object)
      (given : fields.lookup "data" = some (.arr (before ++ entry :: after)))
      (earlier : ∀ other ∈ before, ∃ bytes, (packNested depth params other).outcome = .ok bytes)
      (leaky : IsLeaky params depth entry fault) : IsLeaky params depth (.obj fields) fault
  | numeral {depth : Nat} {fields : Fields} {text : String} {value : Json} {fault : Fault}
      (named : kind? fields = some .object) (given : fields.lookup "data" = some (.str text))
      (resolved : Placeholder.resolve params (.str text) = .ok value)
      (overlong : OverlongNumeral value.display fault) : IsLeaky params depth (.obj fields) fault
  | depth {fields : Fields} {text : String} {value : Json} {entries : List Json}
      (named : kind? fields = some .object) (given : fields.lookup "data" = some (.str text))
      (resolved : Placeholder.resolve params (.str text) = .ok value)
      (listed : entriesOfText value.display = .ok entries) :
        IsLeaky params 0 (.obj fields) .nestedTooDeeply
  | listed {depth : Nat} {fields : Fields} {text : String} {value : Json} {before after : List Json}
      {entry : Json}
      {fault : Fault} (named : kind? fields = some .object)
        (given : fields.lookup "data" = some (.str text))
      (resolved : Placeholder.resolve params (.str text) = .ok value)
      (listed : entriesOfText value.display = .ok (before ++ entry :: after))
      (earlier : ∀ other ∈ before, ∃ bytes, (packNested depth params other).outcome = .ok bytes)
      (leaky : IsLeaky params depth entry fault) : IsLeaky params (depth + 1) (.obj fields) fault

section Members

variable {onEntries : List Json → Traced Bytes} {params : Params} {whole : Fields} {data : Json}

theorem leaks_text {text : String} :
    Leaks (packWith onEntries params (.str text)).outcome fault ↔
      Placeholder.Overlong text fault ∨
        ∃ value, Placeholder.resolve params (.str text) = .ok value ∧
        Scalar.IsNonAscii value.display ∧ fault = .nonAscii := by
  simp only [packWith, Traced.outcome_bind, Traced.outcome_liftM, Traced.outcome_quiet, leaks_bind,
    Placeholder.leaks_resolve_text, Scalar.leaks_bytesOfText]

theorem leaks_word {word : WordKind} :
    Leaks (packMember onEntries params (.word word) whole [("data", data)]).outcome fault ↔
      Scalar.IsLeaky data fault := by
  rw [packMember_word]
  simp only [Traced.outcome_bind, Traced.outcome_liftM, Traced.outcome_quiet]
  simp only [leaks_bind (x := Placeholder.resolve params data), Placeholder.leaks_resolve,
    Scalar.leaks_word, Scalar.IsLeaky, Placeholder.exists_resolved_isWritable]

theorem leaks_boolean :
    Leaks (packMember onEntries params .boolean whole [("data", data)]).outcome fault ↔
      Scalar.IsLeaky data fault := by
  rw [packMember_boolean]
  simp only [Traced.outcome_bind, Traced.outcome_liftM, Traced.outcome_pure, leaks_bind,
    Placeholder.leaks_resolve, Scalar.leaks_boolean, Scalar.IsLeaky,
    Placeholder.exists_resolved_isWritable, not_leaks_ok, and_false, exists_false, or_false]

theorem leaks_pubkey :
    Leaks (packMember onEntries params .pubkey whole [("data", data)]).outcome fault ↔
      Descriptor.IsLeaky params data fault := by
  rw [packMember_pubkey]
  simp only [Traced.outcome_bind, Traced.outcome_liftM, Traced.outcome_pure, leaks_bind,
    Descriptor.leaks_resolve_iff, not_leaks_ok, and_false, exists_false, or_false]

theorem leaks_bytes :
    Leaks (packMember onEntries params .bytes whole [("data", data)]).outcome fault ↔
      Leaks (packWith onEntries params data).outcome fault ∨ ∃ packed,
        (packWith onEntries params data).outcome = .ok packed ∧
          ∃ size, byteSize? whole = some size ∧
          Unfit size packed ∧ fault = .countTooLarge := by
  rw [packMember_bytes]
  simp only [Traced.outcome_bind, Traced.outcome_quiet, leaks_bind, leaks_fitTo]

theorem leaks_string_text {text : String} :
    Leaks (packMember onEntries params .string whole [("data", .str text)]).outcome fault ↔
      Placeholder.Overlong text fault ∨
        ∃ value, Placeholder.resolve params (.str text) = .ok value ∧
        ∃ length, textLength? whole = some length ∧ Unfit length (Utf8.bytes value.display) ∧
          fault = .countTooLarge := by
  rw [packMember_string_text]
  simp only [Traced.outcome_bind, Traced.outcome_liftM, Traced.outcome_quiet, leaks_bind,
    Placeholder.leaks_resolve_text, packText, leaks_fitTo]

theorem leaks_string_other (other : ∀ text, data ≠ .str text) :
    Leaks (packMember onEntries params .string whole [("data", data)]).outcome fault ↔
      Leaks (packWith onEntries params data).outcome fault := by
  cases data with
  | str text => exact absurd rfl (other text)
  | null | bool _ | int _ | float _ | arr _ | obj _ => rfl

theorem leaks_object_list {entries : List Json} :
    Leaks (packMember onEntries params .object whole [("data", .arr entries)]).outcome fault ↔
      FirstLeaks (fun entry => ∃ bytes, (packWith onEntries params entry).outcome = .ok bytes)
        (fun entry => Leaks (packWith onEntries params entry).outcome fault) entries := by
  rw [packMember_object_list, packEntries_eq_packEach, leaks_packEach]

theorem not_leaks_objectShape {α : Type} :
    ¬ Leaks (.error (.codec (.unsupportedKind .objectShape)) : Except Fault α) fault :=
  fun leaks => nomatch (leaks_codec.mp leaks).1

theorem leaks_object_text {text : String} :
    Leaks (packMember onEntries params .object whole [("data", .str text)]).outcome fault ↔
      Placeholder.Overlong text fault ∨
        ∃ value, Placeholder.resolve params (.str text) = .ok value ∧
        (OverlongNumeral value.display fault ∨
          ∃ entries, entriesOfText value.display = .ok entries ∧
          Leaks (onEntries entries).outcome fault) := by
  rw [packMember_object_text]
  simp only [Traced.outcome_bind, Traced.outcome_liftM, leaks_bind, Placeholder.leaks_resolve_text,
    leaks_entriesOfText]

end Members

section Values

variable {params : Params} {fields : Fields}

theorem not_leaks_dataless {onEntries : List Json → Traced Bytes} {kind : Kind}
    (named : kind? fields = some kind)
    (absent : fields.lookup "data" = none) :
    ¬ Leaks (packWith onEntries params (.obj fields)).outcome fault := by
  rw [packWith, Traced.outcome_bind, Traced.outcome_liftM, kindOf_of_kind? named, ok_bind,
    packMember_of_absent absent]
  exact fun leaks => nomatch (leaks_codec.mp leaks).1

theorem leaks_unnamed {onEntries : List Json → Traced Bytes} (unnamed : kind? fields = none) :
    Leaks (packWith onEntries params (.obj fields)).outcome fault ↔
      ∃ member, fields.lookup "type" = some member ∧ member.NamesNothing fault := by
  rw [packWith, Traced.outcome_bind, Traced.outcome_liftM, leaks_bind, leaks_kindOf]
  refine or_iff_left ?_
  rintro ⟨kind, known, -⟩
  rw [kind?_of_kindOf known] at unnamed
  cases unnamed

theorem leaks_obj {depth : Nat} {kind : Kind} {data : Json} (named : kind? fields = some kind)
    (given : fields.lookup "data" = some data) :
    Leaks (packNested depth params (.obj fields)).outcome fault ↔
      Leaks (packMember (packListed depth params) params kind fields [("data", data)]).outcome
        fault := by
  rw [packNested_eq, outcome_packWith_obj _ params named given]

theorem isLeaky_of_data {depth : Nat} {kind : Kind} {data : Json} (named : kind? fields = some kind)
    (given : fields.lookup "data" = some data)
    (inner : Leaks (packNested depth params data).outcome fault → IsLeaky params depth data fault)
    (entries : ∀ items, data = .arr items → ∀ entry ∈ items,
      Leaks (packNested depth params entry).outcome fault → IsLeaky params depth entry fault)
    (texts : ∀ text value listed, kind = .object → data = .str text →
      Placeholder.resolve params (.str text) = .ok value →
        entriesOfText value.display = .ok listed →
      Leaks (packListed depth params listed).outcome fault →
        IsLeaky params depth (.obj fields) fault)
    (leaks : Leaks (packMember (packListed depth params) params kind fields
      [("data", data)]).outcome fault) :
    IsLeaky params depth (.obj fields) fault := by
  cases kind with
  | word word =>
      obtain ⟨text, rfl, overlong⟩ | ⟨long, rfl⟩ := leaks_word.mp leaks
      · exact .parameter named given overlong
      · exact .literal named (.inl ⟨word, rfl⟩) given long
  | boolean =>
      obtain ⟨text, rfl, overlong⟩ | ⟨long, rfl⟩ := leaks_boolean.mp leaks
      · exact .parameter named given overlong
      · exact .literal named (.inr rfl) given long
  | pubkey => exact .address named given (leaks_pubkey.mp leaks)
  | bytes =>
      rw [leaks_bytes, ← packNested_eq] at leaks
      obtain leaks | ⟨packed, done, size, declared, unfit, rfl⟩ := leaks
      · exact .bytes named given (inner leaks)
      · exact .size named given done declared unfit
  | string =>
      by_cases written : ∃ text, data = .str text
      · obtain ⟨text, rfl⟩ := written
        obtain overlong | ⟨value, resolved, length, declared, unfit, rfl⟩ :=
          leaks_string_text.mp leaks
        · exact .parameter named given overlong
        · exact .length named given resolved declared unfit
      · have other : ∀ text, data ≠ .str text := fun text same => written ⟨text, same⟩
        rw [leaks_string_other other, ← packNested_eq] at leaks
        exact .string named given other (inner leaks)
  | object =>
      cases data with
      | arr items =>
          rw [leaks_object_list] at leaks
          simp only [← packNested_eq] at leaks
          obtain ⟨before, entry, after, rfl, earlier, leaks⟩ := leaks
          exact .entry named given earlier (entries _ rfl entry (by simp) leaks)
      | str text =>
          obtain overlong | ⟨value, resolved, overlong | ⟨listed, read, leaks⟩⟩ :=
            leaks_object_text.mp leaks
          · exact .parameter named given overlong
          · exact .numeral named given resolved overlong
          · exact texts text value listed rfl rfl resolved read leaks
      | null | bool _ | int _ | float _ | obj _ => exact absurd leaks not_leaks_objectShape

-- Entries given as a text are no part of the value, so the induction on it does not reach them.
-- They come one level further down and are taken care of by an induction on the levels.
/-- What leaks on one level of texts, given what their entries leak. -/
theorem isLeaky_of_listed {depth : Nat}
    (nested : ∀ {fields text value listed fault}, kind? fields = some .object →
      fields.lookup "data" = some (.str text) → Placeholder.resolve params (.str text) = .ok value →
      entriesOfText value.display = .ok listed →
        Leaks (packListed depth params listed).outcome fault →
      IsLeaky params depth (.obj fields) fault)
    {value : Json} (leaks : Leaks (packNested depth params value).outcome fault) :
    IsLeaky params depth value fault := by
  induction value using Json.memberInduction with
  | step value each =>
      cases value with
      | null | bool _ =>
          rw [packNested_eq] at leaks
          exact absurd leaks (not_leaks_ok _)
      | int n =>
          rw [packNested_eq] at leaks
          obtain leaks | ⟨count, counted, large, rfl⟩ := leaks_reserve.mp leaks
          · obtain ⟨low, long, rfl⟩ := Scalar.leaks_natural.mp leaks
            exact .negative (low n rfl) long
          · exact .count (.inl ⟨n, rfl⟩) counted large
      | float x =>
          rw [packNested_eq] at leaks
          obtain leaks | ⟨count, counted, large, rfl⟩ := leaks_reserve.mp leaks
          · exact nomatch (Scalar.leaks_natural.mp leaks).2.1
          · exact .count (.inr ⟨x, rfl⟩) counted large
      | str text =>
          rw [packNested_eq, leaks_text] at leaks
          obtain overlong | ⟨value, resolved, other, rfl⟩ := leaks
          · exact .placeholder overlong
          · exact .letters resolved other
      | arr items =>
          rw [packNested_eq] at leaks
          obtain ⟨before, item, after, rfl, earlier, leaky⟩ := leaks_packArray.mp leaks
          exact .item earlier leaky
      | obj fields =>
          cases named : kind? fields with
          | none =>
              rw [packNested_eq, leaks_unnamed named] at leaks
              obtain ⟨member, given, nothing⟩ := leaks
              exact .kind given nothing
          | some kind =>
              cases given : fields.lookup "data" with
              | none =>
                  rw [packNested_eq] at leaks
                  exact absurd leaks (not_leaks_dataless named given)
              | some data =>
                  obtain ⟨inner, entries⟩ := each fields "data" data rfl given
                  refine isLeaky_of_data named given inner entries ?_
                    ((leaks_obj named given).mp leaks)
                  rintro text value listed rfl rfl resolved read later
                  exact nested named given resolved read later

theorem isLeaky_of_leaks {depth : Nat} {value : Json}
    (leaks : Leaks (packNested depth params value).outcome fault) :
    IsLeaky params depth value fault := by
  induction depth generalizing value fault with
  | zero =>
      refine isLeaky_of_listed ?_ leaks
      intro fields text value listed fault named given resolved read later
      obtain rfl := leaks_nestedTooDeeply.mp later
      exact .depth named given resolved read
  | succ depth ih =>
      refine isLeaky_of_listed ?_ leaks
      intro fields text value listed fault named given resolved read later
      obtain ⟨before, entry, after, rfl, earlier, leak⟩ := leaks_packEach.mp later
      exact .listed named given resolved read earlier (ih leak)

theorem kind?_of_namesNothing {member : Json} (given : fields.lookup "type" = some member)
    (nothing : member.NamesNothing fault) : kind? fields = none := by
  rw [kind?, given]
  cases member with
  | str _ => simp [Json.NamesNothing, Json.IsContainer] at nothing
  | null | bool _ | int _ | float _ | arr _ | obj _ => rfl

theorem leaks_of_parameter {depth : Nat} {kind : Kind} {text : String}
    (overlong : Placeholder.Overlong text fault) :
    Leaks (packMember (packListed depth params) params kind fields [("data", .str text)]).outcome
      fault := by
  cases kind with
  | word word => exact leaks_word.mpr (.inl ⟨text, rfl, overlong⟩)
  | boolean => exact leaks_boolean.mpr (.inl ⟨text, rfl, overlong⟩)
  | pubkey => exact leaks_pubkey.mpr (.placeholder overlong)
  | bytes => exact leaks_bytes.mpr (.inl (leaks_text.mpr (.inl overlong)))
  | string => exact leaks_string_text.mpr (.inl overlong)
  | object => exact leaks_object_text.mpr (.inl overlong)

theorem leaks_of_isLeaky {depth : Nat} {value : Json} (leaky : IsLeaky params depth value fault) :
    Leaks (packNested depth params value).outcome fault := by
  -- On the way in which a value leaks: what leaks in a part leaks in the whole, since nothing is
  -- packed before it that fails.
  induction leaky with
  | placeholder overlong =>
      rw [packNested_eq]
      exact leaks_text.mpr (.inl overlong)
  | letters resolved other =>
      rw [packNested_eq]
      exact leaks_text.mpr (.inr ⟨_, resolved, other, rfl⟩)
  | count number counted large =>
      rw [packNested_eq]
      obtain ⟨n, rfl⟩ | ⟨x, rfl⟩ := number
      · exact leaks_reserve.mpr (.inr ⟨_, counted, large, rfl⟩)
      · exact leaks_reserve.mpr (.inr ⟨_, counted, large, rfl⟩)
  | negative low long =>
      rw [packNested_eq]
      refine leaks_reserve.mpr (.inl (Scalar.leaks_natural.mpr ⟨?_, long, rfl⟩))
      rintro m same
      obtain rfl := Json.int.inj same
      exact low
  | item earlier leaky =>
      rw [packNested_eq]
      exact leaks_packArray.mpr ⟨_, _, _, rfl, earlier, leaky⟩
  | kind given nothing =>
      rw [packNested_eq, leaks_unnamed (kind?_of_namesNothing given nothing)]
      exact ⟨_, given, nothing⟩
  | literal named scalar given long =>
      rw [leaks_obj named given]
      obtain ⟨word, rfl⟩ | rfl := scalar
      · exact leaks_word.mpr (.inr ⟨long, rfl⟩)
      · exact leaks_boolean.mpr (.inr ⟨long, rfl⟩)
  | parameter named given overlong =>
      exact (leaks_obj named given).mpr (leaks_of_parameter overlong)
  | address named given leaky => exact (leaks_obj named given).mpr (leaks_pubkey.mpr leaky)
  | bytes named given _ ih =>
      rw [packNested_eq] at ih
      exact (leaks_obj named given).mpr (leaks_bytes.mpr (.inl ih))
  | size named given done declared unfit =>
      rw [packNested_eq] at done
      exact (leaks_obj named given).mpr (leaks_bytes.mpr (.inr ⟨_, done, _, declared, unfit, rfl⟩))
  | string named given other _ ih =>
      rw [packNested_eq] at ih
      exact (leaks_obj named given).mpr ((leaks_string_other other).mpr ih)
  | length named given resolved declared unfit =>
      exact (leaks_obj named given).mpr
        (leaks_string_text.mpr (.inr ⟨_, resolved, _, declared, unfit, rfl⟩))
  | entry named given earlier _ ih =>
      simp only [packNested_eq] at earlier ih
      exact (leaks_obj named given).mpr (leaks_object_list.mpr ⟨_, _, _, rfl, earlier, ih⟩)
  | numeral named given resolved overlong =>
      exact (leaks_obj named given).mpr (leaks_object_text.mpr (.inr ⟨_, resolved, .inl overlong⟩))
  | depth named given resolved listed =>
      exact (leaks_obj named given).mpr
        (leaks_object_text.mpr
          (.inr ⟨_, resolved, .inr ⟨_, listed, leaks_nestedTooDeeply.mpr rfl⟩⟩))
  | listed named given resolved listed earlier _ ih =>
      refine (leaks_obj named given).mpr
        (leaks_object_text.mpr (.inr ⟨_, resolved, .inr ⟨_, listed, ?_⟩⟩))
      exact leaks_packEach.mpr ⟨_, _, _, rfl, earlier, ih⟩

theorem leaks_packNested_iff {depth : Nat} {value : Json} :
    Leaks (packNested depth params value).outcome fault ↔ IsLeaky params depth value fault :=
  ⟨isLeaky_of_leaks, leaks_of_isLeaky⟩

end Values

end TypedData

end TxTemplate
