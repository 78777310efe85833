import TxTemplate.Proofs.Address
import TxTemplate.Proofs.Bytes.Utf8
import TxTemplate.Proofs.TypedData.ByteText
import TxTemplate.Proofs.TypedData.Layout

set_option autoImplicit false

/-! Leaves one by one: what a reader fills in, how wide that is, and what it packs to. -/

namespace TxTemplate.TypedData

/-! ### Filling in -/

/-- The data that a reader gives a leaf. -/
def datum (kind : Kind) (bytes : Bytes) : Json :=
  match kind with
  | .word word => wordData word bytes
  | .boolean => .bool (bytes.any (· != 0))
  | .pubkey => .str (Base58.text bytes)
  | .bytes => .str (Base64.text bytes)
  | .string => .str (Utf8.text bytes)
  | .object => .null

/-- The members of a leaf that was read. -/
def filled (kind : Kind) (fields : Fields) (size : Int) (bytes : Bytes) : Fields :=
  match kind with
  | .bytes => Json.setFields fields [("size", .int size), ("data", datum kind bytes)]
  | .string => Json.setFields fields [("length", .int size), ("data", datum kind bytes)]
  | kind => Json.setField "data" (datum kind bytes) fields

variable {kind : Kind} {fields : Fields} {size : Int} {bytes : Bytes}

theorem unpackLeaf_eq (buffer : Bytes) (leaf : kind ≠ .object) (fields : Fields) (offset : Int) :
    unpackLeaf buffer kind fields offset = (do
      let size ← leafSize kind fields
      let bytes ← readAt buffer offset size
      pure (.obj (filled kind fields size bytes))) := by
  cases kind with
  | object => exact absurd rfl leaf
  | word _ | boolean | pubkey | bytes | string => rfl

@[simp] theorem lookup_data_filled :
    (filled kind fields size bytes).lookup "data" = some (datum kind bytes) := by
  cases kind <;> simp [filled, Json.setFields]

theorem lookup_filled_of_ne {key : String} (notData : key ≠ "data") (notSize : key ≠ "size")
    (notLength : key ≠ "length") :
    (filled kind fields size bytes).lookup key = fields.lookup key := by
  cases kind <;> simp [filled, Json.setFields, Json.lookup_setField_of_ne, notData, notSize,
    notLength]

@[simp] theorem kind?_filled : kind? (filled kind fields size bytes) = kind? fields := by
  rw [kind?, kind?, lookup_filled_of_ne (by decide) (by decide) (by decide)]

theorem lookup_size_filled :
    (filled .bytes fields size bytes).lookup "size" = some (.int size) := by
  simp [filled, Json.setFields, Json.lookup_setField_of_ne]

theorem lookup_length_filled :
    (filled .string fields size bytes).lookup "length" = some (.int size) := by
  simp [filled, Json.setFields, Json.lookup_setField_of_ne]

theorem width_filled (leaf : kind ≠ .object) (named : kind? fields = some kind)
    (known : leafSize kind fields = .ok size) :
    width (.obj (filled kind fields size bytes)) = .ok size := by
  rw [width_obj (kind?_filled.trans named)]
  cases kind with
  | object => exact absurd rfl leaf
  | bytes => simp [declaredSize, lookup_size_filled]
  | string => simp [declaredSize, lookup_length_filled]
  | word _ | boolean | pubkey => exact known

/-! ### Packing -/

section Packing

variable (onEntries : List Json → Traced Bytes) (params : Params)

theorem natural_of_spelled {n : Nat} {value : Json}
    (short : (Decimal.ofNat n).length ≤ Decimal.digitLimit)
    (spelled : value = .int n ∨ value = .str (Decimal.natText n)) :
    Scalar.natural value = .ok n := by
  have whole : Scalar.integer value = .ok (n : Int) := by
    rcases spelled with rfl | rfl
    · rfl
    · have trimmed : Scalar.readTrimmed (Decimal.natText n) = .ok (n : Int) := by
        rw [Scalar.readTrimmed, Decimal.natText, String.toList_ofList,
          Text.strip_of_solid _ (Decimal.isBlank_of_mem_ofNat n), Decimal.read_ofNat n short]
      simp only [Scalar.integer, trimmed]
  simp only [Scalar.natural, whole, Int.toNat_natCast,
    if_neg (Int.not_lt.mpr (Int.natCast_nonneg n))]

theorem digits?_natText (n : Nat) : Placeholder.digits? (Decimal.natText n).toList = none := by
  apply Placeholder.digits?_eq_none_of_head?
  intro dollar
  rw [Decimal.natText, String.toList_ofList] at dollar
  have digits := Decimal.forall_mem_ofNat (p := fun c => c ≠ '$') (by decide) n
  exact digits '$' (List.mem_of_head? dollar) rfl

theorem pack_word {word : WordKind} {n : Nat} {value : Json}
    (named : kind? fields = some (.word word))
    (given : fields.lookup "data" = some value)
    (spelled : value = .int n ∨ value = .str (Decimal.natText n)) (fits : n < 256 ^ word.width) :
    (packWith onEntries params (.obj fields)).outcome = .ok (LittleEndian.encode word.width n) := by
  have resolved : Placeholder.resolve params value = .ok value := by
    rcases spelled with rfl | rfl
    · rfl
    · exact Placeholder.resolve_of_digits?_eq_none params (digits?_natText n)
  have short : (Decimal.ofNat n).length ≤ Decimal.digitLimit := by
    have bound : 256 ^ word.width ≤ 10 ^ 20 := by cases word <;> decide
    have length := Decimal.length_ofNat_le n 20 (by decide) (Nat.lt_of_lt_of_le fits bound)
    exact Nat.le_trans length (by decide)
  rw [outcome_packWith_obj onEntries params named given, packMember_word]
  simp [resolved, natural_of_spelled short spelled, Scalar.packWord, Nat.not_le.mpr fits]

theorem pack_boolean {flag : Bool} (named : kind? fields = some .boolean)
    (given : fields.lookup "data" = some (.bool flag)) :
    (packWith onEntries params (.obj fields)).outcome = .ok [if flag then 1 else 0] := by
  rw [outcome_packWith_obj onEntries params named given, packMember_boolean]
  rfl

theorem pack_pubkey {address : Address} (named : kind? fields = some .pubkey)
    (given : fields.lookup "data" = some (.str address.text)) :
    (packWith onEntries params (.obj fields)).outcome = .ok address.bytes := by
  rw [outcome_packWith_obj onEntries params named given, packMember_pubkey]
  rw [Traced.outcome_bind, Traced.outcome_liftM,
    Address.resolve_of_read params (Address.read_text address), Outcome.ok_bind,
    Traced.outcome_pure]

set_option maxRecDepth 2000 in
theorem digits?_base64 (bytes : Bytes) : Placeholder.digits? (Base64.text bytes).toList = none := by
  apply Placeholder.digits?_eq_none_of_head?
  intro dollar
  rw [Base64.text, String.toList_ofList] at dollar
  have digits := Base64.forall_mem_encode (p := fun c => c ≠ '$') (by decide) (by decide) bytes
  exact digits '$' (List.mem_of_head? dollar) rfl

/-- A byte string in base 64 packs to what its text is read as, cut or filled up to its size. -/
theorem pack_bytes {size : Int} (named : kind? fields = some .bytes)
    (sized : fields.lookup "size" = some (.int size))
    (given : fields.lookup "data" = some (.str (Base64.text bytes))) :
    (packWith onEntries params (.obj fields)).outcome =
      Scalar.bytesOfText (Base64.text bytes) >>= fit size := by
  have declared : byteSize? fields = some size := by rw [byteSize?, sized]
  rw [outcome_packWith_obj onEntries params named given, packMember_bytes]
  simp [packWith, Placeholder.resolve_of_digits?_eq_none params (digits?_base64 bytes),
    Json.display, declared, fitTo]

/-- A text packs to the bytes of what it stands for, cut or filled up to its length. -/
theorem pack_resolved {text : String} {length : Int} (named : kind? fields = some .string)
    (sized : fields.lookup "length" = some (.int length))
    (given : fields.lookup "data" = some (.str text)) :
    (packWith onEntries params (.obj fields)).outcome = (do
      let resolved ← Placeholder.resolve params (.str text)
      fit length (Utf8.bytes resolved.display)) := by
  have declared : textLength? fields = some length := by rw [textLength?, sized]
  rw [outcome_packWith_obj onEntries params named given, packMember_string_text]
  simp [packText, declared, fitTo]

/-- Without parameters a placeholder is a text like any other. -/
theorem pack_string {text : String} {length : Int} (named : kind? fields = some .string)
    (sized : fields.lookup "length" = some (.int length))
    (given : fields.lookup "data" = some (.str text)) (readable : ¬ Placeholder.IsOversized text) :
    (packWith onEntries [] (.obj fields)).outcome = fit length (Utf8.bytes text) := by
  rw [pack_resolved onEntries [] named sized given, Placeholder.resolve_nil readable]
  rfl

theorem pack_object {items : List Json} (named : kind? fields = some .object)
    (given : fields.lookup "data" = some (.arr items)) :
    (packWith onEntries params (.obj fields)).outcome =
        (packEntries onEntries params items).outcome := by
  rw [outcome_packWith_obj onEntries params named given, packMember_object_list]

end Packing

end TxTemplate.TypedData
