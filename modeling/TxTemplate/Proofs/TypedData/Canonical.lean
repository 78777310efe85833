import TxTemplate.Proofs.TypedData.Leaf
import TxTemplate.Proofs.TypedData.Window

set_option autoImplicit false

/-! Unpacking what was packed. A canonical value is written the way a reader fills it in: it packs
to bytes that read back as the same value wherever they stand, and it is measured as long as they
are. -/

namespace TxTemplate.TypedData

/-- Typed values in the form in which they are read. A text that is no placeholder is not
oversized. -/
inductive Canonical : Json → Prop where
  | number {fields : Fields} {word : WordKind} {n : Nat}
      (named : fields.lookup "type" = some (.str word.name))
      (given : fields.lookup "data" = some (.int n))
      (fits : n < 256 ^ word.width) (safe : word = .u64 → n ≤ Scalar.maxSafe) :
        Canonical (.obj fields)
  | numeral {fields : Fields} {n : Nat} (named : fields.lookup "type" = some (.str "u64"))
      (given : fields.lookup "data" = some (.str (Decimal.natText n)))
      (wide : Scalar.maxSafe < n) (fits : n < 2 ^ 64) : Canonical (.obj fields)
  | boolean {fields : Fields} {flag : Bool} (named : fields.lookup "type" = some (.str "boolean"))
      (given : fields.lookup "data" = some (.bool flag)) : Canonical (.obj fields)
  | pubkey {fields : Fields} {address : Address}
      (named : fields.lookup "type" = some (.str "pubkey"))
      (given : fields.lookup "data" = some (.str address.text)) : Canonical (.obj fields)
  | bytes {fields : Fields} {content : Bytes} (named : fields.lookup "type" = some (.str "bytes"))
      (sized : fields.lookup "size" = some (.int content.length))
      (given : fields.lookup "data" = some (.str (Base64.text content)))
      (plain : ¬ Base64.LooksHex content) : Canonical (.obj fields)
  | string {fields : Fields} {text : String} (named : fields.lookup "type" = some (.str "string"))
      (sized : fields.lookup "length" = some (.int (Utf8.bytes text).length))
      (given : fields.lookup "data" = some (.str text))
      (readable : ¬ Placeholder.IsOversized text) : Canonical (.obj fields)
  | object {fields : Fields} {name : Option Json} {items : List Json}
      (order : fields.Perm
        (("type", .str "object") :: (name.toList.map fun name => ("name", name)) ++
          [("data", .arr items)]))
      (each : ∀ item ∈ items, Canonical item) : Canonical (.obj fields)

/-- What a value packs to reads back as the value, up to the order of members, wherever it
stands. -/
def Restores (onEntries : List Json → Traced Bytes) (value : Json) : Prop :=
  ∃ bytes, (packWith onEntries [] value).outcome = .ok bytes ∧ width value = .ok bytes.length ∧
    ∀ before after : Bytes,
      ∃ read, unpack (before ++ bytes ++ after) value before.length = .ok read ∧
      width read = .ok bytes.length ∧ Json.Same value read

/-! ### Leaves -/

section Leaves

variable {onEntries : List Json → Traced Bytes} {fields : Fields} {kind : Kind} {bytes : Bytes}

theorem restores_leaf (leaf : kind ≠ .object) (named : kind? fields = some kind)
    (known : leafSize kind fields = .ok bytes.length)
    (full : filled kind fields bytes.length bytes = fields)
    (packed : (packWith onEntries [] (.obj fields)).outcome = .ok bytes) :
    Restores onEntries (.obj fields) := by
  have measured : width (.obj fields) = .ok bytes.length := by
    have wide : width (.obj (filled kind fields bytes.length bytes)) = .ok bytes.length :=
      width_filled leaf named known
    rwa [full] at wide
  refine ⟨bytes, packed, measured, fun before after => ⟨.obj fields, ?_, measured, .refl _⟩⟩
  have inside : readAt (before ++ bytes ++ after) before.length bytes.length = .ok bytes := by
    rw [readAt_eq_ok (Int.natCast_nonneg _), window_middle]
    refine ⟨Int.natCast_nonneg _, ?_, rfl⟩
    rw [List.length_append, List.length_append]
    omega
  rw [unpack_leaf _ leaf named, unpackLeaf_eq _ leaf, known, Outcome.ok_bind, inside,
    Outcome.ok_bind, full]
  rfl

theorem wordData_encode {word : WordKind} {n : Nat} (fits : n < 256 ^ word.width) :
    wordData word (LittleEndian.encode word.width n) =
      if word = .u64 ∧ Scalar.maxSafe < n then .str (Decimal.natText n) else .int n := by
  cases word with
  | u8 | u16 | u32 => simp [wordData, LittleEndian.decode_encode _ n fits]
  | u64 =>
      rw [wordData, LittleEndian.decode_encode _ n fits, Scalar.safeInteger]
      by_cases wide : Scalar.maxSafe < n
      · rw [if_pos (Int.ofNat_lt.mpr wide), if_pos ⟨rfl, wide⟩]
        rfl
      · rw [if_neg (fun less => wide (Int.ofNat_lt.mp less)), if_neg (fun both => wide both.2)]

theorem restores_word {word : WordKind} {n : Nat} {value : Json}
    (named : fields.lookup "type" = some (.str word.name))
    (given : fields.lookup "data" = some value) (fits : n < 256 ^ word.width)
    (written : value = if word = .u64 ∧ Scalar.maxSafe < n then .str (Decimal.natText n)
      else .int n) :
    Restores onEntries (.obj fields) := by
  have kind : kind? fields = some (.word word) := kind?_of_name named
  have spelled : value = .int n ∨ value = .str (Decimal.natText n) := by
    rw [written]
    split
    · exact .inr rfl
    · exact .inl rfl
  have length := LittleEndian.length_encode word.width n
  refine restores_leaf (by simp) kind ?_ ?_ (pack_word onEntries [] kind given spelled fits)
  · rw [length]
    rfl
  · rw [filled, datum, wordData_encode fits, ← written]
    · exact Json.setField_of_lookup given
    all_goals
      intro other
      cases other

theorem restores_boolean {flag : Bool} (named : fields.lookup "type" = some (.str "boolean"))
    (given : fields.lookup "data" = some (.bool flag)) : Restores onEntries (.obj fields) := by
  have kind : kind? fields = some .boolean := kind?_of_name named
  refine restores_leaf (by simp) kind rfl ?_ (pack_boolean onEntries [] kind given)
  have read : datum .boolean [if flag then 1 else 0] = .bool flag := by cases flag <;> rfl
  rw [filled, read]
  · exact Json.setField_of_lookup given
  all_goals
    intro other
    cases other

theorem restores_pubkey {address : Address} (named : fields.lookup "type" = some (.str "pubkey"))
    (given : fields.lookup "data" = some (.str address.text)) :
    Restores onEntries (.obj fields) := by
  have kind : kind? fields = some .pubkey := kind?_of_name named
  refine restores_leaf (by simp) kind ?_ ?_ (pack_pubkey onEntries [] kind given)
  · rw [address.length_bytes]
    rfl
  · exact Json.setField_of_lookup given

theorem restores_bytes {content : Bytes} (named : fields.lookup "type" = some (.str "bytes"))
    (sized : fields.lookup "size" = some (.int content.length))
    (given : fields.lookup "data" = some (.str (Base64.text content)))
    (plain : ¬ Base64.LooksHex content) : Restores onEntries (.obj fields) := by
  have kind : kind? fields = some .bytes := kind?_of_name named
  have packed : (packWith onEntries [] (.obj fields)).outcome = .ok content := by
    rw [pack_bytes onEntries [] kind sized given, Scalar.bytesOfText_base64 plain, Outcome.ok_bind]
    exact fit_length content
  refine restores_leaf (by simp) kind ?_ ?_ packed
  · simp [leafSize, declaredSize, sized]
  · show Json.setField "data" _ (Json.setField "size" _ fields) = fields
    rw [Json.setField_of_lookup sized]
    exact Json.setField_of_lookup given

theorem restores_string {text : String} (named : fields.lookup "type" = some (.str "string"))
    (sized : fields.lookup "length" = some (.int (Utf8.bytes text).length))
    (given : fields.lookup "data" = some (.str text)) (readable : ¬ Placeholder.IsOversized text) :
    Restores onEntries (.obj fields) := by
  have kind : kind? fields = some .string := kind?_of_name named
  have packed : (packWith onEntries [] (.obj fields)).outcome = .ok (Utf8.bytes text) := by
    rw [pack_string onEntries kind sized given readable]
    exact fit_length _
  refine restores_leaf (by simp) kind ?_ ?_ packed
  · simp [leafSize, declaredSize, sized]
  · show Json.setField "data" _ (Json.setField "length" _ fields) = fields
    rw [Json.setField_of_lookup sized, datum, Utf8.text_bytes]
    exact Json.setField_of_lookup given

end Leaves

/-! ### Objects -/

section Objects

variable {onEntries : List Json → Traced Bytes}

theorem restores_entries {items : List Json} (each : ∀ item ∈ items, Restores onEntries item) :
    ∃ bytes, (packEntries onEntries [] items).outcome = .ok bytes ∧
      entriesWidth items = .ok bytes.length ∧
      ∀ before after : Bytes, ∃ reads,
        unpackEntries (before ++ bytes ++ after) items before.length = .ok reads ∧
          entriesWidth reads = .ok bytes.length ∧ List.Forall₂ Json.Same items reads := by
  induction items with
  | nil => exact ⟨[], rfl, rfl, fun before after => ⟨[], rfl, rfl, .nil⟩⟩
  | cons item rest ih =>
      obtain ⟨bytes, packed, measured, restored⟩ := each item List.mem_cons_self
      obtain ⟨more, morePacked, moreMeasured, moreRestored⟩ :=
        ih fun other member => each other (List.mem_cons_of_mem _ member)
      have total : ((bytes ++ more).length : Int) = bytes.length + more.length := by
        rw [List.length_append]
        rfl
      refine ⟨bytes ++ more, ?_, ?_, ?_⟩
      · rw [packEntries, Traced.outcome_bind, packed, Outcome.ok_bind, Traced.outcome_bind,
          morePacked]
        rfl
      · rw [entriesWidth, measured, moreMeasured, total]
        rfl
      · intro before after
        obtain ⟨read, unpacked, covered, same⟩ := restored before (more ++ after)
        obtain ⟨others, othersUnpacked, othersCovered, othersSame⟩ :=
          moreRestored (before ++ bytes) after
        have buffer : before ++ bytes ++ (more ++ after) = before ++ (bytes ++ more) ++ after := by
          simp only [List.append_assoc]
        have further : before ++ bytes ++ more ++ after = before ++ (bytes ++ more) ++ after := by
          simp only [List.append_assoc]
        have position : ((before ++ bytes).length : Int) = before.length + bytes.length := by
          rw [List.length_append]
          rfl
        rw [buffer] at unpacked
        rw [further, position] at othersUnpacked
        refine ⟨read :: others, ?_, ?_, .cons same othersSame⟩
        · rw [unpackEntries, unpacked, Outcome.ok_bind, covered, Outcome.ok_bind, othersUnpacked]
          rfl
        · rw [entriesWidth, covered, othersCovered, total]
          rfl

theorem restores_object {fields : Fields} {name : Option Json} {items : List Json}
    (order : fields.Perm
      (("type", .str "object") :: (name.toList.map fun name => ("name", name)) ++
      [("data", .arr items)]))
    (each : ∀ item ∈ items, Restores onEntries item) : Restores onEntries (.obj fields) := by
  have distinct : ((("type", Json.str "object") :: (name.toList.map fun name => ("name", name)) ++
      [("data", Json.arr items)]).map Prod.fst).Nodup := by
    cases name <;> simp
  have found := Json.lookup_of_perm order ((order.map Prod.fst).nodup_iff.mpr distinct)
  have kind : kind? fields = some .object := kind?_of_name (by rw [found]; rfl)
  have listed : fields.lookup "data" = some (.arr items) := by
    rw [found]
    cases name <;> rfl
  have head : objectHead fields =
      ("type", Json.str "object") :: name.toList.map fun name => ("name", name) := by
    have named : fields.lookup "name" = name := by
      rw [found]
      cases name <;> rfl
    rw [objectHead, named]
    cases name <;> rfl
  obtain ⟨bytes, packed, measured, restored⟩ := restores_entries each
  refine ⟨bytes, ?_, ?_, ?_⟩
  · rw [pack_object onEntries [] kind listed, packed]
  · rw [width_obj kind]
    exact (membersWidth_of_lookup listed).trans measured
  · intro before after
    obtain ⟨reads, unpacked, covered, same⟩ := restored before after
    refine ⟨.obj (objectHead fields ++ [("data", .arr reads)]), ?_, ?_, ?_⟩
    · rw [unpack_object _ kind, unpackMembers_of_lookup _ listed, unpacked]
      rfl
    · rw [width_objectHead, covered]
    · rw [head]
      refine .obj order ?_ ?_
      · simp
      · simp only [List.map_append, List.map_cons, List.map_nil]
        exact List.rel_append (List.forall₂_same.mpr fun value _ => .refl value)
          (.cons (.arr same) .nil)

end Objects

theorem restores_of_canonical (onEntries : List Json → Traced Bytes) {value : Json}
    (canonical : Canonical value) : Restores onEntries value := by
  induction canonical with
  | @number fields word n named given fits safe =>
      refine restores_word named given fits (if_neg ?_).symm
      rintro ⟨rfl, wide⟩
      exact Nat.not_lt.mpr (safe rfl) wide
  | @numeral fields n named given wide fits =>
      have kind : fields.lookup "type" = some (.str WordKind.u64.name) := named
      exact restores_word kind given fits (if_pos ⟨rfl, wide⟩).symm
  | boolean named given => exact restores_boolean named given
  | pubkey named given => exact restores_pubkey named given
  | bytes named sized given plain => exact restores_bytes named sized given plain
  | string named sized given readable => exact restores_string named sized given readable
  | object order _ ih => exact restores_object order ih

/-- Unpacking undoes packing at any position: a canonical value packs without parameters, its bytes
read back as the value up to the order of members, and it measures as many bytes as it packs to. -/
theorem unpack_pack {value : Json} (canonical : Canonical value) :
    ∃ bytes, (pack [] value).outcome = .ok bytes ∧ width value = .ok bytes.length ∧
      ∀ before after : Bytes, ∃ read,
        unpack (before ++ bytes ++ after) value before.length = .ok read ∧
          Json.Same value read := by
  obtain ⟨bytes, packed, measured, restored⟩ :=
    restores_of_canonical (fun entries => packEach (packNested (nestingLimit - 1) []) entries)
      canonical
  rw [← pack_eq] at packed
  refine ⟨bytes, packed, measured, fun before after => ?_⟩
  obtain ⟨read, unpacked, -, same⟩ := restored before after
  exact ⟨read, unpacked, same⟩

/-- A value whose members are not in the order in which a reader writes them. -/
def sampleValue : Json :=
  .obj [("data", .arr
    [.obj [("type", .str "u64"), ("data", .str "9007199254740992")],
      .obj [("data", .str "hi"), ("length", .int 2), ("type", .str "string")]]),
    ("name", .str "pair"), ("type", .str "object")]

theorem unpack_pack_sampleValue :
    ∃ bytes, (pack [] sampleValue).outcome = .ok bytes ∧ width sampleValue = .ok bytes.length ∧
      ∀ before after : Bytes, ∃ read,
        unpack (before ++ bytes ++ after) sampleValue before.length = .ok read ∧
          Json.Same sampleValue read := by
  have canonical : Canonical sampleValue := by
    refine @Canonical.object _ (some (.str "pair")) _ (List.reverse_perm _).symm ?_
    intro item member
    simp only [List.mem_cons, List.not_mem_nil, or_false] at member
    rcases member with rfl | rfl
    · exact @Canonical.numeral _ (2 ^ 53) rfl rfl (by decide) (by decide)
    · exact .string rfl rfl rfl (Placeholder.not_isOversized_of_digits? (by decide))
  exact unpack_pack canonical

end TxTemplate.TypedData
