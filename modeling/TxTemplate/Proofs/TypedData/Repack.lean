import TxTemplate.Proofs.TypedData.Pieces

set_option autoImplicit false

/-! Packing what was unpacked. The schema divides the bytes into slices, one for each leaf, and a
value that was read packs to these slices again, one behind the other. The exception are byte
strings whose base 64 text happens to begin with `0x`. -/

namespace TxTemplate.TypedData

/-- Slices that are read without loss: truth values of one of the two bytes that are written for
them, and texts that are well formed. A text that is no placeholder is not oversized. -/
def WellRead (slice : Leaf × Bytes) : Prop :=
  (slice.1.kind = .boolean → slice.2 = [0] ∨ slice.2 = [1]) ∧
  (slice.1.kind = .string → ∃ text, slice.2 = Utf8.bytes text ∧ ¬ Placeholder.IsOversized text)

/-- Byte strings whose text is taken for hexadecimal. -/
def Misread (slice : Leaf × Bytes) : Prop := slice.1.kind = .bytes ∧ Base64.LooksHex slice.2

instance (slice : Leaf × Bytes) : Decidable (Misread slice) := inferInstanceAs (Decidable (_ ∧ _))

/-- Slices that are read without loss: truth values of one of the two bytes that are written for
them, and texts that write the bytes they were read from, cut or filled up to their length. -/
def Lossless (slice : Leaf × Bytes) : Prop :=
  (slice.1.kind = .boolean → slice.2 = [0] ∨ slice.2 = [1]) ∧
  (slice.1.kind = .string → ¬ Placeholder.IsOversized (Utf8.text slice.2) ∧
    fit slice.2.length (Utf8.bytes (Utf8.text slice.2)) = .ok slice.2)

theorem lossless_of_wellRead {slice : Leaf × Bytes} (wellRead : WellRead slice) :
    Lossless slice := by
  refine ⟨wellRead.1, fun text => ?_⟩
  obtain ⟨text, same, readable⟩ := wellRead.2 text
  rw [same, Utf8.text_bytes]
  exact ⟨readable, fit_length _⟩

theorem repack_boolean_eq_ok {bytes : Bytes} (single : bytes.length = 1) :
    [if bytes.any (· != 0) then (1 : UInt8) else 0] = bytes ↔ bytes = [0] ∨ bytes = [1] := by
  obtain ⟨byte, rfl⟩ := List.length_eq_one_iff.mp single
  rw [List.any_cons, List.any_nil, Bool.or_false]
  by_cases nought : byte = 0
  · subst nought
    decide
  · rw [if_pos (bne_iff_ne.mpr nought), List.singleton_inj, List.singleton_inj, List.singleton_inj,
      or_iff_right nought, eq_comm]

theorem repack_bytes_eq_ok (bytes : Bytes) :
    Scalar.bytesOfText (Base64.text bytes) >>= fit bytes.length = .ok bytes ↔
      ¬ Base64.LooksHex bytes := by
  constructor
  · intro done marked
    obtain ⟨decoded, read, fitted⟩ := Outcome.bind_eq_ok.mp done
    exact fit_ne_of_looksHex marked read fitted
  · intro plain
    rw [Scalar.bytesOfText_base64 plain, Outcome.ok_bind]
    exact fit_length bytes

theorem repack_string_eq_ok (bytes : Bytes) :
    (do let resolved ← Placeholder.resolve [] (.str (Utf8.text bytes))
        fit bytes.length (Utf8.bytes resolved.display)) = .ok bytes ↔
      ¬ Placeholder.IsOversized (Utf8.text bytes) ∧
        fit bytes.length (Utf8.bytes (Utf8.text bytes)) = .ok bytes := by
  by_cases oversized : Placeholder.IsOversized (Utf8.text bytes)
  · obtain ⟨fault, refused⟩ := Placeholder.resolve_of_isOversized [] oversized
    simp [refused, oversized]
  · simp [Placeholder.resolve_nil oversized, oversized, Json.display]

theorem repack_eq_ok_iff {slice : Leaf × Bytes} (cut : Cut slice) :
    repack [] slice = .ok slice.2 ↔ Lossless slice ∧ ¬ Misread slice := by
  obtain ⟨⟨kind, size⟩, bytes⟩ := slice
  obtain rfl : (bytes.length : Int) = size := cut.length
  cases kind with
  | word _ | pubkey | object => simp [repack, Lossless, Misread]
  | boolean =>
      have single : bytes.length = 1 := Int.ofNat_inj.mp (cut.declared.fixed 1 rfl)
      simp only [repack, Lossless, Misread, Except.ok.injEq, repack_boolean_eq_ok single]
      simp
  | bytes =>
      simp only [repack, repack_bytes_eq_ok]
      simp [Lossless, Misread]
  | string =>
      simp only [repack, repack_string_eq_ok]
      simp [Lossless, Misread]

/-! ### Whole values -/

/-- What measuring and packing give for leaves that were read at an offset: their span, and exactly
their bytes unless one of them is misread. -/
structure Repacks (buffer : Bytes) (offset : Int) (layout : List Leaf) (measured : Except Fault Int)
    (packed : Except Fault Bytes) : Prop where
  measured : measured = .ok (span layout)
  packed : packed = .ok (window buffer offset (span layout)) ↔
    ∀ slice ∈ slices buffer offset layout, ¬ Misread slice

theorem repackable (schema : Json) (buffer : Bytes) (fields : Fields) (offset : Int) (value : Json)
    (object : schema = .obj fields) (read : unpack buffer schema offset = .ok value)
    (sized : ∀ leaf ∈ leaves schema, 0 ≤ leaf.size)
    (wellRead : ∀ slice ∈ slices buffer offset (leaves schema), WellRead slice)
    (onEntries : List Json → Traced Bytes) :
    Repacks buffer offset (leaves schema) (width value) (packWith onEntries [] value).outcome := by
  subst object
  have supported := supported_of_unpack read sized
  refine ⟨(width_of_unpack supported read).2, ?_⟩
  rw [pack_eq_window_iff supported read]
  refine forall₂_congr fun slice member => ?_
  rw [repack_eq_ok_iff (cut_of_unpack supported read slice member)]
  exact and_iff_right (lossless_of_wellRead (wellRead slice member))

/-- Packing undoes unpacking exactly where no byte string is misread: a value read from a buffer by
an object schema packs, without parameters, to the bytes of the buffer that it covers. The sizes may
not be negative, and truth values and texts have to be well read. -/
theorem pack_unpack_eq_ok_iff {buffer : Bytes} {fields : Fields} {offset : Int} {value : Json}
    (read : unpack buffer (.obj fields) offset = .ok value)
    (sized : ∀ leaf ∈ leaves (.obj fields), 0 ≤ leaf.size)
    (wellRead : ∀ slice ∈ slices buffer offset (leaves (.obj fields)), WellRead slice) :
    ∃ size, width value = .ok size ∧
      ((pack [] value).outcome = .ok (window buffer offset size) ↔
        ∀ slice ∈ slices buffer offset (leaves (.obj fields)), ¬ Misread slice) := by
  have repacks := repackable (.obj fields) buffer fields offset value rfl read sized wellRead
    fun entries => packEach (packNested (nestingLimit - 1) []) entries
  rw [← pack_eq] at repacks
  exact ⟨_, repacks.measured, repacks.packed⟩

def sampleSchema : Fields :=
  [("type", .str "object"), ("data", .arr
    [.obj [("type", .str "u16")], .obj [("type", .str "bytes"), ("size", .int 2)],
      .obj [("type", .str "object"), ("data", .arr
        [.obj [("type", .str "boolean")], .obj [("type", .str "string"), ("length", .int 2)]])]])]

def sampleBuffer : Bytes := [9, 1, 2, 3, 4, 1, 104, 105, 9]

theorem pack_unpack_sampleSchema :
    ∃ value size, unpack sampleBuffer (.obj sampleSchema) 1 = .ok value ∧ width value = .ok size ∧
      (pack [] value).outcome = .ok (window sampleBuffer 1 size) := by
  have parts : slices sampleBuffer 1 (leaves (.obj sampleSchema)) =
      [(⟨.word .u16, 2⟩, [1, 2]), (⟨.bytes, 2⟩, [3, 4]), (⟨.boolean, 1⟩, [1]),
        (⟨.string, 2⟩, [104, 105])] := by decide
  have wellRead : ∀ slice ∈ slices sampleBuffer 1 (leaves (.obj sampleSchema)), WellRead slice := by
    have text : ¬ Placeholder.IsOversized "hi" := Placeholder.not_isOversized_of_digits? (by decide)
    rw [parts]
    intro slice member
    simp only [List.mem_cons, List.not_mem_nil, or_false] at member
    rcases member with rfl | rfl | rfl | rfl
    · exact ⟨nofun, nofun⟩
    · exact ⟨nofun, nofun⟩
    · exact ⟨fun _ => .inr rfl, nofun⟩
    · exact ⟨nofun, fun _ => ⟨"hi", by decide, text⟩⟩
  have plain : ∀ slice ∈ slices sampleBuffer 1 (leaves (.obj sampleSchema)), ¬ Misread slice := by
    rw [parts]
    decide
  obtain ⟨size, measured, packs⟩ :=
    pack_unpack_eq_ok_iff (rfl : unpack sampleBuffer (.obj sampleSchema) 1 = .ok _) (by decide)
      wellRead
  exact ⟨_, size, rfl, measured, packs.mpr plain⟩

/-- Three bytes with the text `0x00` pack to three zero bytes. -/
theorem pack_unpack_misread :
    ∃ value,
      unpack [0xD3, 0x1D, 0x34] (.obj [("type", .str "bytes"), ("size", .int 3)]) 0 = .ok value ∧
      width value = .ok 3 ∧ (pack [] value).outcome = .ok [0, 0, 0] ∧
      (pack [] value).outcome ≠ .ok (window [0xD3, 0x1D, 0x34] 0 3) := by
  have packs : (pack [] (.obj (filled .bytes [("type", .str "bytes"), ("size", .int 3)] 3
      [0xD3, 0x1D, 0x34]))).outcome = .ok [0, 0, 0] := by
    have decoded : Scalar.bytesOfText (Base64.text [0xD3, 0x1D, 0x34]) = .ok [0] := by
      rw [Scalar.bytesOfText, Base64.text, String.toList_ofList]
      rfl
    refine (@pack_leaf .bytes _ _ _ _ [] (by decide) rfl rfl rfl).trans ?_
    rw [repack, decoded]
    rfl
  have different : ([0, 0, 0] : Bytes) ≠ window [0xD3, 0x1D, 0x34] 0 3 := by decide
  exact ⟨_, rfl, rfl, packs, fun same => different (Except.ok.inj (packs.symm.trans same))⟩

/-! ### How many bytes -/

/-- As many bytes are written as were read. What an object schema without negative sizes reads can
be measured, and packs, whatever stands for the placeholders in it, to so many bytes or not at
all. -/
theorem length_pack_of_unpack {buffer : Bytes} {fields : Fields} {offset : Int} {value : Json}
    (read : unpack buffer (.obj fields) offset = .ok value)
    (sized : ∀ leaf ∈ leaves (.obj fields), 0 ≤ leaf.size) :
    ∃ size, width value = .ok size ∧
      ∀ params packed, (pack params value).outcome = .ok packed → (packed.length : Int) = size := by
  have supported := supported_of_unpack read sized
  refine ⟨_, (width_of_unpack supported read).2, fun params packed done => ?_⟩
  rw [pack_eq] at done
  exact length_of_pack supported read done

def unevenSchema : Fields :=
  [("type", .str "object"), ("data", .arr
    [.obj [("type", .str "boolean")], .obj [("type", .str "string"), ("length", .int 2)],
      .obj [("type", .str "string"), ("length", .int 1)],
        .obj [("type", .str "bytes"), ("size", .int 3)]])]

def unevenBuffer : Bytes := [7, 36, 49, 0xFF, 0xD3, 0x1D, 0x34]

theorem length_pack_unevenBuffer :
    ∃ value, unpack unevenBuffer (.obj unevenSchema) 0 = .ok value ∧ width value = .ok 7 ∧
      (pack ["ééé"] value).outcome = .ok [1, 0xC3, 0xA9, 0xEF, 0, 0, 0] ∧
      ∀ params packed, (pack params value).outcome = .ok packed → packed.length = 7 := by
  obtain ⟨value, read⟩ : ∃ value, unpack unevenBuffer (.obj unevenSchema) 0 = .ok value := ⟨_, rfl⟩
  have supported := supported_of_unpack read (by decide)
  have packs : (pack ["ééé"] value).outcome = .ok [1, 0xC3, 0xA9, 0xEF, 0, 0, 0] := by
    rw [pack_eq, pack_of_unpack supported read]
    rfl
  obtain ⟨size, measured, lengths⟩ := length_pack_of_unpack read (by decide)
  have seven : size = 7 := Except.ok.inj (measured.symm.trans (width_of_unpack supported read).2)
  refine ⟨value, read, measured.trans (congrArg Except.ok seven), packs, ?_⟩
  intro params packed done
  have length := lengths params packed done
  omega

end TxTemplate.TypedData
