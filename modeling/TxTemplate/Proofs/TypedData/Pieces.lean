import TxTemplate.Proofs.TypedData.Extent

set_option autoImplicit false

/-! Packing what was unpacked, slice by slice. The schema divides the bytes into slices, one for
each leaf; every leaf packs on its own to some bytes, and the whole packs to those one behind the
other. So a value packs to the bytes that it was read from exactly when each of its slices does. -/

namespace TxTemplate.TypedData

/-- The bytes of each leaf, one behind the other from an offset on. -/
def slices (buffer : Bytes) : Int → List Leaf → List (Leaf × Bytes)
  | _, [] => []
  | offset, leaf :: rest =>
    (leaf, window buffer offset leaf.size) :: slices buffer (offset + leaf.size) rest

theorem slices_append (buffer : Bytes) (offset : Int) (front back : List Leaf) :
    slices buffer offset (front ++ back) =
      slices buffer offset front ++ slices buffer (offset + span front) back := by
  induction front generalizing offset with
  | nil => simp [slices, span]
  | cons leaf rest ih => simp [slices, span, ih, Int.add_assoc]

variable {buffer : Bytes} {offset : Int} {layout : List Leaf}

theorem length_of_mem_slices (sized : ∀ leaf ∈ layout, 0 ≤ leaf.size)
    (within : Within buffer offset layout) :
    ∀ slice ∈ slices buffer offset layout,
      slice.1 ∈ layout ∧ (slice.2.length : Int) = slice.1.size := by
  induction layout generalizing offset with
  | nil => exact fun _ member => absurd member List.not_mem_nil
  | cons leaf rest ih =>
      rw [List.forall_mem_cons] at sized
      have single : span [leaf] = leaf.size := Int.add_zero _
      have restSized := span_nonneg rest sized.2
      obtain ⟨first, later⟩ :=
        (@within_append buffer offset [leaf] rest (by omega) restSized).mp within
      have inside := first.inside
      rw [single] at inside later
      rw [slices, List.forall_mem_cons]
      refine ⟨⟨List.mem_cons_self, length_window inside sized.1⟩, fun slice member => ?_⟩
      obtain ⟨listed, length⟩ := ih sized.2 later slice member
      exact ⟨List.mem_cons_of_mem leaf listed, length⟩

/-- One behind the other the slices are the bytes that the leaves span. -/
theorem flatMap_slices (sized : ∀ leaf ∈ layout, 0 ≤ leaf.size)
    (within : Within buffer offset layout) :
    (slices buffer offset layout).flatMap Prod.snd = window buffer offset (span layout) := by
  induction layout generalizing offset with
  | nil => rw [slices, span, window_zero, List.flatMap_nil]
  | cons leaf rest ih =>
      rw [List.forall_mem_cons] at sized
      have single : span [leaf] = leaf.size := Int.add_zero _
      have restSized := span_nonneg rest sized.2
      obtain ⟨first, later⟩ :=
        (@within_append buffer offset [leaf] rest (by omega) restSized).mp within
      have inside := first.inside
      rw [single] at inside later
      rw [slices, List.flatMap_cons, ih sized.2 later, span, window_add inside sized.1 restSized]

/-! ### Packing a slice -/

/-- What the leaf that was read from a slice packs to. -/
def repack (params : Params) (slice : Leaf × Bytes) : Except Fault Bytes :=
  match slice.1.kind with
  | .boolean => .ok [if slice.2.any (· != 0) then 1 else 0]
  | .bytes => Scalar.bytesOfText (Base64.text slice.2) >>= fit slice.1.size
  | .string => do
    let resolved ← Placeholder.resolve params (.str (Utf8.text slice.2))
    fit slice.1.size (Utf8.bytes resolved.display)
  | .word _ | .pubkey | .object => .ok slice.2

def repackAll (params : Params) : List (Leaf × Bytes) → Except Fault Bytes
  | [] => .ok []
  | slice :: rest => do
    let bytes ← repack params slice
    let more ← repackAll params rest
    pure (bytes ++ more)

theorem repackAll_append (params : Params) (front back : List (Leaf × Bytes)) :
    repackAll params (front ++ back) = (do
      let bytes ← repackAll params front
      let more ← repackAll params back
      pure (bytes ++ more)) := by
  induction front with
  | nil =>
      rw [List.nil_append, repackAll, Outcome.ok_bind]
      cases repackAll params back <;> rfl
  | cons slice rest ih =>
      rw [List.cons_append, repackAll, repackAll, ih]
      cases repack params slice with
      | error fault => rfl
      | ok bytes =>
          cases repackAll params rest with
          | error fault => rfl
          | ok more =>
              cases repackAll params back with
              | error fault => rfl
              | ok others => simp [Outcome.ok_bind]

/-! ### Values that were read -/

section Leaves

variable {kind : Kind} {fields : Fields} {size : Int} {bytes : Bytes}

theorem address_of_length (length : bytes.length = 32) :
    ∃ address : Address, address.bytes = bytes :=
  ⟨⟨bytes, length⟩, rfl⟩

theorem wordData_spelled (word : WordKind) (bytes : Bytes) :
    wordData word bytes = .int (LittleEndian.decode bytes) ∨
      wordData word bytes = .str (Decimal.natText (LittleEndian.decode bytes)) := by
  cases word with
  | u8 | u16 | u32 => exact .inl rfl
  | u64 =>
      rw [wordData, Scalar.safeInteger]
      by_cases wide : (Scalar.maxSafe : Int) < LittleEndian.decode bytes
      · rw [if_pos wide]
        exact .inr rfl
      · rw [if_neg wide]
        exact .inl rfl

theorem pack_leaf (onEntries : List Json → Traced Bytes) (params : Params) (leaf : kind ≠ .object)
    (named : kind? fields = some kind) (known : leafSize kind fields = .ok size)
    (length : (bytes.length : Int) = size) :
    (packWith onEntries params (.obj (filled kind fields size bytes))).outcome =
      repack params (⟨kind, size⟩, bytes) := by
  have given : (filled kind fields size bytes).lookup "data" = some (datum kind bytes) :=
    lookup_data_filled
  cases kind with
  | object => exact absurd rfl leaf
  | word word =>
      have width : bytes.length = word.width := by
        have fixed : (word.width : Int) = size := Except.ok.inj known
        omega
      have fits := LittleEndian.decode_lt bytes
      have written := LittleEndian.encode_decode bytes
      rw [width] at fits written
      rw [pack_word onEntries params (kind?_filled.trans named) given
        (wordData_spelled word bytes) fits, written]
      rfl
  | boolean => exact pack_boolean onEntries params (kind?_filled.trans named) given
  | pubkey =>
      have fixed : (32 : Int) = size := Except.ok.inj known
      obtain ⟨address, rfl⟩ := address_of_length (show bytes.length = 32 by omega)
      exact pack_pubkey onEntries params (kind?_filled.trans named) given
  | bytes => exact pack_bytes onEntries params (kind?_filled.trans named) lookup_size_filled given
  | string =>
      exact pack_resolved onEntries params (kind?_filled.trans named) lookup_length_filled given

end Leaves

section Values

variable {buffer : Bytes} {offset : Int}

theorem width_of_unpack {schema value : Json} (supported : Supported schema)
    (read : unpack buffer schema offset = .ok value) :
    Within buffer offset (leaves schema) ∧ width value = .ok (span (leaves schema)) := by
  have reads := reads_of_supported supported buffer offset
  by_cases within : Within buffer offset (leaves schema)
  · obtain ⟨other, otherRead, covered⟩ := reads.within within
    obtain rfl := Except.ok.inj (read.symm.trans otherRead)
    rw [coverage_of_unpack supported read] at covered
    exact ⟨within, covered⟩
  · obtain ⟨size, position, failed⟩ := reads.outside within
    rw [read] at failed
    cases failed

theorem pack_entries {entries items : List Json} (supported : ∀ entry ∈ entries, Supported entry)
    (onEntries : List Json → Traced Bytes) (params : Params)
    (each : ∀ entry ∈ entries, ∀ offset value, unpack buffer entry offset = .ok value →
      (packWith onEntries params value).outcome =
      repackAll params (slices buffer offset (leaves entry)))
    (read : unpackEntries buffer entries offset = .ok items) :
    (packEntries onEntries params items).outcome =
      repackAll params (slices buffer offset (entryLeaves entries)) := by
  induction entries generalizing offset items with
  | nil =>
      obtain rfl : [] = items := Except.ok.inj read
      rfl
  | cons entry rest ih =>
      rw [List.forall_mem_cons] at supported each
      obtain ⟨item, itemRead, later⟩ := Outcome.bind_eq_ok.mp read
      obtain ⟨covered, measured, last⟩ := Outcome.bind_eq_ok.mp later
      obtain ⟨others, othersRead, same⟩ := Outcome.bind_eq_ok.mp last
      obtain rfl : item :: others = items := Except.ok.inj same
      obtain rfl : span (leaves entry) = covered :=
        Except.ok.inj ((width_of_unpack supported.1 itemRead).2.symm.trans measured)
      rw [entryLeaves, slices_append, repackAll_append, ← each.1 offset item itemRead,
        ← ih supported.2 each.2 othersRead, packEntries, Traced.outcome_bind]
      congr 1
      funext bytes
      rw [Traced.outcome_bind]
      rfl

/-- What was read by a supported schema packs, leaf by leaf, as its slices do. -/
theorem pack_of_unpack {schema value : Json} (supported : Supported schema)
    (read : unpack buffer schema offset = .ok value) (onEntries : List Json → Traced Bytes)
    (params : Params) :
    (packWith onEntries params value).outcome =
      repackAll params (slices buffer offset (leaves schema)) := by
  induction supported generalizing offset value with
  | @leaf fields kind size leaf named declared sized =>
      rw [unpack_leaf buffer leaf named, unpackLeaf_eq buffer leaf, declared, Outcome.ok_bind]
        at read
      obtain ⟨bytes, sliceRead, same⟩ := Outcome.bind_eq_ok.mp read
      obtain rfl := Except.ok.inj same
      obtain ⟨start, stop, rfl⟩ := (readAt_eq_ok sized).mp sliceRead
      rw [pack_leaf onEntries params leaf named declared (length_window (.inr ⟨start, stop⟩) sized),
        leaves_of_leaf leaf named declared, slices, slices, repackAll, repackAll]
      cases repack params (⟨kind, size⟩, window buffer offset size) <;>
        simp [Outcome.ok_bind, Outcome.error_bind]
  | @object fields entries named listed each ih =>
      rw [unpack_object buffer named, unpackMembers_of_lookup buffer listed] at read
      obtain ⟨items, itemsRead, same⟩ := Outcome.bind_eq_ok.mp read
      obtain rfl := Except.ok.inj same
      rw [pack_object onEntries params (kind?_objectHead fields items)
        (lookup_data_objectHead fields items), leaves_of_object named listed]
      exact pack_entries each onEntries params (fun entry member offset value read =>
        ih entry member read)
        itemsRead

end Values

/-! ### Packing to the bytes that were read -/

section Slices

variable {params : Params} {pieces : List (Leaf × Bytes)}

/-- A slice as it is cut out for a declared leaf. -/
structure Cut (slice : Leaf × Bytes) : Prop where
  declared : slice.1.Declared
  length : (slice.2.length : Int) = slice.1.size

theorem length_of_repack {slice : Leaf × Bytes} {packed : Bytes} (cut : Cut slice)
    (done : repack params slice = .ok packed) : packed.length = slice.2.length := by
  obtain ⟨⟨kind, size⟩, bytes⟩ := slice
  have whole : (bytes.length : Int) = size := cut.length
  have sized : 0 ≤ size := cut.declared.sized
  cases kind with
  | word _ | pubkey | object =>
      obtain rfl := Except.ok.inj done
      rfl
  | boolean =>
      obtain rfl := Except.ok.inj done
      have fixed : size = 1 := cut.declared.fixed 1 rfl
      show 1 = bytes.length
      omega
  | bytes | string =>
      obtain ⟨decoded, -, fitted⟩ := Outcome.bind_eq_ok.mp done
      have length := length_of_fit sized fitted
      show packed.length = bytes.length
      omega

theorem length_of_repackAll {packed : Bytes} (cut : ∀ slice ∈ pieces, Cut slice)
    (done : repackAll params pieces = .ok packed) :
    packed.length = (pieces.flatMap Prod.snd).length := by
  induction pieces generalizing packed with
  | nil =>
      obtain rfl := Except.ok.inj done
      rfl
  | cons slice rest ih =>
      rw [List.forall_mem_cons] at cut
      obtain ⟨bytes, first, later⟩ := Outcome.bind_eq_ok.mp done
      obtain ⟨more, others, same⟩ := Outcome.bind_eq_ok.mp later
      obtain rfl : bytes ++ more = packed := Except.ok.inj same
      rw [List.flatMap_cons, List.length_append, List.length_append, length_of_repack cut.1 first,
        ih cut.2 others]

-- Each leaf packs to as many bytes as its slice has, so the parts of the two sides fall together.
theorem repackAll_eq_ok_iff (cut : ∀ slice ∈ pieces, Cut slice) :
    repackAll params pieces = .ok (pieces.flatMap Prod.snd) ↔
      ∀ slice ∈ pieces, repack params slice = .ok slice.2 := by
  induction pieces with
  | nil => exact ⟨fun _ _ member => absurd member List.not_mem_nil, fun _ => rfl⟩
  | cons slice rest ih =>
      rw [List.forall_mem_cons] at cut
      rw [List.flatMap_cons, List.forall_mem_cons, ← ih cut.2]
      constructor
      · intro done
        obtain ⟨bytes, first, later⟩ := Outcome.bind_eq_ok.mp done
        obtain ⟨more, others, same⟩ := Outcome.bind_eq_ok.mp later
        obtain ⟨rfl, rfl⟩ := List.append_inj (Except.ok.inj same) (length_of_repack cut.1 first)
        exact ⟨first, others⟩
      · rintro ⟨first, others⟩
        rw [repackAll, first, Outcome.ok_bind, others]
        rfl

end Slices

section Whole

variable {buffer : Bytes} {offset : Int} {schema value : Json}

theorem cut_of_unpack (supported : Supported schema)
    (read : unpack buffer schema offset = .ok value) :
    ∀ slice ∈ slices buffer offset (leaves schema), Cut slice := by
  intro slice member
  obtain ⟨within, -⟩ := width_of_unpack supported read
  have sized : ∀ leaf ∈ leaves schema, 0 ≤ leaf.size :=
    fun leaf listed => (supported.declared leaf listed).sized
  obtain ⟨listed, length⟩ := length_of_mem_slices sized within slice member
  exact ⟨supported.declared _ listed, length⟩

theorem length_of_pack (supported : Supported schema)
    (read : unpack buffer schema offset = .ok value) {onEntries : List Json → Traced Bytes}
    {params : Params} {packed : Bytes}
    (done : (packWith onEntries params value).outcome = .ok packed) :
    (packed.length : Int) = span (leaves schema) := by
  obtain ⟨within, -⟩ := width_of_unpack supported read
  rw [pack_of_unpack supported read] at done
  rw [length_of_repackAll (cut_of_unpack supported read) done,
    flatMap_slices (fun leaf listed => (supported.declared leaf listed).sized) within,
    length_window within.inside supported.span_nonneg]

/-- A value packs to the bytes that it was read from exactly when each of its slices does. -/
theorem pack_eq_window_iff (supported : Supported schema)
    (read : unpack buffer schema offset = .ok value) (onEntries : List Json → Traced Bytes)
    (params : Params) :
    (packWith onEntries params value).outcome = .ok (window buffer offset (span (leaves schema))) ↔
      ∀ slice ∈ slices buffer offset (leaves schema), repack params slice = .ok slice.2 := by
  obtain ⟨within, -⟩ := width_of_unpack supported read
  rw [pack_of_unpack supported read, ← repackAll_eq_ok_iff (cut_of_unpack supported read),
    flatMap_slices (fun leaf listed => (supported.declared leaf listed).sized) within]

theorem schema_of_width {size : Int} (read : unpack buffer schema offset = .ok value)
    (measured : width value = .ok size) : ∃ fields, schema = .obj fields := by
  cases schema with
  | obj fields => exact ⟨fields, rfl⟩
  | arr entries =>
      obtain ⟨items, -, same⟩ := Outcome.bind_eq_ok.mp read
      obtain rfl := Except.ok.inj same
      cases measured
  | null | bool _ | int _ | float _ | str _ => cases read

theorem supported_entries {entries items : List Json}
    (each : ∀ entry ∈ entries, ∀ fields offset value, entry = .obj fields →
      unpack buffer entry offset = .ok value → (∀ leaf ∈ leaves entry, 0 ≤ leaf.size) →
      Supported entry)
    (read : unpackEntries buffer entries offset = .ok items)
    (sized : ∀ leaf ∈ entryLeaves entries, 0 ≤ leaf.size) : ∀ entry ∈ entries, Supported entry := by
  induction entries generalizing offset items with
  | nil => exact fun _ member => absurd member List.not_mem_nil
  | cons entry rest ih =>
      rw [entryLeaves, List.forall_mem_append] at sized
      rw [List.forall_mem_cons] at each
      obtain ⟨item, itemRead, later⟩ := Outcome.bind_eq_ok.mp read
      obtain ⟨covered, measured, last⟩ := Outcome.bind_eq_ok.mp later
      obtain ⟨others, othersRead, -⟩ := Outcome.bind_eq_ok.mp last
      obtain ⟨fields, object⟩ := schema_of_width itemRead measured
      rw [List.forall_mem_cons]
      exact ⟨each.1 fields offset item object itemRead sized.1, ih each.2 othersRead sized.2⟩

/-- A schema of an object that could be read, and declares no negative size, is a supported one. -/
theorem supported_of_unpack {fields : Fields}
    (read : unpack buffer (.obj fields) offset = .ok value)
    (sized : ∀ leaf ∈ leaves (.obj fields), 0 ≤ leaf.size) : Supported (.obj fields) := by
  induction same : Json.obj fields using Json.entryInduction "data" generalizing fields offset
    value with
  | step schema each =>
      subst same
      obtain ⟨kind, named⟩ := kind?_of_unpack read
      by_cases object : kind = .object
      · subst object
        rw [unpack_object buffer named] at read
        obtain ⟨items, members, -⟩ := Outcome.bind_eq_ok.mp read
        obtain ⟨entries, listed, itemsRead⟩ := lookup_of_unpackMembers members
        rw [leaves_of_object named listed] at sized
        refine .object named listed (supported_entries ?_ itemsRead sized)
        rintro entry member inner offset value rfl innerRead innerSized
        exact each fields entries rfl listed _ member innerRead innerSized rfl
      · rw [unpack_leaf buffer object named, unpackLeaf_eq buffer object] at read
        obtain ⟨size, declared, -⟩ := Outcome.bind_eq_ok.mp read
        rw [leaves_of_leaf object named declared, List.forall_mem_singleton] at sized
        exact .leaf object named declared sized

end Whole

end TxTemplate.TypedData
