import TxTemplate.Proofs.TypedData.Leaf
import TxTemplate.Proofs.TypedData.Window

set_option autoImplicit false

/-! How far reading reaches. A schema of supported kinds reads the span of its leaves from an offset
on: it succeeds exactly where they lie in the buffer, what it gives covers so many bytes, and it
looks at no other byte. -/

namespace TxTemplate.TypedData

/-- Schemas of one value: leaves whose sizes are declared and not negative, and objects that list
such schemas, nested to any depth. -/
inductive Supported : Json → Prop where
  | leaf {fields : Fields} {kind : Kind} {size : Int} (leaf : kind ≠ .object)
      (named : kind? fields = some kind) (declared : leafSize kind fields = .ok size)
        (sized : 0 ≤ size) :
      Supported (.obj fields)
  | object {fields : Fields} {entries : List Json} (named : kind? fields = some .object)
      (listed : fields.lookup "data" = some (.arr entries))
        (each : ∀ entry ∈ entries, Supported entry) :
      Supported (.obj fields)

/-- The schema of one value, or of values one behind the other. -/
inductive SupportedSchema : Json → Prop where
  | one {schema : Json} (supported : Supported schema) : SupportedSchema schema
  | several {entries : List Json} (each : ∀ entry ∈ entries, Supported entry) :
      SupportedSchema (.arr entries)

/-- The number of bytes that an unpacked value, or a list of them, covers. -/
def coverage : Json → Except Fault Int
  | .arr items => entriesWidth items
  | value => width value

/-- A leaf as a schema declares it: no negative size, and that of its kind where the kind has
one. -/
structure Leaf.Declared (leaf : Leaf) : Prop where
  sized : 0 ≤ leaf.size
  fixed : ∀ width, leaf.kind.fixedWidth? = some width → leaf.size = width

theorem declared_of_leafSize {fields : Fields} {kind : Kind} {size : Int}
    (declared : leafSize kind fields = .ok size) (sized : 0 ≤ size) :
    Leaf.Declared ⟨kind, size⟩ := by
  refine ⟨sized, fun width fixed => ?_⟩
  cases kind with
  | bytes | string | object => cases fixed
  | word _ | boolean | pubkey =>
      obtain rfl := Option.some.inj fixed
      exact (Except.ok.inj declared).symm

theorem forall_mem_entryLeaves {p : Leaf → Prop} {entries : List Json}
    (each : ∀ entry ∈ entries, ∀ leaf ∈ leaves entry, p leaf) :
    ∀ leaf ∈ entryLeaves entries, p leaf := by
  induction entries with
  | nil => exact fun _ member => absurd member List.not_mem_nil
  | cons entry rest ih =>
      rw [List.forall_mem_cons] at each
      rw [entryLeaves, List.forall_mem_append]
      exact ⟨each.1, ih each.2⟩

theorem Supported.declared {schema : Json} (supported : Supported schema) :
    ∀ leaf ∈ leaves schema, leaf.Declared := by
  induction supported with
  | leaf leaf named declared sized =>
      rw [leaves_of_leaf leaf named declared, List.forall_mem_singleton]
      exact declared_of_leafSize declared sized
  | object named listed _ ih =>
      rw [leaves_of_object named listed]
      exact forall_mem_entryLeaves ih

theorem Supported.span_nonneg {schema : Json} (supported : Supported schema) :
    0 ≤ span (leaves schema) :=
  TypedData.span_nonneg _ fun leaf member => (supported.declared leaf member).sized

theorem span_entryLeaves_nonneg {entries : List Json} (each : ∀ entry ∈ entries, Supported entry) :
    0 ≤ span (entryLeaves entries) :=
  TypedData.span_nonneg _ (forall_mem_entryLeaves fun entry member leaf inside =>
    ((each entry member).declared leaf inside).sized)

/-! ### Leaves in a buffer -/

/-- The leaves lie in the buffer. Where there are none nothing is read, and any offset will do. -/
def Within (buffer : Bytes) (offset : Int) (layout : List Leaf) : Prop :=
  layout = [] ∨ 0 ≤ offset ∧ offset + span layout ≤ buffer.length

variable {buffer other : Bytes} {offset otherOffset : Int} {layout front back : List Leaf}

theorem within_of_ne_nil (some : layout ≠ []) :
    Within buffer offset layout ↔ 0 ≤ offset ∧ offset + span layout ≤ buffer.length := by
  unfold Within
  constructor
  · rintro (none | inside)
    · exact absurd none some
    · exact inside
  · exact .inr

theorem Within.inside (within : Within buffer offset layout) :
    Inside buffer offset (span layout) := by
  rcases within with rfl | inside
  · exact .inl rfl
  · exact .inr inside

theorem within_append (frontSized : 0 ≤ span front) (backSized : 0 ≤ span back) :
    Within buffer offset (front ++ back) ↔
      Within buffer offset front ∧ Within buffer (offset + span front) back := by
  by_cases noFront : front = []
  · subst noFront
    simp [Within, span]
  · by_cases noBack : back = []
    · subst noBack
      simp [Within]
    · have whole : front ++ back ≠ [] := fun none => noFront (List.append_eq_nil_iff.mp none).1
      rw [within_of_ne_nil noFront, within_of_ne_nil noBack, within_of_ne_nil whole, span_append]
      omega

/-- Two buffers that hold the same bytes for some leaves, each at an offset of its own. -/
structure Agree (buffer : Bytes) (offset : Int) (other : Bytes) (otherOffset : Int)
    (layout : List Leaf) :
    Prop where
  here : Within buffer offset layout
  there : Within other otherOffset layout
  same : window buffer offset (span layout) = window other otherOffset (span layout)

theorem Agree.split (agree : Agree buffer offset other otherOffset (front ++ back))
    (frontSized : 0 ≤ span front) (backSized : 0 ≤ span back) :
    Agree buffer offset other otherOffset front ∧
      Agree buffer (offset + span front) other (otherOffset + span front) back := by
  obtain ⟨frontHere, backHere⟩ := (within_append frontSized backSized).mp agree.here
  obtain ⟨frontThere, backThere⟩ := (within_append frontSized backSized).mp agree.there
  have joined := agree.same
  rw [span_append, window_add frontHere.inside frontSized backSized,
    window_add frontThere.inside frontSized backSized] at joined
  have lengths : (window buffer offset (span front)).length =
      (window other otherOffset (span front)).length := by
    have first := length_window frontHere.inside frontSized
    have second := length_window frontThere.inside frontSized
    omega
  obtain ⟨frontSame, backSame⟩ := List.append_inj joined lengths
  exact ⟨⟨frontHere, frontThere, frontSame⟩, ⟨backHere, backThere, backSame⟩⟩

/-! ### Success and failure -/

/-- Reading leaves at an offset: it succeeds where they lie in the buffer, what it gives covers
their span, and anywhere else it is out of bounds. -/
structure Reads {α : Type} (buffer : Bytes) (offset : Int) (layout : List Leaf)
    (measure : α → Except Fault Int) (outcome : Except Fault α) : Prop where
  within : Within buffer offset layout → ∃ value, outcome = .ok value ∧
    measure value = .ok (span layout)
  outside : ¬ Within buffer offset layout →
    ∃ size position, outcome = .error (.codec (.outOfBounds size position buffer.length))

theorem readAt_outside {size : Int} (outside : ¬ (0 ≤ offset ∧ offset + size ≤ buffer.length)) :
    readAt buffer offset size = .error (.codec (.outOfBounds size offset buffer.length)) := by
  rw [readAt, if_pos (by omega)]

theorem reads_leaf {fields : Fields} {kind : Kind} {size : Int} (leaf : kind ≠ .object)
    (named : kind? fields = some kind) (declared : leafSize kind fields = .ok size)
    (sized : 0 ≤ size) (buffer : Bytes) (offset : Int) :
    Reads buffer offset (leaves (.obj fields)) coverage (unpack buffer (.obj fields) offset) := by
  have single : span [⟨kind, size⟩] = size := Int.add_zero size
  rw [leaves_of_leaf leaf named declared, unpack_leaf buffer leaf named, unpackLeaf_eq buffer leaf,
    declared, Outcome.ok_bind]
  constructor
  · intro within
    rw [within_of_ne_nil (List.cons_ne_nil _ _), single] at within
    rw [(readAt_eq_ok sized).mpr ⟨within.1, within.2, rfl⟩, Outcome.ok_bind, single]
    exact ⟨_, rfl, width_filled leaf named declared⟩
  · intro outside
    rw [within_of_ne_nil (List.cons_ne_nil _ _), single] at outside
    rw [readAt_outside outside]
    exact ⟨size, offset, rfl⟩

/-- Supported schemas are those of objects, so what they give is measured as one value. -/
theorem coverage_of_unpack {schema value : Json} (supported : Supported schema)
    (read : unpack buffer schema offset = .ok value) : coverage value = width value := by
  cases supported with
  | leaf leaf named declared sized =>
      rw [unpack_leaf buffer leaf named, unpackLeaf_eq buffer leaf] at read
      obtain ⟨size, -, later⟩ := Outcome.bind_eq_ok.mp read
      obtain ⟨bytes, -, same⟩ := Outcome.bind_eq_ok.mp later
      obtain rfl := Except.ok.inj same
      rfl
  | object named listed each =>
      rw [unpack_object buffer named] at read
      obtain ⟨items, -, same⟩ := Outcome.bind_eq_ok.mp read
      obtain rfl := Except.ok.inj same
      rfl

theorem reads_entries {entries : List Json} (supported : ∀ entry ∈ entries, Supported entry)
    (each : ∀ entry ∈ entries, ∀ buffer offset,
      Reads buffer offset (leaves entry) coverage (unpack buffer entry offset))
    (buffer : Bytes) (offset : Int) :
    Reads buffer offset (entryLeaves entries) entriesWidth
      (unpackEntries buffer entries offset) := by
  induction entries generalizing offset with
  | nil => exact ⟨fun _ => ⟨[], rfl, rfl⟩, fun outside => absurd (.inl rfl) outside⟩
  | cons entry rest ih =>
      rw [List.forall_mem_cons] at supported each
      have first := each.1 buffer offset
      have later := ih supported.2 each.2 (offset + span (leaves entry))
      -- The buffer reaches over both parts or fails one of them, and the first one that it fails
      -- decides.
      have apart : Within buffer offset (entryLeaves (entry :: rest)) ↔
        Within buffer offset (leaves entry) ∧
          Within buffer (offset + span (leaves entry)) (entryLeaves rest) := by
        rw [entryLeaves]
        exact within_append supported.1.span_nonneg (span_entryLeaves_nonneg supported.2)
      constructor
      · intro within
        obtain ⟨value, read, covered⟩ := first.within (apart.mp within).1
        obtain ⟨values, othersRead, measured⟩ := later.within (apart.mp within).2
        rw [coverage_of_unpack supported.1 read] at covered
        refine ⟨value :: values, ?_, ?_⟩
        · rw [unpackEntries, read, Outcome.ok_bind, covered, Outcome.ok_bind, othersRead]
          rfl
        · rw [entriesWidth, covered, measured, entryLeaves, span_append]
          rfl
      · intro outside
        rw [apart] at outside
        by_cases here : Within buffer offset (leaves entry)
        · obtain ⟨value, read, covered⟩ := first.within here
          obtain ⟨size, position, failed⟩ := later.outside fun there => outside ⟨here, there⟩
          rw [coverage_of_unpack supported.1 read] at covered
          refine ⟨size, position, ?_⟩
          rw [unpackEntries, read, Outcome.ok_bind, covered, Outcome.ok_bind, failed]
          rfl
        · obtain ⟨size, position, failed⟩ := first.outside here
          refine ⟨size, position, ?_⟩
          rw [unpackEntries, failed]
          rfl

theorem reads_object {fields : Fields} {entries : List Json} (named : kind? fields = some .object)
    (listed : fields.lookup "data" = some (.arr entries))
    (each : Reads buffer offset (entryLeaves entries) entriesWidth
      (unpackEntries buffer entries offset)) :
    Reads buffer offset (leaves (.obj fields)) coverage (unpack buffer (.obj fields) offset) := by
  rw [leaves_of_object named listed, unpack_object buffer named,
    unpackMembers_of_lookup buffer listed]
  constructor
  · intro within
    obtain ⟨items, read, measured⟩ := each.within within
    rw [read, Outcome.ok_bind]
    refine ⟨_, rfl, ?_⟩
    rw [coverage, width_objectHead, measured]
    exact fun _ same => Json.noConfusion same
  · intro outside
    obtain ⟨size, position, failed⟩ := each.outside outside
    rw [failed]
    exact ⟨size, position, rfl⟩

theorem reads_of_supported {schema : Json} (supported : Supported schema) (buffer : Bytes)
    (offset : Int) :
    Reads buffer offset (leaves schema) coverage (unpack buffer schema offset) := by
  induction supported generalizing buffer offset with
  | leaf leaf named declared sized => exact reads_leaf leaf named declared sized buffer offset
  | object named listed each ih =>
      exact reads_object named listed (reads_entries each ih buffer offset)

/-! ### The bytes that are looked at -/

theorem unpackEntries_congr {entries : List Json} (supported : ∀ entry ∈ entries, Supported entry)
    (each : ∀ entry ∈ entries, ∀ buffer offset other otherOffset,
      Agree buffer offset other otherOffset (leaves entry) →
        unpack buffer entry offset = unpack other entry otherOffset)
    (agree : Agree buffer offset other otherOffset (entryLeaves entries)) :
    unpackEntries buffer entries offset = unpackEntries other entries otherOffset := by
  induction entries generalizing offset otherOffset with
  | nil => rfl
  | cons entry rest ih =>
      rw [List.forall_mem_cons] at supported each
      rw [entryLeaves] at agree
      obtain ⟨front, back⟩ :=
        agree.split supported.1.span_nonneg (span_entryLeaves_nonneg supported.2)
      have first := each.1 buffer offset other otherOffset front
      obtain ⟨value, read, covered⟩ :=
        (reads_of_supported supported.1 buffer offset).within front.here
      rw [coverage_of_unpack supported.1 read] at covered
      rw [unpackEntries, unpackEntries, ← first, read, Outcome.ok_bind, Outcome.ok_bind, covered,
        Outcome.ok_bind, Outcome.ok_bind, ih supported.2 each.2 back]

theorem unpack_congr {schema : Json} (supported : Supported schema)
    (agree : Agree buffer offset other otherOffset (leaves schema)) :
    unpack buffer schema offset = unpack other schema otherOffset := by
  induction supported generalizing buffer offset other otherOffset with
  | @leaf fields kind size leaf named declared sized =>
      rw [leaves_of_leaf leaf named declared] at agree
      obtain ⟨here, there, same⟩ := agree
      have single : span [⟨kind, size⟩] = size := Int.add_zero size
      rw [within_of_ne_nil (List.cons_ne_nil _ _), single] at here there
      rw [single] at same
      rw [unpack_leaf buffer leaf named, unpack_leaf other leaf named, unpackLeaf_eq buffer leaf,
        unpackLeaf_eq other leaf, declared, Outcome.ok_bind, Outcome.ok_bind,
        (readAt_eq_ok sized).mpr ⟨here.1, here.2, rfl⟩,
        (readAt_eq_ok sized).mpr ⟨there.1, there.2, rfl⟩, same]
  | object named listed each ih =>
      rw [leaves_of_object named listed] at agree
      rw [unpack_object buffer named, unpack_object other named,
        unpackMembers_of_lookup buffer listed, unpackMembers_of_lookup other listed,
        unpackEntries_congr each (fun entry member _ _ _ _ same => ih entry member same) agree]

/-! ### Whole schemas -/

theorem reads_of_schema {schema : Json} (supported : SupportedSchema schema) (buffer : Bytes)
    (offset : Int) :
    Reads buffer offset (leaves schema) coverage (unpack buffer schema offset) := by
  cases supported with
  | one supported => exact reads_of_supported supported buffer offset
  | several each =>
      have entries := reads_entries each (fun entry member =>
        reads_of_supported (each entry member)) buffer offset
      rw [leaves, unpack]
      constructor
      · intro within
        obtain ⟨items, read, measured⟩ := entries.within within
        exact ⟨.arr items, by rw [read]; rfl, measured⟩
      · intro outside
        obtain ⟨size, position, failed⟩ := entries.outside outside
        exact ⟨size, position, by rw [failed]; rfl⟩

theorem unpack_schema_congr {schema : Json} (supported : SupportedSchema schema)
    (agree : Agree buffer offset other otherOffset (leaves schema)) :
    unpack buffer schema offset = unpack other schema otherOffset := by
  cases supported with
  | one supported => exact unpack_congr supported agree
  | several each =>
      rw [leaves] at agree
      rw [unpack, unpack,
        unpackEntries_congr each (fun entry member _ _ _ _ same =>
          unpack_congr (each entry member) same) agree]

/-- Unpacking reads exactly its window. A supported schema with a leaf succeeds at an offset exactly
where the span of its leaves lies in the buffer, and is out of bounds anywhere else; what it gives
covers the span, and any other buffer that has the same bytes at some offset gives the same
there. -/
theorem unpack_reads_window {schema : Json} (supported : SupportedSchema schema)
    (some : leaves schema ≠ []) :
    (∀ (buffer : Bytes) (offset : Int),
      if 0 ≤ offset ∧ offset + span (leaves schema) ≤ buffer.length then
        ∃ value, unpack buffer schema offset = .ok value ∧
          coverage value = .ok (span (leaves schema))
      else ∃ size position,
        unpack buffer schema offset = .error (.codec (.outOfBounds size position buffer.length))) ∧
    ∀ (buffer other : Bytes) (offset otherOffset : Int) (value : Json),
      unpack buffer schema offset = .ok value →
      0 ≤ otherOffset ∧ otherOffset + span (leaves schema) ≤ other.length →
      window other otherOffset (span (leaves schema)) =
        window buffer offset (span (leaves schema)) →
      unpack other schema otherOffset = .ok value := by
  constructor
  · intro buffer offset
    have reads := reads_of_schema supported buffer offset
    split
    · exact reads.within ((within_of_ne_nil some).mpr ‹_›)
    · exact reads.outside (mt (within_of_ne_nil some).mp ‹_›)
  · intro buffer other offset otherOffset value read there same
    have here : Within buffer offset (leaves schema) := by
      apply Classical.byContradiction
      intro outside
      obtain ⟨size, position, failed⟩ := (reads_of_schema supported buffer offset).outside outside
      rw [read] at failed
      cases failed
    rw [← read]
    exact unpack_schema_congr supported ⟨(within_of_ne_nil some).mpr there, here, same⟩

def windowSchema : Json :=
  .arr [.obj [("type", .str "object"), ("data", .arr
      [.obj [("type", .str "string"), ("length", .int 2)],
        .obj [("type", .str "object"), ("data", .arr [])]])],
    .obj [("type", .str "bytes"), ("Size", .int 1)]]

/-- Three bytes from the second on are read, and the same bytes at the start of another buffer. -/
theorem unpack_windowSchema :
    ∃ value, unpack [9, 104, 105, 7, 9] windowSchema 1 = .ok value ∧ coverage value = .ok 3 ∧
      unpack [104, 105, 7] windowSchema 0 = .ok value ∧
      ∃ size position,
        unpack [104, 105] windowSchema 0 = .error (.codec (.outOfBounds size position 2)) := by
  have supported : SupportedSchema windowSchema := by
    refine .several fun entry member => ?_
    simp only [List.mem_cons, List.not_mem_nil, or_false] at member
    rcases member with rfl | rfl
    · refine .object rfl rfl fun inner listed => ?_
      simp only [List.mem_cons, List.not_mem_nil, or_false] at listed
      rcases listed with rfl | rfl
      · exact @Supported.leaf _ .string 2 nofun rfl rfl (by decide)
      · exact .object rfl rfl (fun _ none => absurd none List.not_mem_nil)
    · exact @Supported.leaf _ .bytes 1 nofun rfl rfl (by decide)
  have wide : span (leaves windowSchema) = 3 := by decide
  obtain ⟨reads, depends⟩ := unpack_reads_window supported (by decide)
  rw [wide] at reads depends
  obtain ⟨value, read, covered⟩ := reads [9, 104, 105, 7, 9] 1
  exact ⟨value, read, covered, depends _ _ _ _ value read (by decide) rfl, reads [104, 105] 0⟩

end TxTemplate.TypedData
