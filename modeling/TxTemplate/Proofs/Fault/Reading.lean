import TxTemplate.Proofs.Fault.Foreign

set_option autoImplicit false

/-! What leaks through reading. A schema leaks by a kind that is no text. It leaks also where the
refusal cannot be written, but not where its integers, the offset and the length of the buffer can
be: then every position that a reading reaches can be written too. -/

namespace TxTemplate.TypedData

open Outcome

variable {fault : Fault} {buffer : Bytes}

mutual
/-- Every member of a value that gives a kind, at any depth, is a text. -/
def Typed : Json → Prop
  | .arr items => ItemsTyped items
  | .obj fields => MembersTyped fields
  | _ => True

def ItemsTyped : List Json → Prop
  | [] => True
  | item :: rest => Typed item ∧ ItemsTyped rest

def MembersTyped : Fields → Prop
  | [] => True
  | (key, value) :: rest =>
    (key = "type" → ∃ text, value = .str text) ∧ Typed value ∧ MembersTyped rest
end

theorem text_of_membersTyped {fields : Fields} {member : Json} (typed : MembersTyped fields)
    (given : fields.lookup "type" = some member) : ∃ text, member = .str text := by
  induction fields with
  | nil => cases given
  | cons field rest ih =>
      obtain ⟨key, value⟩ := field
      obtain ⟨first, -, others⟩ := typed
      by_cases same : key = "type"
      · subst same
        obtain rfl : value = member := by simpa using given
        exact first rfl
      · rw [lookup_cons_ne same] at given
        exact ih others given

/-- A message can show every number of a schema, the offset at which it is read and the length of
the buffer. -/
structure Shown (buffer : Bytes) (schema : Json) (offset : Int) : Prop where
  schema : schema.isWritable = true
  offset : Decimal.isWritable offset = true
  length : Decimal.isWritable buffer.length = true

theorem Shown.ofEntries {entry : Json} {rest : List Json} {offset : Int}
    (shown : Shown buffer (.arr (entry :: rest)) offset) :
    Shown buffer entry offset ∧
      ∀ behind, Decimal.isWritable behind = true → Shown buffer (.arr rest) behind := by
  obtain ⟨whole, start, length⟩ := shown
  rw [Json.isWritable, Json.itemsWritable, Bool.and_eq_true] at whole
  exact ⟨⟨whole.1, start, length⟩, fun behind known => ⟨whole.2, known, length⟩⟩

theorem Shown.ofMembers {key : String} {value : Json} {rest : Fields} {offset : Int}
    (shown : Shown buffer (.obj ((key, value) :: rest)) offset) :
    Shown buffer value offset ∧ Shown buffer (.obj rest) offset := by
  obtain ⟨whole, start, length⟩ := shown
  rw [Json.isWritable, Json.fieldsWritable, Bool.and_eq_true] at whole
  exact ⟨⟨whole.1, start, length⟩, ⟨whole.2, start, length⟩⟩

/-! ### Positions -/

theorem isWritable_of_lookup {fields : Fields} {key : String} {value : Json}
    (shown : (Json.obj fields).isWritable = true) (given : fields.lookup key = some value) :
    value.isWritable = true :=
  (Json.isWritable_iff_holds value).mpr
    (Json.holds_of_lookup ((Json.isWritable_iff_holds _).mp shown) given)

theorem isWritable_leafSize {kind : Kind} {fields : Fields} {size : Int}
    (shown : (Json.obj fields).isWritable = true) (known : leafSize kind fields = .ok size) :
    Decimal.isWritable size = true := by
  cases kind with
  | bytes | string =>
      obtain ⟨key, -, given⟩ := lookup_of_declaredSize known
      have written := isWritable_of_lookup shown given
      rwa [Json.isWritable] at written
  | word word =>
      obtain rfl := Except.ok.inj known
      exact Decimal.isWritable_of_lt 8 (by decide) (by cases word <;> decide)
  | boolean | pubkey | object =>
      obtain rfl := Except.ok.inj known
      exact Decimal.isWritable_of_lt 8 (by decide) (by decide)

theorem bounds_of_readAt {offset size : Int} {bytes : Bytes}
    (read : readAt buffer offset size = .ok bytes) :
    0 ≤ offset ∧ offset + size ≤ buffer.length := by
  unfold readAt at read
  split_ifs at read with outside
  omega

theorem isWritable_behind {offset size : Int} (start : 0 ≤ offset)
    (stop : offset + size ≤ buffer.length) (sized : Decimal.isWritable size = true)
    (length : Decimal.isWritable buffer.length = true) :
    Decimal.isWritable (offset + size) = true := by
  rw [Decimal.isWritable_iff] at *
  omega

mutual
/-- Reading a schema that can be shown ends at a position that can be shown. -/
theorem isWritable_covered (schema : Json) {offset covered : Int} {value : Json}
    (shown : Shown buffer schema offset) (read : unpack buffer schema offset = .ok value)
    (measured : width value = .ok covered) : Decimal.isWritable (offset + covered) = true := by
  cases schema with
  | null | bool _ | int _ | float _ | str _ => cases read
  | arr entries =>
      obtain ⟨items, -, same⟩ := Outcome.bind_eq_ok.mp read
      obtain rfl := Except.ok.inj same
      cases measured
  | obj fields =>
      obtain ⟨kind, named⟩ := kind?_of_unpack read
      by_cases object : kind = .object
      · subst object
        rw [unpack_object buffer named] at read
        obtain ⟨items, members, same⟩ := Outcome.bind_eq_ok.mp read
        obtain rfl := Except.ok.inj same
        rw [width_objectHead] at measured
        exact isWritable_membersCovered fields shown members measured
      · rw [unpack_leaf buffer object named, unpackLeaf_eq buffer object] at read
        obtain ⟨size, known, rest⟩ := Outcome.bind_eq_ok.mp read
        obtain ⟨bytes, taken, same⟩ := Outcome.bind_eq_ok.mp rest
        obtain rfl := Except.ok.inj same
        obtain rfl := Except.ok.inj (measured.symm.trans (width_filled object named known))
        obtain ⟨start, stop⟩ := bounds_of_readAt taken
        exact isWritable_behind start stop (isWritable_leafSize shown.schema known) shown.length

theorem isWritable_membersCovered (fields : Fields) {offset covered : Int} {items : List Json}
    (shown : Shown buffer (.obj fields) offset)
    (read : unpackMembers buffer fields offset = .ok items)
    (measured : entriesWidth items = .ok covered) :
    Decimal.isWritable (offset + covered) = true := by
  cases fields with
  | nil => cases read
  | cons field rest =>
      obtain ⟨key, value⟩ := field
      obtain ⟨data, others⟩ := shown.ofMembers
      by_cases same : key = "data"
      · subst same
        cases value with
        | arr entries =>
            rw [unpackMembers, if_pos rfl] at read
            exact isWritable_entriesCovered entries data read measured
        | null | bool _ | int _ | float _ | str _ | obj _ => cases read
      · rw [unpackMembers_cons_ne buffer same] at read
        exact isWritable_membersCovered rest others read measured

theorem isWritable_entriesCovered (entries : List Json) {offset covered : Int} {items : List Json}
    (shown : Shown buffer (.arr entries) offset)
    (read : unpackEntries buffer entries offset = .ok items)
    (measured : entriesWidth items = .ok covered) :
    Decimal.isWritable (offset + covered) = true := by
  cases entries with
  | nil =>
      obtain rfl := Except.ok.inj read
      obtain rfl := Except.ok.inj measured
      rw [Int.add_zero]
      exact shown.offset
  | cons entry rest =>
      obtain ⟨here, later⟩ := shown.ofEntries
      obtain ⟨item, itemRead, next⟩ := Outcome.bind_eq_ok.mp read
      obtain ⟨first, firstMeasured, last⟩ := Outcome.bind_eq_ok.mp next
      obtain ⟨others, othersRead, same⟩ := Outcome.bind_eq_ok.mp last
      obtain rfl := Except.ok.inj same
      obtain ⟨again, same, more⟩ := Outcome.bind_eq_ok.mp measured
      obtain rfl := Except.ok.inj (firstMeasured.symm.trans same)
      obtain ⟨behind, othersMeasured, same⟩ := Outcome.bind_eq_ok.mp more
      obtain rfl := Except.ok.inj same
      rw [← Int.add_assoc]
      have position := isWritable_covered entry here itemRead firstMeasured
      exact isWritable_entriesCovered rest (later _ position) othersRead othersMeasured
end

/-! ### Leaks -/

/-- The ways in which reading a schema at an offset leaks. -/
def ReadLeaks (buffer : Bytes) (schema : Json) (offset : Int) (fault : Fault) : Prop :=
  fault = .shape .wrongKind ∧ ¬ Typed schema ∨ fault = .unwritable ∧ ¬ Shown buffer schema offset

theorem ReadLeaks.ofPart {part whole : Json} {behind offset : Int}
    (leaks : ReadLeaks buffer part behind fault) (typed : Typed whole → Typed part)
    (shown : Shown buffer whole offset → Shown buffer part behind) :
    ReadLeaks buffer whole offset fault :=
  leaks.imp (And.imp_right (mt typed)) (And.imp_right (mt shown))

theorem unshown_of_leaks_readAt {offset size : Int}
    (leaks : Leaks (readAt buffer offset size) fault) :
    fault = .unwritable ∧ ¬ (Decimal.isWritable size = true ∧ Decimal.isWritable offset = true ∧
      Decimal.isWritable buffer.length = true) := by
  unfold readAt at leaks
  split_ifs at leaks
  · obtain ⟨long, told⟩ := leaks_codec.mp leaks
    refine ⟨told, ?_⟩
    rintro ⟨sized, start, length⟩
    simp [sized, start, length] at long
  · exact absurd leaks (not_leaks_ok _)

/-- A refused size shows the name of its kind only. -/
theorem not_leaks_leafSize {kind : Kind} {fields : Fields} (named : kind? fields = some kind) :
    ¬ Leaks (leafSize kind fields) fault := by
  obtain ⟨name, given, -⟩ := kind?_eq_some.mp named
  have declared : ∀ keys, ¬ Leaks (declaredSize fields keys) fault := fun keys => by
    unfold declaredSize
    dsimp only
    split
    · exact not_leaks_ok _
    · simp [given, Json.isWritable]
  cases kind with
  | bytes | string => exact declared _
  | word _ | boolean | pubkey | object => exact not_leaks_ok _

theorem readLeaks_of_leaf {kind : Kind} {fields : Fields} {offset : Int} (leaf : kind ≠ .object)
    (named : kind? fields = some kind)
    (leaks : Leaks (unpackLeaf buffer kind fields offset) fault) :
    ReadLeaks buffer (.obj fields) offset fault := by
  rw [unpackLeaf_eq buffer leaf, leaks_bind] at leaks
  obtain refused | ⟨size, known, leaks⟩ := leaks
  · exact absurd refused (not_leaks_leafSize named)
  rw [leaks_bind] at leaks
  obtain outside | ⟨bytes, -, filled⟩ := leaks
  · obtain ⟨told, long⟩ := unshown_of_leaks_readAt outside
    exact .inr ⟨told, fun shown =>
      long ⟨isWritable_leafSize shown.schema known, shown.offset, shown.length⟩⟩
  · exact absurd filled (not_leaks_ok _)

/-- What was read can be measured, unless it is a list, and that list is shown in the refusal. -/
theorem unshown_of_leaks_width {schema item : Json} {offset : Int}
    (read : unpack buffer schema offset = .ok item) (leaks : Leaks (width item) fault) :
    fault = .unwritable ∧ ¬ schema.isWritable = true := by
  cases schema with
  | obj fields =>
      rw [(numbers_unpack_obj read).2] at leaks
      exact absurd leaks (not_leaks_ok _)
  | arr entries =>
      have numbers := numbers_unpack read
      obtain ⟨items, -, same⟩ := Outcome.bind_eq_ok.mp read
      obtain rfl := Except.ok.inj same
      obtain ⟨long, told⟩ := leaks_codec.mp leaks
      refine ⟨told, fun shown => ?_⟩
      have low : ∀ n : Nat, n ≤ Scalar.maxSafe → Decimal.isWritable n = true := fun n small =>
        Decimal.isWritable_of_lt 53 (by decide) (Nat.lt_of_le_of_lt small (by decide))
      have written := (Json.isWritable_iff_holds _).mpr
        (numbers.holds _ low ((Json.isWritable_iff_holds _).mp shown))
      exact absurd written (Bool.not_eq_true _ ▸ long)
  | null | bool _ | int _ | float _ | str _ => cases read

theorem readLeaks_of_unnamed {fields : Fields} {offset : Int} (unnamed : kind? fields = none)
    (leaks : Leaks (unpack buffer (.obj fields) offset) fault) :
    ReadLeaks buffer (.obj fields) offset fault := by
  unfold kind? at unnamed
  cases given : fields.lookup "type" with
  | none => simp [unpack, given] at leaks
  | some member =>
      cases member with
      | str name =>
          simp only [given] at unnamed
          simp [unpack, given, Kind.ofMember, unnamed, KindFault.isWritable, Json.isWritable]
            at leaks
      | int n =>
          simp only [unpack, given, Option.getD_some, Kind.ofMember, leaks_codec] at leaks
          refine .inr ⟨leaks.2, fun shown => ?_⟩
          have written := isWritable_of_lookup shown.schema given
          simp [CodecFault.isWritable, KindFault.isWritable, written] at leaks
      | arr _ | obj _ =>
          simp only [unpack, given, Option.getD_some, Kind.ofMember, leaks_shape] at leaks
          refine .inl ⟨leaks, fun typed => ?_⟩
          obtain ⟨text, same⟩ := text_of_membersTyped typed given
          cases same
      | null | bool _ | float _ =>
          simp [unpack, given, Kind.ofMember, KindFault.isWritable, Json.isWritable] at leaks

mutual
theorem readLeaks_of_leaks (schema : Json) (offset : Int)
    (leaks : Leaks (unpack buffer schema offset) fault) : ReadLeaks buffer schema offset fault := by
  cases schema with
  | null | bool _ | int _ | float _ | str _ => exact nomatch (leaks_codec.mp leaks).1
  | arr entries =>
      rw [unpack, leaks_bind] at leaks
      obtain leaks | ⟨items, -, done⟩ := leaks
      · exact readLeaks_of_leaksEntries entries offset leaks
      · exact absurd done (not_leaks_ok _)
  | obj fields =>
      cases named : kind? fields with
      | none => exact readLeaks_of_unnamed named leaks
      | some kind =>
          by_cases object : kind = .object
          · subst object
            rw [unpack_object buffer named, leaks_bind] at leaks
            obtain leaks | ⟨items, -, done⟩ := leaks
            · exact readLeaks_of_leaksMembers fields offset leaks
            · exact absurd done (not_leaks_ok _)
          · rw [unpack_leaf buffer object named] at leaks
            exact readLeaks_of_leaf object named leaks

theorem readLeaks_of_leaksMembers (fields : Fields) (offset : Int)
    (leaks : Leaks (unpackMembers buffer fields offset) fault) :
    ReadLeaks buffer (.obj fields) offset fault := by
  cases fields with
  | nil => exact nomatch (leaks_codec.mp leaks).1
  | cons field rest =>
      obtain ⟨key, value⟩ := field
      by_cases same : key = "data"
      · subst same
        cases value with
        | arr entries =>
            rw [unpackMembers, if_pos rfl] at leaks
            exact (readLeaks_of_leaksEntries entries offset leaks).ofPart
              (fun typed => typed.2.1) fun shown => shown.ofMembers.1
        | null | bool _ | int _ | float _ | str _ | obj _ => exact nomatch (leaks_codec.mp leaks).1
      · rw [unpackMembers_cons_ne buffer same] at leaks
        exact (readLeaks_of_leaksMembers rest offset leaks).ofPart
          (fun typed => typed.2.2) fun shown => shown.ofMembers.2

theorem readLeaks_of_leaksEntries (entries : List Json) (offset : Int)
    (leaks : Leaks (unpackEntries buffer entries offset) fault) :
    ReadLeaks buffer (.arr entries) offset fault := by
  cases entries with
  | nil => exact absurd leaks (not_leaks_ok [])
  | cons entry rest =>
      simp only [unpackEntries, leaks_bind] at leaks
      obtain here | ⟨item, read, measured | ⟨covered, known, there | ⟨items, -, done⟩⟩⟩ := leaks
      · exact (readLeaks_of_leaks entry offset here).ofPart
          (fun typed => typed.1) fun shown => shown.ofEntries.1
      · obtain ⟨told, long⟩ := unshown_of_leaks_width read measured
        exact .inr ⟨told, fun shown => long shown.ofEntries.1.schema⟩
      -- The entry before it was read, so the position behind that can be shown.
      · refine (readLeaks_of_leaksEntries rest _ there).ofPart (fun typed => typed.2)
          fun shown => ?_
        obtain ⟨here, later⟩ := shown.ofEntries
        exact later _ (isWritable_covered entry here read known)
      · exact absurd done (not_leaks_ok _)
end

end TxTemplate.TypedData
