import TxTemplate.Proofs.TypedData.Pieces

set_option autoImplicit false

/-! The integers that a value holds, at any depth, and those that reading adds to a schema. A reader
may hold its numbers as doubles: an integer above the largest safe one is given as a numeral text,
so a schema without such integers gives a value without them. -/

namespace TxTemplate

namespace Json

mutual
/-- The integers of a value and of all its parts. -/
def integers : Json → List Int
  | .int n => [n]
  | .arr items => itemIntegers items
  | .obj fields => memberIntegers fields
  | _ => []

def itemIntegers : List Json → List Int
  | [] => []
  | item :: rest => integers item ++ itemIntegers rest

def memberIntegers : Fields → List Int
  | [] => []
  | (_, value) :: rest => integers value ++ memberIntegers rest
end

/-- A condition holds of every integer of a value. -/
def Holds (p : Int → Prop) (value : Json) : Prop := ∀ n ∈ value.integers, p n

/-- A value with no integer that a double could miss. -/
abbrev Safe (value : Json) : Prop := value.Holds fun n => n ≤ Scalar.maxSafe

section Holds

variable {p : Int → Prop}

instance [DecidablePred p] (value : Json) : Decidable (value.Holds p) :=
  inferInstanceAs (Decidable (∀ n ∈ _, _))

@[simp] theorem holds_null : Holds p .null := fun _ member => absurd member List.not_mem_nil

@[simp] theorem holds_bool (flag : Bool) : Holds p (.bool flag) :=
  fun _ member => absurd member List.not_mem_nil

@[simp] theorem holds_float (x : Float) : Holds p (.float x) :=
  fun _ member => absurd member List.not_mem_nil

@[simp] theorem holds_str (text : String) : Holds p (.str text) :=
  fun _ member => absurd member List.not_mem_nil

@[simp] theorem holds_int {n : Int} : Holds p (.int n) ↔ p n := List.forall_mem_singleton

@[simp] theorem holds_arr {items : List Json} :
    Holds p (.arr items) ↔ ∀ item ∈ items, item.Holds p := by
  unfold Holds
  rw [integers]
  induction items with
  | nil => exact iff_of_true (List.forall_mem_nil _) (List.forall_mem_nil _)
  | cons item rest ih => rw [itemIntegers, List.forall_mem_append, List.forall_mem_cons, ih]

@[simp] theorem holds_obj {fields : Fields} :
    Holds p (.obj fields) ↔ ∀ field ∈ fields, field.2.Holds p := by
  unfold Holds
  rw [integers]
  induction fields with
  | nil => exact iff_of_true (List.forall_mem_nil _) (List.forall_mem_nil _)
  | cons field rest ih =>
      obtain ⟨key, value⟩ := field
      rw [memberIntegers, List.forall_mem_append, List.forall_mem_cons, ih]

theorem holds_of_lookup {fields : Fields} {key : String} {value : Json}
    (holds : Holds p (.obj fields)) (found : fields.lookup key = some value) : value.Holds p := by
  obtain ⟨before, after, rfl, -⟩ := List.lookup_eq_some_iff.mp found
  exact holds_obj.mp holds (key, value) (by simp)

theorem holds_setField {fields : Fields} {value : Json} (holds : Holds p (.obj fields))
    (added : value.Holds p) (key : String) : Holds p (.obj (setField key value fields)) := by
  rw [holds_obj] at holds ⊢
  induction fields with
  | nil => exact List.forall_mem_singleton.mpr added
  | cons field rest ih =>
      obtain ⟨other, old⟩ := field
      rw [List.forall_mem_cons] at holds
      rw [setField]
      split
      · exact List.forall_mem_cons.mpr ⟨added, holds.2⟩
      · exact List.forall_mem_cons.mpr ⟨holds.1, ih holds.2⟩

end Holds

theorem safe_safeInteger (n : Int) : (Scalar.safeInteger n).Safe := by
  unfold Scalar.safeInteger
  split
  · exact holds_str _
  · rename_i small
    exact holds_int.mpr (Int.not_lt.mp small)

end Json

namespace TypedData

open Json

variable {buffer : Bytes} {offset : Int}

/-! ### Reading -/

theorem lookup_of_declaredSize {fields : Fields} {keys : List String} {size : Int}
    (declared : declaredSize fields keys = .ok size) :
    ∃ key ∈ keys, fields.lookup key = some (.int size) := by
  unfold declaredSize at declared
  dsimp only at declared
  split at declared
  · rename_i first rest found
    obtain rfl := Except.ok.inj declared
    obtain ⟨key, member, same⟩ := List.mem_filterMap.mp (found ▸ List.mem_cons_self)
    refine ⟨key, member, ?_⟩
    split at same
    · rename_i looked
      rw [looked, Option.some.inj same]
    · cases same
  · cases declared

section Filling

variable {p : Int → Prop} (small : ∀ n : Nat, n ≤ Scalar.maxSafe → p n)

include small

/-- The data of a word is small: the narrow words are, and the widest are written so. -/
theorem holds_wordData {word : WordKind} {bytes : Bytes} (length : bytes.length = word.width) :
    (wordData word bytes).Holds p := by
  have bound := LittleEndian.decode_lt bytes
  rw [length] at bound
  cases word with
  | u64 =>
      rw [wordData, Scalar.safeInteger]
      split
      · exact holds_str _
      · rename_i low
        exact holds_int.mpr (small _ (by omega))
  | u8 | u16 | u32 =>
      refine holds_int.mpr (small _ ?_)
      have narrow : 256 ^ WordKind.width .u8 ≤ Scalar.maxSafe ∧
          256 ^ WordKind.width .u16 ≤ Scalar.maxSafe ∧
          256 ^ WordKind.width .u32 ≤ Scalar.maxSafe := by decide
      omega

theorem holds_datum {kind : Kind} {size : Int} {fields : Fields} {bytes : Bytes}
    (known : leafSize kind fields = .ok size) (length : 0 ≤ size → (bytes.length : Int) = size) :
    (datum kind bytes).Holds p := by
  cases kind with
  | word word =>
      obtain rfl : (word.width : Int) = size := Except.ok.inj known
      have whole := length (Int.natCast_nonneg _)
      exact holds_wordData small (by omega)
  | boolean => exact holds_bool _
  | pubkey | bytes | string => exact holds_str _
  | object => exact holds_null

theorem holds_filled {kind : Kind} {size : Int} {fields : Fields} {bytes : Bytes}
    (holds : Holds p (.obj fields)) (known : leafSize kind fields = .ok size)
    (length : 0 ≤ size → (bytes.length : Int) = size) :
    Holds p (.obj (filled kind fields size bytes)) := by
  have data := holds_datum small known length
  cases kind with
  | bytes | string =>
      obtain ⟨key, -, found⟩ := lookup_of_declaredSize known
      exact holds_setField (holds_setField holds (holds_of_lookup holds found) _) data _
  | word _ | boolean | pubkey | object => exact holds_setField holds data _

end Filling

/-! ### Words -/

mutual
/-- The words of a typed value, or of a list of them, with their data, in the order of its
layout. -/
def words : Json → List (WordKind × Option Json)
  | .obj fields =>
    match kind? fields with
    | some .object => memberWords fields
    | some (.word word) => [(word, fields.lookup "data")]
    | _ => []
  | .arr entries => entryWords entries
  | _ => []

def memberWords : Fields → List (WordKind × Option Json)
  | [] => []
  | (key, value) :: rest =>
    if key = "data" then
      match value with
      | .arr entries => entryWords entries
      | _ => []
    else memberWords rest

def entryWords : List Json → List (WordKind × Option Json)
  | [] => []
  | entry :: rest => words entry ++ entryWords rest
end

private theorem memberWords_cons_ne {key : String} (other : ¬ key = "data") (value : Json)
    (rest : Fields) :
    memberWords ((key, value) :: rest) = memberWords rest := by
  cases value <;> exact if_neg other

theorem memberWords_of_lookup {fields : Fields} {entries : List Json}
    (listed : fields.lookup "data" = some (.arr entries)) :
    memberWords fields = entryWords entries := by
  induction fields with
  | nil => cases listed
  | cons field rest ih =>
      obtain ⟨key, value⟩ := field
      by_cases same : key = "data"
      · subst same
        obtain rfl : value = .arr entries := by simpa using listed
        rw [memberWords, if_pos rfl]
      · rw [lookup_cons_ne same] at listed
        rw [memberWords_cons_ne same, ih listed]

@[simp] theorem words_objectHead (fields : Fields) (items : List Json) :
    words (.obj (objectHead fields ++ [("data", .arr items)])) = entryWords items := by
  simp only [words, kind?_objectHead]
  exact memberWords_of_lookup (lookup_data_objectHead fields items)

/-- The word that a slice of a buffer holds, if its leaf is one. -/
def wordOfSlice (slice : Leaf × Bytes) : Option (WordKind × Option Json) :=
  match slice.1.kind with
  | .word word => some (word, some (wordData word slice.2))
  | _ => none

/-! ### What a reader adds -/

/-- What is known of a value that was read: what holds of small numbers and of those of its schema
holds of its own, and its words are those of the bytes at which the leaves of the schema stand. -/
structure Numbers (buffer : Bytes) (offset : Int) (schema value : Json) : Prop where
  holds : ∀ p : Int → Prop, (∀ n : Nat, n ≤ Scalar.maxSafe → p n) → schema.Holds p → value.Holds p
  words : words value = (slices buffer offset (leaves schema)).filterMap wordOfSlice

theorem Numbers.safe {schema value : Json} (numbers : Numbers buffer offset schema value)
    (safe : schema.Safe) : value.Safe :=
  numbers.holds _ (fun _ low => Int.ofNat_le.mpr low) safe

theorem words_filled {kind : Kind} {size : Int} {fields : Fields} {bytes : Bytes}
    (leaf : kind ≠ .object) (named : kind? fields = some kind)
    (same : ∀ word, kind = .word word → bytes = window buffer offset size) :
    words (.obj (filled kind fields size bytes)) =
      (slices buffer offset [⟨kind, size⟩]).filterMap wordOfSlice := by
  rw [words, kind?_filled.trans named]
  cases kind with
  | object => exact absurd rfl leaf
  | word word => rw [lookup_data_filled, same word rfl]; rfl
  | boolean | pubkey | bytes | string => rfl

theorem numbers_unpackLeaf {kind : Kind} {fields : Fields} {value : Json} (leaf : kind ≠ .object)
    (named : kind? fields = some kind) (read : unpackLeaf buffer kind fields offset = .ok value) :
    Numbers buffer offset (.obj fields) value ∧
      width value = .ok (span (leaves (.obj fields))) := by
  rw [unpackLeaf_eq buffer leaf] at read
  obtain ⟨size, known, rest⟩ := Outcome.bind_eq_ok.mp read
  obtain ⟨bytes, taken, same⟩ := Outcome.bind_eq_ok.mp rest
  obtain rfl := Except.ok.inj same
  have single : span [⟨kind, size⟩] = size := Int.add_zero size
  rw [leaves_of_leaf leaf named known, single]
  refine ⟨⟨fun p small holds => holds_filled small holds known fun sized => ?_, ?_⟩,
    width_filled leaf named known⟩
  · obtain ⟨start, stop, rfl⟩ := (readAt_eq_ok sized).mp taken
    exact length_window (.inr ⟨start, stop⟩) sized
  · rw [leaves_of_leaf leaf named known]
    refine words_filled leaf named ?_
    rintro word rfl
    obtain rfl : (word.width : Int) = size := Except.ok.inj known
    exact ((readAt_eq_ok (Int.natCast_nonneg _)).mp taken).2.2

theorem holds_objectHead {p : Int → Prop} {fields : Fields} {items : List Json}
    (holds : Holds p (.obj fields)) (each : ∀ item ∈ items, item.Holds p) :
    Holds p (.obj (objectHead fields ++ [("data", .arr items)])) := by
  rw [holds_obj, List.forall_mem_append, List.forall_mem_singleton]
  refine ⟨?_, holds_arr.mpr each⟩
  unfold objectHead
  split
  · rename_i name found
    rw [List.forall_mem_cons, List.forall_mem_singleton]
    exact ⟨holds_str _, holds_of_lookup holds found⟩
  · rw [List.forall_mem_singleton]
    exact holds_str _

/-- Entries are read one behind the other, so each one's words stand behind those of the entries
before it. -/
theorem numbers_unpackEntries {entries items : List Json}
    (each : ∀ entry ∈ entries, ∀ fields offset value, entry = .obj fields →
      unpack buffer entry offset = .ok value →
        Numbers buffer offset entry value ∧ width value = .ok (span (leaves entry)))
    (read : unpackEntries buffer entries offset = .ok items) :
    (∀ p : Int → Prop, (∀ n : Nat, n ≤ Scalar.maxSafe → p n) →
        (∀ entry ∈ entries, entry.Holds p) → ∀ item ∈ items, item.Holds p) ∧
      entryWords items = (slices buffer offset (entryLeaves entries)).filterMap wordOfSlice ∧
      entriesWidth items = .ok (span (entryLeaves entries)) := by
  induction entries generalizing offset items with
  | nil =>
      obtain rfl : [] = items := Except.ok.inj read
      exact ⟨fun _ _ _ _ member => absurd member List.not_mem_nil, rfl, rfl⟩
  | cons entry rest ih =>
      rw [List.forall_mem_cons] at each
      obtain ⟨item, itemRead, later⟩ := Outcome.bind_eq_ok.mp read
      obtain ⟨covered, measured, last⟩ := Outcome.bind_eq_ok.mp later
      obtain ⟨others, othersRead, same⟩ := Outcome.bind_eq_ok.mp last
      obtain rfl : item :: others = items := Except.ok.inj same
      obtain ⟨fields, object⟩ := schema_of_width itemRead measured
      obtain ⟨first, wide⟩ := each.1 fields offset item object itemRead
      obtain rfl := Except.ok.inj (measured.symm.trans wide)
      obtain ⟨holds, words, width⟩ := ih each.2 othersRead
      refine ⟨fun p small all => ?_, ?_, ?_⟩
      · rw [List.forall_mem_cons] at all ⊢
        exact ⟨first.holds p small all.1, holds p small all.2⟩
      · rw [entryWords, entryLeaves, slices_append, List.filterMap_append, first.words, words]
      · rw [entriesWidth, entryLeaves, span_append, wide, width]
        rfl

theorem numbers_unpack_obj {fields : Fields} {value : Json}
    (read : unpack buffer (.obj fields) offset = .ok value) :
    Numbers buffer offset (.obj fields) value ∧
      width value = .ok (span (leaves (.obj fields))) := by
  induction same : Json.obj fields using Json.entryInduction "data" generalizing fields offset
    value with
  | step schema each =>
      subst same
      obtain ⟨kind, named⟩ := kind?_of_unpack read
      by_cases object : kind = .object
      · subst object
        rw [unpack_object buffer named] at read
        obtain ⟨items, members, same⟩ := Outcome.bind_eq_ok.mp read
        obtain rfl := Except.ok.inj same
        obtain ⟨entries, listed, itemsRead⟩ := lookup_of_unpackMembers members
        obtain ⟨holds, words, width⟩ :=
          numbers_unpackEntries (fun entry member inner offset value object
          innerRead => each fields entries rfl listed entry member (object ▸ innerRead) object.symm)
            itemsRead
        rw [leaves_of_object named listed, width_objectHead]
        refine ⟨⟨fun p small whole => ?_, ?_⟩, width⟩
        · exact holds_objectHead whole
            (holds p small (holds_arr.mp (holds_of_lookup whole listed)))
        · rw [leaves_of_object named listed, words_objectHead, words]
      · rw [unpack_leaf buffer object named] at read
        exact numbers_unpackLeaf object named read

/-- Reading adds no integer but the words of the buffer, and writes the unsafe ones among them as
texts. -/
theorem numbers_unpack {schema value : Json} (read : unpack buffer schema offset = .ok value) :
    Numbers buffer offset schema value := by
  cases schema with
  | obj fields => exact (numbers_unpack_obj read).1
  | arr entries =>
      obtain ⟨items, itemsRead, same⟩ := Outcome.bind_eq_ok.mp read
      obtain rfl := Except.ok.inj same
      obtain ⟨holds, words, -⟩ :=
          numbers_unpackEntries (fun entry _ fields offset value object innerRead => by
        subst object
        exact numbers_unpack_obj innerRead) itemsRead
      exact ⟨fun p small all => holds_arr.mpr (holds p small (holds_arr.mp all)), words⟩
  | null | bool _ | int _ | float _ | str _ => cases read

end TypedData

end TxTemplate
