import TxTemplate.Proofs.TypedData.Integers

set_option autoImplicit false

/-! Packed bytes against declared widths. Words, truth values and addresses take the bytes of their
kind, and byte strings and texts are brought to the size that is declared for them. Data of a text
that is no text is packed as it is, whatever length is declared. What such a leaf packs to beyond
its size, or short of it, the bytes of the whole are longer or shorter than its width. -/

namespace TxTemplate.TypedData

mutual
/-- The members of the leaves of a typed value, in the order of its layout. -/
def leafMembers : Json → List Fields
  | .obj fields =>
    match kind? fields with
    | some .object => listedMembers fields
    | some _ => [fields]
    | none => []
  | _ => []

def listedMembers : Fields → List Fields
  | [] => []
  | (key, value) :: rest =>
    if key = "data" then
      match value with
      | .arr entries => entryMembers entries
      | _ => []
    else listedMembers rest

def entryMembers : List Json → List Fields
  | [] => []
  | entry :: rest => leafMembers entry ++ entryMembers rest
end

/-- Whether packing brings a leaf to the size declared for it. The size of a byte string has to be a
number and not negative, under the spelling that packing looks at; that of a text likewise, and its
data a text. -/
def isFitted (fields : Fields) : Bool :=
  match kind? fields with
  | some .bytes => (byteSize? fields).any (0 ≤ ·)
  | some .string =>
    match fields.lookup "data", fields.lookup "length" with
    | some (.str _), some (.int length) => 0 ≤ length
    | _, _ => false
  | some .object => false
  | _ => true

/-- By how many bytes a typed value packs to more than its leaves declare; negative if to fewer. -/
def overhang (params : Params) (fields : Fields) : Int :=
  match (pack params (.obj fields)).outcome with
  | .ok packed => packed.length - span (leaves (.obj fields))
  | .error _ => 0

variable {params : Params} {fields : Fields} {packed : Bytes}

theorem overhang_of_pack (done : (pack params (.obj fields)).outcome = .ok packed) :
    overhang params fields = packed.length - span (leaves (.obj fields)) := by
  rw [overhang, done]

private theorem listedMembers_cons_ne {key : String} (other : ¬ key = "data") (value : Json)
    (rest : Fields) :
    listedMembers ((key, value) :: rest) = listedMembers rest := by
  cases value <;> exact if_neg other

theorem listedMembers_of_lookup {entries : List Json}
    (listed : fields.lookup "data" = some (.arr entries)) :
    listedMembers fields = entryMembers entries := by
  induction fields with
  | nil => cases listed
  | cons field rest ih =>
      obtain ⟨key, value⟩ := field
      by_cases same : key = "data"
      · subst same
        obtain rfl : value = .arr entries := by simpa using listed
        rw [listedMembers, if_pos rfl]
      · rw [lookup_cons_ne same] at listed
        rw [listedMembers_cons_ne same, ih listed]

theorem leafMembers_of_leaf {kind : Kind} (leaf : kind ≠ .object)
    (named : kind? fields = some kind) :
    leafMembers (.obj fields) = [fields] := by
  rw [leafMembers, named]
  cases kind with
  | object => exact absurd rfl leaf
  | word _ | boolean | pubkey | bytes | string => rfl

theorem leafMembers_of_object {entries : List Json} (named : kind? fields = some .object)
    (listed : fields.lookup "data" = some (.arr entries)) :
    leafMembers (.obj fields) = entryMembers entries := by
  rw [leafMembers, named]
  exact listedMembers_of_lookup listed

/-! ### Fitted leaves -/

theorem data_of_pack (done : (pack params (.obj fields)).outcome = .ok packed) :
    ∃ kind value, kind? fields = some kind ∧ fields.lookup "data" = some value ∧
      (packMember (fun entries => packEach (packNested (nestingLimit - 1) params) entries) params
        kind fields [("data", value)]).outcome = .ok packed := by
  rw [pack_eq, packWith, Traced.outcome_bind, Traced.outcome_liftM] at done
  obtain ⟨kind, known, written⟩ := Outcome.bind_eq_ok.mp done
  cases given : fields.lookup "data" with
  | some value =>
      rw [packMember_of_lookup _ params kind fields given] at written
      exact ⟨kind, value, kind?_of_kindOf known, rfl, written⟩
  | none =>
      rw [packMember_of_absent given] at written
      cases written

theorem length_packMember_fixed (onEntries : List Json → Traced Bytes) {kind : Kind} {width : Nat}
    {value : Json}
    (fixed : kind.fixedWidth? = some width)
    (done : (packMember onEntries params kind fields [("data", value)]).outcome = .ok packed) :
    packed.length = width := by
  cases kind with
  | bytes | string | object => cases fixed
  | word word =>
      obtain rfl := Option.some.inj fixed
      rw [packMember_word, Traced.outcome_bind] at done
      obtain ⟨resolved, -, counted⟩ := Outcome.bind_eq_ok.mp done
      rw [Traced.outcome_bind] at counted
      obtain ⟨n, -, written⟩ := Outcome.bind_eq_ok.mp counted
      rw [Traced.outcome_quiet, Scalar.packWord] at written
      split at written
      · cases written
      · obtain rfl := Except.ok.inj written
        exact LittleEndian.length_encode word.width n
  | boolean =>
      obtain rfl := Option.some.inj fixed
      rw [packMember_boolean, Traced.outcome_bind] at done
      obtain ⟨resolved, -, judged⟩ := Outcome.bind_eq_ok.mp done
      rw [Traced.outcome_bind] at judged
      obtain ⟨flag, -, written⟩ := Outcome.bind_eq_ok.mp judged
      obtain rfl := Except.ok.inj written
      rfl
  | pubkey =>
      obtain rfl := Option.some.inj fixed
      rw [packMember_pubkey, Traced.outcome_bind] at done
      obtain ⟨address, -, written⟩ := Outcome.bind_eq_ok.mp done
      obtain rfl := Except.ok.inj written
      exact address.length_bytes

/-- Packing and reading look for the size of a byte string under the same spelling if it is a
number. -/
theorem leafSize_of_byteSize? {size : Int} (declared : byteSize? fields = some size) :
    leafSize .bytes fields = .ok size := by
  unfold byteSize? at declared
  split at declared
  · rename_i found
    obtain rfl := Option.some.inj declared
    simp [leafSize, declaredSize, found]
  · cases declared
  · rename_i absent
    split at declared
    · rename_i found
      obtain rfl := Option.some.inj declared
      simp [leafSize, declaredSize, absent, found]
    · cases declared

theorem length_packMember_bytes (onEntries : List Json → Traced Bytes) {size : Int} {value : Json}
    (declared : byteSize? fields = some size) (sized : 0 ≤ size)
    (done : (packMember onEntries params .bytes fields [("data", value)]).outcome = .ok packed) :
    (packed.length : Int) = size := by
  rw [packMember_bytes, Traced.outcome_bind] at done
  obtain ⟨bytes, -, brought⟩ := Outcome.bind_eq_ok.mp done
  rw [declared] at brought
  exact length_of_fit sized brought

theorem length_packMember_text (onEntries : List Json → Traced Bytes) {length : Int} {text : String}
    (declared : fields.lookup "length" = some (.int length)) (sized : 0 ≤ length)
    (done : (packMember onEntries params .string fields [("data", .str text)]).outcome =
      .ok packed) :
    (packed.length : Int) = length := by
  rw [packMember_string_text, Traced.outcome_bind] at done
  obtain ⟨resolved, -, brought⟩ := Outcome.bind_eq_ok.mp done
  have counted : textLength? fields = some length := by rw [textLength?, declared]
  rw [Traced.outcome_quiet, packText, counted] at brought
  exact length_of_fit sized brought

theorem overhang_of_isFitted (fitted : isFitted fields = true) : overhang params fields = 0 := by
  cases done : (pack params (.obj fields)).outcome with
  | error fault => rw [overhang, done]
  | ok packed =>
      obtain ⟨kind, value, named, given, written⟩ := data_of_pack done
      have sized : ∃ size, kind ≠ .object ∧ leafSize kind fields = .ok size ∧
          (packed.length : Int) = size := by
        cases kind with
        | word _ | boolean | pubkey =>
            exact ⟨_, nofun, rfl, congrArg Nat.cast (length_packMember_fixed _ rfl written)⟩
        | bytes =>
            simp only [isFitted, named, Option.any_eq_true, decide_eq_true_eq] at fitted
            obtain ⟨size, declared, counted⟩ := fitted
            exact ⟨size, nofun, leafSize_of_byteSize? declared,
              length_packMember_bytes _ declared counted written⟩
        | string =>
            simp only [isFitted, named, given] at fitted
            split at fitted
            · rename_i text length texts declared
              obtain rfl := Option.some.inj texts
              exact ⟨length, nofun, by simp [leafSize, declaredSize, declared],
                length_packMember_text _ declared (of_decide_eq_true fitted) written⟩
            · cases fitted
        | object => simp [isFitted, named] at fitted
      obtain ⟨size, leaf, known, length⟩ := sized
      rw [overhang_of_pack done, leaves_of_leaf leaf named known, length]
      simp [span]

/-! ### The whole -/

theorem outcome_pack_entries {entries : List Json} (named : kind? fields = some .object)
    (listed : fields.lookup "data" = some (.arr entries)) :
    (pack params (.obj fields)).outcome = (packEach (pack params) entries).outcome := by
  rw [pack_eq, pack_object _ params named listed, packEntries_eq_packEach]
  rfl

/-- The bytes of a schema that could be read, against those its leaves declare. -/
def Balanced (params : Params) (schema : Json) : Prop :=
  ∀ {buffer packed : Bytes} {offset : Int} {value : Json},
    (pack params schema).outcome = .ok packed →
    unpack buffer schema offset = .ok value → (∃ fields, schema = .obj fields) →
    (packed.length : Int) = span (leaves schema) + ((leafMembers schema).map (overhang params)).sum

theorem balanced_entries {entries : List Json} (each : ∀ entry ∈ entries, Balanced params entry)
    {buffer : Bytes} {offset : Int} {items : List Json}
    (done : (packEach (pack params) entries).outcome = .ok packed)
    (read : unpackEntries buffer entries offset = .ok items) :
    (packed.length : Int) = span (entryLeaves entries) +
      ((entryMembers entries).map (overhang params)).sum := by
  induction entries generalizing offset items packed with
  | nil =>
      obtain rfl := Except.ok.inj done
      rfl
  | cons entry rest ih =>
      rw [List.forall_mem_cons] at each
      rw [packEach, Traced.outcome_bind] at done
      obtain ⟨first, firstDone, later⟩ := Outcome.bind_eq_ok.mp done
      rw [Traced.outcome_bind] at later
      obtain ⟨others, othersDone, joined⟩ := Outcome.bind_eq_ok.mp later
      obtain rfl : first ++ others = packed := Except.ok.inj joined
      obtain ⟨item, itemRead, measured⟩ := Outcome.bind_eq_ok.mp read
      obtain ⟨covered, wide, last⟩ := Outcome.bind_eq_ok.mp measured
      obtain ⟨more, moreRead, -⟩ := Outcome.bind_eq_ok.mp last
      have here := each.1 firstDone itemRead (schema_of_width itemRead wide)
      have there := ih each.2 othersDone moreRead
      rw [entryLeaves, entryMembers, span_append, List.map_append, List.sum_append,
        List.length_append]
      push_cast
      omega

theorem balanced (params : Params) (schema : Json) : Balanced params schema := by
  -- Only an object goes by its entries; any other kind is its own leaf, and balanced by what an
  -- overhang is.
  induction schema using Json.entryInduction "data" with
  | step schema each =>
      intro buffer packed offset value done read object
      obtain ⟨fields, rfl⟩ := object
      obtain ⟨kind, named⟩ := kind?_of_unpack read
      by_cases leaf : kind = .object
      · subst leaf
        rw [unpack_object buffer named] at read
        obtain ⟨items, members, -⟩ := Outcome.bind_eq_ok.mp read
        obtain ⟨entries, listed, itemsRead⟩ := lookup_of_unpackMembers members
        rw [outcome_pack_entries named listed] at done
        rw [leaves_of_object named listed, leafMembers_of_object named listed]
        exact balanced_entries (each fields entries rfl listed) done itemsRead
      · rw [leafMembers_of_leaf leaf named, List.map_singleton, List.sum_singleton,
          overhang_of_pack done]
        omega

/-- What was packed from a typed value and can be read back through it is as long as the width of
what is read, and longer by what its leaves overhang. Where every leaf is fitted, the two lengths
agree. -/
theorem length_pack_eq_width_add_overhang (params : Params) (fields : Fields) (packed : Bytes)
    (value : Json) (done : (pack params (.obj fields)).outcome = .ok packed)
    (read : unpack packed (.obj fields) 0 = .ok value) :
    ∃ size, width value = .ok size ∧
      (packed.length : Int) = size + ((leafMembers (.obj fields)).map (overhang params)).sum ∧
      ((∀ leaf ∈ leafMembers (.obj fields), isFitted leaf = true) → size = packed.length) := by
  have whole := balanced params (.obj fields) done read ⟨fields, rfl⟩
  refine ⟨_, (numbers_unpack_obj read).2, whole, fun fitted => ?_⟩
  have level : ((leafMembers (.obj fields)).map (overhang params)).sum = 0 := by
    apply List.sum_eq_zero
    rw [List.forall_mem_map]
    exact fun leaf member => overhang_of_isFitted (fitted leaf member)
  omega

/-- A number from a parameter, a byte string to be filled up, and a list of bytes as the data of a
text. -/
def overhangingFields : Fields :=
  [("type", .str "object"), ("data", .arr
    [.obj [("type", .str "u16"), ("data", .str "$1")],
      .obj [("type", .str "bytes"), ("Size", .int 4), ("data", .str "0x01")],
      .obj [("type", .str "object"), ("data", .arr
        [.obj [("type", .str "string"), ("length", .int 2),
          ("data", .arr [.int 1, .int 2, .int 3])]])]])]

theorem length_pack_overhangingFields :
    ∃ value, (pack ["500"] (.obj overhangingFields)).outcome = .ok [0xF4, 1, 1, 0, 0, 0, 1, 2, 3] ∧
      unpack [0xF4, 1, 1, 0, 0, 0, 1, 2, 3] (.obj overhangingFields) 0 = .ok value ∧
        width value = .ok 8 ∧
      (leafMembers (.obj overhangingFields)).map (overhang ["500"]) = [0, 0, 1] := by
  have packs : (pack ["500"] (.obj overhangingFields)).outcome =
    .ok [0xF4, 1, 1, 0, 0, 0, 1, 2, 3] := rfl
  have overhangs : (leafMembers (.obj overhangingFields)).map (overhang ["500"]) = [0, 0, 1] := rfl
  obtain ⟨size, measured, lengths, -⟩ :=
    length_pack_eq_width_add_overhang ["500"] overhangingFields _ _ packs rfl
  rw [overhangs] at lengths
  have nine : 9 = size + 1 := by simpa using lengths
  obtain rfl : size = 8 := by omega
  exact ⟨_, packs, rfl, measured, overhangs⟩

/-- Three bytes given as the data of a text of two are packed all three, and two are read back. -/
theorem width_ne_length_pack :
    ¬ ∀ (params : Params) (fields : Fields) (packed : Bytes) (value : Json),
      (pack params (.obj fields)).outcome = .ok packed → unpack packed (.obj fields) 0 = .ok value →
        width value = .ok packed.length := by
  intro equal
  have three := equal [] [("type", .str "string"), ("length", .int 2),
    ("data", .arr [.int 1, .int 2, .int 3])]
    [1, 2, 3] _ rfl rfl
  exact absurd (Except.ok.inj three) (by decide)

end TxTemplate.TypedData
