import TxTemplate.Proofs.Json
import TxTemplate.Proofs.Outcome
import TxTemplate.TypedData.Pack
import TxTemplate.TypedData.Unpack

set_option autoImplicit false

/-! The layout of a schema: its leaves in the order in which they are read, each with its kind and
the number of bytes declared for it. Packing, unpacking and measuring all look at the first member
of a name only, so each is put here in the form of a lookup. -/

namespace TxTemplate.TypedData

/-- A value of a schema that lists no further entries. -/
structure Leaf where
  kind : Kind
  size : Int
  deriving DecidableEq, Repr

/-- The kind that an object names. -/
def kind? (fields : Fields) : Option Kind :=
  match fields.lookup "type" with
  | some (.str name) => Kind.ofName? name
  | _ => none

/-- The number of bytes that a schema declares for a leaf. -/
def leafSize (kind : Kind) (fields : Fields) : Except Fault Int :=
  match kind with
  | .bytes => declaredSize fields ["size", "Size"]
  | .string => declaredSize fields ["length"]
  | kind => .ok (kind.fixedWidth?.getD 0)

mutual
def leaves : Json → List Leaf
  | .obj fields =>
    match kind? fields with
    | some .object => memberLeaves fields
    | some kind =>
      match leafSize kind fields with
      | .ok size => [⟨kind, size⟩]
      | .error _ => []
    | none => []
  | .arr entries => entryLeaves entries
  | _ => []

/-- The leaves of the entries that the first data member lists. -/
def memberLeaves : Fields → List Leaf
  | [] => []
  | (key, value) :: rest =>
    if key = "data" then
      match value with
      | .arr entries => entryLeaves entries
      | _ => []
    else memberLeaves rest

def entryLeaves : List Json → List Leaf
  | [] => []
  | entry :: rest => leaves entry ++ entryLeaves rest
end

/-- The bytes that leaves take together. -/
def span : List Leaf → Int
  | [] => 0
  | leaf :: rest => leaf.size + span rest

@[simp] theorem span_append (first second : List Leaf) :
    span (first ++ second) = span first + span second := by
  induction first with
  | nil => simp [span]
  | cons leaf rest ih => simp only [List.cons_append, span, ih, Int.add_assoc]

theorem span_nonneg (layout : List Leaf) (sized : ∀ leaf ∈ layout, 0 ≤ leaf.size) :
    0 ≤ span layout := by
  induction layout with
  | nil => exact Int.le_refl 0
  | cons leaf rest ih =>
      have first := sized leaf List.mem_cons_self
      have later := ih fun other member => sized other (List.mem_cons_of_mem leaf member)
      rw [span]
      omega

/-! ### Kinds -/

theorem ofName?_name (kind : Kind) : Kind.ofName? kind.name = some kind := by
  cases kind with
  | word kind => cases kind <;> decide
  | boolean | pubkey | bytes | string | object => decide

theorem kind?_of_name {fields : Fields} {kind : Kind}
    (named : fields.lookup "type" = some (.str kind.name)) : kind? fields = some kind := by
  rw [kind?, named]
  exact ofName?_name kind

theorem ofMember_eq_ok {unknown : Json → KindFault} {member : Json} {kind : Kind} :
    Kind.ofMember unknown member = .ok kind ↔
      ∃ name, member = .str name ∧ Kind.ofName? name = some kind := by
  cases member with
  | str name =>
      cases found : Kind.ofName? name with
      | none => simp [Kind.ofMember, found]
      | some other => simp [Kind.ofMember, found]
  | null | bool _ | int _ | float _ | arr _ | obj _ => simp [Kind.ofMember]

theorem kind?_eq_some {fields : Fields} {kind : Kind} :
    kind? fields = some kind ↔
      ∃ name, fields.lookup "type" = some (.str name) ∧ Kind.ofName? name = some kind := by
  unfold kind?
  constructor
  · intro found
    split at found
    · exact ⟨_, ‹_›, found⟩
    · cases found
  · rintro ⟨name, named, known⟩
    rw [named]
    exact known

theorem ofMember_of_kind? (unknown : Json → KindFault) {fields : Fields} {kind : Kind}
    (named : kind? fields = some kind) :
    Kind.ofMember unknown ((fields.lookup "type").getD .null) = .ok kind := by
  obtain ⟨name, found, known⟩ := kind?_eq_some.mp named
  rw [found]
  exact ofMember_eq_ok.mpr ⟨name, rfl, known⟩

theorem kindOf_of_kind? {fields : Fields} {kind : Kind} (named : kind? fields = some kind) :
    kindOf fields = .ok kind := by
  obtain ⟨name, found, known⟩ := kind?_eq_some.mp named
  rw [kindOf, found]
  exact ofMember_eq_ok.mpr ⟨name, rfl, known⟩

theorem kind?_of_kindOf {fields : Fields} {kind : Kind} (known : kindOf fields = .ok kind) :
    kind? fields = some kind := by
  unfold kindOf at known
  cases given : fields.lookup "type" with
  | none =>
      rw [given] at known
      cases known
  | some member =>
      rw [given] at known
      obtain ⟨name, rfl, found⟩ := ofMember_eq_ok.mp known
      exact kind?_eq_some.mpr ⟨name, given, found⟩

/-! ### Members as lookups -/

theorem lookup_cons_ne {key name : String} {value : Json} {rest : Fields} (other : ¬ key = name) :
    List.lookup name ((key, value) :: rest) = rest.lookup name := by
  rw [List.lookup_cons, beq_eq_false_iff_ne.mpr (Ne.symm other)]

private theorem lookup_cons_self {name : String} {value : Json} {rest : Fields} :
    List.lookup name ((name, value) :: rest) = some value := by
  rw [List.lookup_cons, beq_self_eq_true]

-- Where the first member decides, its value has to be a constructor before the definitions unfold.
private theorem memberLeaves_cons_ne {key : String} (other : ¬ key = "data") (value : Json)
    (rest : Fields) : memberLeaves ((key, value) :: rest) = memberLeaves rest := by
  cases value <;> exact if_neg other

private theorem membersWidth_cons_ne {key : String} (other : ¬ key = "data") (value : Json)
    (rest : Fields) : membersWidth ((key, value) :: rest) = membersWidth rest := by
  cases value <;> exact if_neg other

theorem unpackMembers_cons_ne (buffer : Bytes) {key : String} (other : ¬ key = "data")
    (value : Json) (rest : Fields) (offset : Int) :
    unpackMembers buffer ((key, value) :: rest) offset = unpackMembers buffer rest offset := by
  cases value <;> exact if_neg other

theorem memberLeaves_of_lookup {fields : Fields} {entries : List Json}
    (listed : fields.lookup "data" = some (.arr entries)) :
    memberLeaves fields = entryLeaves entries := by
  induction fields with
  | nil => cases listed
  | cons field rest ih =>
      obtain ⟨key, value⟩ := field
      by_cases same : key = "data"
      · subst same
        rw [lookup_cons_self] at listed
        obtain rfl := Option.some.inj listed
        rw [memberLeaves, if_pos rfl]
      · rw [lookup_cons_ne same] at listed
        rw [memberLeaves_cons_ne same, ih listed]

theorem leaves_of_object {fields : Fields} {entries : List Json}
    (named : kind? fields = some .object)
    (listed : fields.lookup "data" = some (.arr entries)) :
    leaves (.obj fields) = entryLeaves entries := by
  rw [leaves, named]
  exact memberLeaves_of_lookup listed

theorem leaves_of_leaf {fields : Fields} {kind : Kind} {size : Int} (leaf : kind ≠ .object)
    (named : kind? fields = some kind) (known : leafSize kind fields = .ok size) :
    leaves (.obj fields) = [⟨kind, size⟩] := by
  rw [leaves, named]
  cases kind with
  | object => exact absurd rfl leaf
  | word _ | boolean | pubkey | bytes | string => simp only [known]

theorem membersWidth_of_lookup {fields : Fields} {entries : List Json}
    (listed : fields.lookup "data" = some (.arr entries)) :
    membersWidth fields = entriesWidth entries := by
  induction fields with
  | nil => cases listed
  | cons field rest ih =>
      obtain ⟨key, value⟩ := field
      by_cases same : key = "data"
      · subst same
        rw [lookup_cons_self] at listed
        obtain rfl := Option.some.inj listed
        rw [membersWidth, if_pos rfl]
      · rw [lookup_cons_ne same] at listed
        rw [membersWidth_cons_ne same, ih listed]

theorem unpackMembers_of_lookup (buffer : Bytes) {fields : Fields} {entries : List Json}
    (listed : fields.lookup "data" = some (.arr entries)) (offset : Int) :
    unpackMembers buffer fields offset = unpackEntries buffer entries offset := by
  induction fields with
  | nil => cases listed
  | cons field rest ih =>
      obtain ⟨key, value⟩ := field
      by_cases same : key = "data"
      · subst same
        rw [lookup_cons_self] at listed
        obtain rfl := Option.some.inj listed
        rw [unpackMembers, if_pos rfl]
      · rw [lookup_cons_ne same] at listed
        rw [unpackMembers_cons_ne buffer same, ih listed]

theorem lookup_of_unpackMembers {buffer : Bytes} {fields : Fields} {offset : Int}
    {items : List Json} (read : unpackMembers buffer fields offset = .ok items) :
    ∃ entries, fields.lookup "data" = some (.arr entries) ∧
      unpackEntries buffer entries offset = .ok items := by
  induction fields with
  | nil => cases read
  | cons field rest ih =>
      obtain ⟨key, value⟩ := field
      by_cases same : key = "data"
      · subst same
        cases value with
        | arr entries =>
            rw [unpackMembers, if_pos rfl] at read
            exact ⟨entries, lookup_cons_self, read⟩
        | null | bool _ | int _ | float _ | str _ | obj _ => cases read
      · rw [unpackMembers_cons_ne buffer same] at read
        obtain ⟨entries, listed, inner⟩ := ih read
        exact ⟨entries, by rw [lookup_cons_ne same, listed], inner⟩

section Members

variable (onEntries : List Json → Traced Bytes) (params : Params) (whole rest : Fields)

theorem packMember_word (word : WordKind) (value : Json) :
    packMember onEntries params (.word word) whole (("data", value) :: rest) = (do
      let resolved ← Placeholder.resolve params value
      let n ← Scalar.natural resolved
      Traced.quiet (Scalar.packWord word n)) := rfl

theorem packMember_boolean (value : Json) :
    packMember onEntries params .boolean whole (("data", value) :: rest) = (do
      let resolved ← Placeholder.resolve params value
      let flag ← Scalar.boolean resolved
      pure [if flag then 1 else 0]) := rfl

theorem packMember_pubkey (value : Json) :
    packMember onEntries params .pubkey whole (("data", value) :: rest) = (do
      let address ← Descriptor.resolve params value
      pure address.bytes) := rfl

theorem packMember_bytes (value : Json) :
    packMember onEntries params .bytes whole (("data", value) :: rest) = (do
      let bytes ← packWith onEntries params value
      Traced.quiet (fitTo (byteSize? whole) bytes)) := rfl

theorem packMember_string_text (text : String) :
    packMember onEntries params .string whole (("data", .str text) :: rest) = (do
      let resolved ← Placeholder.resolve params (.str text)
      Traced.quiet (packText whole resolved.display)) := rfl

theorem packMember_object_list (entries : List Json) :
    packMember onEntries params .object whole (("data", .arr entries) :: rest) =
      packEntries onEntries params entries := rfl

theorem packMember_object_text (text : String) :
    packMember onEntries params .object whole (("data", .str text) :: rest) = (do
      let resolved ← Placeholder.resolve params (.str text)
      let entries ← entriesOfText resolved.display
      onEntries entries) := rfl

end Members

theorem packMember_cons_ne (onEntries : List Json → Traced Bytes) (params : Params) (kind : Kind)
    (whole : Fields) {key : String} (other : ¬ key = "data") (value : Json) (rest : Fields) :
    packMember onEntries params kind whole ((key, value) :: rest) =
      packMember onEntries params kind whole rest := by
  cases kind <;> cases value <;> exact if_neg other

/-- A typed value is packed from its first data member. -/
theorem packMember_of_lookup (onEntries : List Json → Traced Bytes) (params : Params) (kind : Kind)
    (whole : Fields) {fields : Fields} {value : Json} (given : fields.lookup "data" = some value) :
    packMember onEntries params kind whole fields =
      packMember onEntries params kind whole [("data", value)] := by
  induction fields with
  | nil => cases given
  | cons field rest ih =>
      obtain ⟨key, other⟩ := field
      by_cases same : key = "data"
      · subst same
        rw [lookup_cons_self] at given
        obtain rfl := Option.some.inj given
        cases kind <;> cases other <;> rfl
      · rw [lookup_cons_ne same] at given
        rw [packMember_cons_ne onEntries params kind whole same, ih given]

theorem packMember_of_absent {onEntries : List Json → Traced Bytes} {params : Params} {kind : Kind}
    {whole fields : Fields} (absent : fields.lookup "data" = none) :
    packMember onEntries params kind whole fields =
      Traced.fail (.codec (.missing (.inValue "data" (.str kind.name)))) := by
  induction fields with
  | nil => rfl
  | cons field rest ih =>
      obtain ⟨key, value⟩ := field
      by_cases same : key = "data"
      · subst same
        simp at absent
      · rw [lookup_cons_ne same] at absent
        rw [packMember_cons_ne onEntries params kind whole same, ih absent]

theorem pack_eq (params : Params) (value : Json) :
    pack params value =
      packWith (fun entries => packEach (packNested (nestingLimit - 1) params) entries) params
        value := rfl

theorem packEntries_eq_packEach (onEntries : List Json → Traced Bytes) (params : Params)
    (entries : List Json) :
    packEntries onEntries params entries = packEach (packWith onEntries params) entries := by
  induction entries with
  | nil => rfl
  | cons entry rest ih => rw [packEntries, packEach, ih]

theorem outcome_packWith_obj (onEntries : List Json → Traced Bytes) (params : Params)
    {fields : Fields}
    {kind : Kind} {value : Json} (named : kind? fields = some kind)
    (given : fields.lookup "data" = some value) :
    (packWith onEntries params (.obj fields)).outcome =
      (packMember onEntries params kind fields [("data", value)]).outcome := by
  rw [packWith, Traced.outcome_bind, Traced.outcome_liftM, kindOf_of_kind? named, Outcome.ok_bind,
    packMember_of_lookup onEntries params kind fields given]

theorem width_obj {fields : Fields} {kind : Kind} (named : kind? fields = some kind) :
    width (.obj fields) =
      match kind with
      | .bytes => declaredSize fields ["size"]
      | .string => declaredSize fields ["length"]
      | .object => membersWidth fields
      | kind => .ok (kind.fixedWidth?.getD 0) := by
  have found := ofMember_of_kind? .measured named
  obtain ⟨name, member, -⟩ := kind?_eq_some.mp named
  simp only [member, Option.getD_some] at found
  simp only [width, member, Option.getD_some, found]
  cases kind <;> rfl

theorem unpack_object (buffer : Bytes) {fields : Fields} (named : kind? fields = some .object)
    (offset : Int) :
    unpack buffer (.obj fields) offset = (do
      let items ← unpackMembers buffer fields offset
      pure (.obj (objectHead fields ++ [("data", .arr items)]))) := by
  have found := ofMember_of_kind? .unpacked named
  obtain ⟨name, member, -⟩ := kind?_eq_some.mp named
  simp only [member, Option.getD_some] at found
  simp only [unpack, member, Option.getD_some, found]

theorem unpack_leaf (buffer : Bytes) {fields : Fields} {kind : Kind} (leaf : kind ≠ .object)
    (named : kind? fields = some kind) (offset : Int) :
    unpack buffer (.obj fields) offset = unpackLeaf buffer kind fields offset := by
  have found := ofMember_of_kind? .unpacked named
  obtain ⟨name, member, -⟩ := kind?_eq_some.mp named
  simp only [member, Option.getD_some] at found
  simp only [unpack, member, Option.getD_some, found]

/-! ### Objects that were read -/

@[simp] theorem kind?_objectHead (fields : Fields) (items : List Json) :
    kind? (objectHead fields ++ [("data", .arr items)]) = some .object := by
  apply kind?_of_name
  unfold objectHead
  split <;> rfl

theorem lookup_data_objectHead (fields : Fields) (items : List Json) :
    (objectHead fields ++ [("data", Json.arr items)]).lookup "data" = some (.arr items) := by
  unfold objectHead
  split <;> rfl

theorem width_objectHead (fields : Fields) (items : List Json) :
    width (.obj (objectHead fields ++ [("data", .arr items)])) = entriesWidth items := by
  rw [width_obj (kind?_objectHead fields items)]
  exact membersWidth_of_lookup (lookup_data_objectHead fields items)

/-- Only objects of a known kind can be read through. -/
theorem kind?_of_unpack {buffer : Bytes} {fields : Fields} {offset : Int} {value : Json}
    (read : unpack buffer (.obj fields) offset = .ok value) : ∃ kind, kind? fields = some kind := by
  cases named : kind? fields with
  | some kind => exact ⟨kind, rfl⟩
  | none =>
      exfalso
      rw [unpack] at read
      split at read
      · cases read
      · split at read
        · cases read
        all_goals
          rename_i found
          obtain ⟨name, member, known⟩ := ofMember_eq_ok.mp found
          cases typed : fields.lookup "type" with
          | none => simp [typed] at member
          | some other =>
              obtain rfl : other = .str name := by simpa [typed] using member
              rw [kind?_eq_some.mpr ⟨name, typed, known⟩] at named
              cases named

end TxTemplate.TypedData
