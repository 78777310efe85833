import TxTemplate.Proofs.Address
import TxTemplate.Proofs.TypedData.Layout
import TxTemplate.Template.Compile

set_option autoImplicit false

/-! Parameters as texts put in place of placeholders. Compiling looks placeholders up at many
places, each at its own time; here all of them are filled in beforehand, once, and the parameters
themselves are not looked at again. Both ways come to the same instruction, the same notes and the
same fault. Entries that are given as the text of a list are set aside: packing looks into them only
when they have been read. -/

namespace TxTemplate

open Placeholder

variable {params : Params}

namespace Placeholder

/-- The value with its parameter in its place; a number that cannot be read stays as it is. -/
def substitute (params : Params) (value : Json) : Json :=
  match resolve params value with
  | .ok resolved => resolved
  | .error _ => value

theorem exists_substitute_str (params : Params) (text : String) :
    ∃ filled, substitute params (.str text) = .str filled := by
  simp only [substitute, resolve]
  cases index? text with
  | error fault => exact ⟨text, rfl⟩
  | ok index =>
      cases index with
      | none => exact ⟨text, rfl⟩
      | some index =>
          cases given : params[index]? with
          | none => exact ⟨text, by simp only [given]⟩
          | some param => exact ⟨param, by simp only [given]⟩

theorem substitute_of_digits?_eq_none (params : Params) {text : String}
    (plain : digits? text.toList = none) :
    substitute params (.str text) = .str text := by
  rw [substitute, resolve_of_digits?_eq_none params plain]

theorem resolve_substitute (readable : ∀ param ∈ params, ¬ IsOversized param) (value : Json) :
    resolve [] (substitute params value) = resolve params value := by
  cases value with
  | null | bool _ | int _ | float _ | arr _ | obj _ => rfl
  | str text =>
      rw [substitute]
      simp only [resolve]
      cases found : index? text with
      | error fault => simp only [found]
      | ok index =>
          cases index with
          | none => simp only [found]
          | some index =>
              cases given : params[index]? with
              | none => simp only [given, found, List.getElem?_nil]
              | some param =>
                  have itself := resolve_nil (readable param (List.mem_of_getElem? given))
                  simpa only [given, resolve] using itself

end Placeholder

namespace Descriptor

mutual
/-- The descriptor with its placeholders filled in: the text itself, and the owner and the mint of a
token account. -/
def substitute (params : Params) : Json → Json
  | .obj fields =>
    if (kindOf fields).isText "ata" then .obj (substituteParts params fields) else .obj fields
  | other => Placeholder.substitute params other

def substituteParts (params : Params) : Fields → Fields
  | [] => []
  | (key, value) :: rest =>
    (key, if key = "owner" ∨ key = "mint" then substitute params value else value) ::
      substituteParts params rest
end

theorem lookup_substituteParts (params : Params) (key : String) (fields : Fields) :
    (substituteParts params fields).lookup key = (fields.lookup key).map fun value =>
      if key = "owner" ∨ key = "mint" then substitute params value else value := by
  induction fields with
  | nil => rfl
  | cons field rest ih =>
      obtain ⟨other, value⟩ := field
      rw [substituteParts, List.lookup_cons, List.lookup_cons]
      by_cases same : key = other
      · subst same
        rw [beq_self_eq_true]
        rfl
      · rw [beq_false_of_ne same]
        exact ih

theorem substitute_of_digits?_eq_none (params : Params) {text : String}
    (plain : digits? text.toList = none) :
    substitute params (.str text) = .str text := by
  rw [substitute, Placeholder.substitute_of_digits?_eq_none params plain]
  exact fun fields same => by cases same

/-- A text is filled in only from the text that it is, or from a placeholder for it. -/
theorem eq_of_substitute_eq_str {descriptor : Json} {text : String}
    (itself : Placeholder.resolve params descriptor = .ok (.str text) → descriptor = .str text)
    (filled : substitute params descriptor = .str text) : descriptor = .str text := by
  cases descriptor with
  | obj fields =>
      rw [substitute] at filled
      split at filled <;> cases filled
  | null | bool _ | int _ | float _ | arr _ => cases filled
  | str other =>
      rw [substitute, Placeholder.substitute] at filled
      · cases resolved : Placeholder.resolve params (.str other) with
        | error fault =>
            rw [resolved] at filled
            exact filled
        | ok value =>
            rw [resolved] at filled
            exact itself (resolved.trans (congrArg Except.ok filled))
      · exact fun fields same => by cases same

theorem substitute_address (params : Params) (address : Address) :
    substitute params (.str address.text) = .str address.text :=
  substitute_of_digits?_eq_none params (Address.digits?_of_read (Address.read_text address))

mutual
theorem resolve_substitute (readable : ∀ param ∈ params, ¬ IsOversized param) (descriptor : Json) :
    resolve [] (substitute params descriptor) = resolve params descriptor := by
  cases descriptor with
  | null | bool _ | int _ | float _ | arr _ => rfl
  | str text =>
      have same := Placeholder.resolve_substitute readable (.str text)
      obtain ⟨filled, here⟩ := exists_substitute_str params text
      rw [here] at same
      rw [substitute, here, resolve, resolve, same]
      exact fun fields same => by cases same
  | obj fields =>
      rw [substitute]
      by_cases derived : (kindOf fields).isText "ata" = true
      · have kept : kindOf (substituteParts params fields) = kindOf fields := by
          rw [kindOf, kindOf, lookup_substituteParts]
          simp
        rw [if_pos derived, resolve, resolve, kept, if_pos derived, if_pos derived,
          lookup_substituteParts, lookup_substituteParts, Option.isNone_map, Option.isNone_map,
          resolveField_substituteParts readable "owner" (.inl rfl) fields,
          resolveField_substituteParts readable "mint" (.inr rfl) fields]
      · rw [if_neg derived, resolve, resolve, if_neg derived, if_neg derived]

theorem resolveField_substituteParts (readable : ∀ param ∈ params, ¬ IsOversized param)
    (key : String)
    (part : key = "owner" ∨ key = "mint") (fields : Fields) :
    resolveField [] key (substituteParts params fields) = resolveField params key fields := by
  cases fields with
  | nil => rfl
  | cons field rest =>
      obtain ⟨other, value⟩ := field
      rw [substituteParts, resolveField, resolveField]
      by_cases same : other = key
      · rw [if_pos same, if_pos same, if_pos (same ▸ part), resolve_substitute readable value]
      · rw [if_neg same, if_neg same, resolveField_substituteParts readable key part rest]
end

end Descriptor

namespace TypedData

mutual
/-- The data with its placeholders filled in: the text itself, the entries of a byte array, and the
data of a typed value as its kind reads it. -/
def substitute (params : Params) : Json → Json
  | .arr items => .arr (items.map (Placeholder.substitute params))
  | .obj fields =>
    match kindOf fields with
    | .ok kind => .obj (substituteMembers params kind fields)
    | .error _ => .obj fields
  | literal => Placeholder.substitute params literal

def substituteMembers (params : Params) (kind : Kind) : Fields → Fields
  | [] => []
  | (key, value) :: rest =>
    if key = "data" then
      (key, match kind with
        | .pubkey => Descriptor.substitute params value
        | .bytes | .string => substitute params value
        | .object =>
          match value with
          | .arr entries => .arr (substituteEntries params entries)
          | other => Placeholder.substitute params other
        | .word _ | .boolean => Placeholder.substitute params value) ::
        substituteMembers params kind rest
    else (key, value) :: substituteMembers params kind rest

def substituteEntries (params : Params) : List Json → List Json
  | [] => []
  | entry :: rest => substitute params entry :: substituteEntries params rest
end

mutual
/-- Packing comes to no typed object whose entries are given as a text. An entry is packed only if
those before it were. -/
def MeetsNoText (params : Params) : Json → Prop
  | .obj fields =>
    match kindOf fields with
    | .ok kind => MembersMeetNoText params kind fields
    | .error _ => True
  | _ => True

def MembersMeetNoText (params : Params) (kind : Kind) : Fields → Prop
  | [] => True
  | (key, value) :: rest =>
    if key = "data" then
      match kind with
      | .bytes | .string => MeetsNoText params value
      | .object =>
        match value with
        | .arr entries => EntriesMeetNoText params entries
        | .str _ => False
        | _ => True
      | .word _ | .boolean | .pubkey => True
    else MembersMeetNoText params kind rest

def EntriesMeetNoText (params : Params) : List Json → Prop
  | [] => True
  | entry :: rest =>
    MeetsNoText params entry ∧
      ((∃ bytes, (pack params entry).outcome = .ok bytes) → EntriesMeetNoText params rest)
end

private theorem substituteMembers_cons_ne (params : Params) (kind : Kind) {key : String}
    (other : ¬ key = "data") (value : Json) (rest : Fields) :
    substituteMembers params kind ((key, value) :: rest) =
      (key, value) :: substituteMembers params kind rest := by
  cases kind <;> cases value <;> exact if_neg other

private theorem exists_substituteMembers_data (params : Params) (kind : Kind) (value : Json)
    (rest : Fields) :
    ∃ filled, substituteMembers params kind (("data", value) :: rest) =
      ("data", filled) :: substituteMembers params kind rest := by
  cases kind <;> cases value <;> exact ⟨_, rfl⟩

theorem lookup_substituteMembers (params : Params) (kind : Kind) {key : String}
    (other : key ≠ "data")
    (fields : Fields) : (substituteMembers params kind fields).lookup key = fields.lookup key := by
  induction fields with
  | nil => rfl
  | cons field rest ih =>
      obtain ⟨name, value⟩ := field
      by_cases same : name = "data"
      · subst same
        obtain ⟨filled, here⟩ := exists_substituteMembers_data params kind value rest
        rw [here, lookup_cons_ne other.symm, lookup_cons_ne other.symm, ih]
      · rw [substituteMembers_cons_ne params kind same, List.lookup_cons, List.lookup_cons, ih]

theorem packArray_substitute (readable : ∀ param ∈ params, ¬ IsOversized param)
    (items : List Json) :
    packArray [] (items.map (Placeholder.substitute params)) = packArray params items := by
  induction items with
  | nil => rfl
  | cons item rest ih =>
      rw [List.map_cons, packArray, packArray, packEntry, packEntry,
        Placeholder.resolve_substitute readable item, ih]

/-- The data of a string is a text, filled in and cut to its length, or data like any other. -/
private theorem packMember_string_substituteMembers
    (readable : ∀ param ∈ params, ¬ IsOversized param)
    {onFilled onEntries : List Json → Traced Bytes} (whole rest : Fields) {value : Json}
    (inner : packWith onFilled [] (substitute params value) = packWith onEntries params value) :
    packMember onFilled [] .string (substituteMembers params .string whole)
        (substituteMembers params .string (("data", value) :: rest)) =
      packMember onEntries params .string whole (("data", value) :: rest) := by
  rw [substituteMembers, if_pos rfl]
  cases value with
  | str text =>
      have sized : textLength? (substituteMembers params .string whole) = textLength? whole := by
        rw [textLength?, textLength?, lookup_substituteMembers params .string (by decide)]
      have resolved := Placeholder.resolve_substitute readable (.str text)
      obtain ⟨filled, here⟩ := exists_substitute_str params text
      rw [here] at resolved
      have written : substitute params (.str text) = .str filled := here
      rw [written, packMember_string_text, packMember_string_text, resolved]
      simp only [packText, sized]
  | null | bool _ | int _ | float _ | arr _ => exact inner
  | obj fields =>
      simp only [substitute] at inner ⊢
      cases named : kindOf fields with
      | error fault =>
          rw [named] at inner
          exact inner
      | ok kind =>
          rw [named] at inner
          exact inner

mutual
theorem packWith_substitute (readable : ∀ param ∈ params, ¬ IsOversized param)
    (onFilled onEntries : List Json → Traced Bytes) (value : Json)
    (listed : MeetsNoText params value) :
    packWith onFilled [] (substitute params value) = packWith onEntries params value := by
  cases value with
  | null | bool _ | int _ | float _ => rfl
  | str text =>
      have same := Placeholder.resolve_substitute readable (.str text)
      obtain ⟨filled, here⟩ := exists_substitute_str params text
      rw [here] at same
      have written : substitute params (.str text) = .str filled := here
      rw [written, packWith, packWith, same]
  | arr items => exact packArray_substitute readable items
  | obj fields =>
      rw [substitute]
      rw [MeetsNoText] at listed
      cases named : kindOf fields with
      | error fault =>
          simp only
          rw [packWith, packWith, named]
          rfl
      | ok kind =>
          have kept : kindOf (substituteMembers params kind fields) = .ok kind := by
            rw [← named, kindOf, kindOf, lookup_substituteMembers params kind (by decide)]
          rw [named] at listed
          simp only
          rw [packWith, packWith, kept, named, Traced.liftM_ok_bind, Traced.liftM_ok_bind]
          exact packMember_substituteMembers readable onFilled onEntries kind fields fields listed

theorem packMember_substituteMembers (readable : ∀ param ∈ params, ¬ IsOversized param)
    (onFilled onEntries : List Json → Traced Bytes) (kind : Kind) (whole fields : Fields)
    (listed : MembersMeetNoText params kind fields) :
    packMember onFilled [] kind (substituteMembers params kind whole)
      (substituteMembers params kind fields) =
      packMember onEntries params kind whole fields := by
  cases fields with
  | nil => rfl
  | cons field rest =>
      obtain ⟨key, value⟩ := field
      by_cases same : key = "data"
      · subst same
        cases kind with
        | word _ =>
            rw [substituteMembers, if_pos rfl, packMember_word, packMember_word,
              Placeholder.resolve_substitute readable value]
        | boolean =>
            rw [substituteMembers, if_pos rfl, packMember_boolean, packMember_boolean,
              Placeholder.resolve_substitute readable value]
        | pubkey =>
            rw [substituteMembers, if_pos rfl, packMember_pubkey, packMember_pubkey,
              Descriptor.resolve_substitute readable value]
        | bytes =>
            have sized : byteSize? (substituteMembers params .bytes whole) = byteSize? whole := by
              rw [byteSize?, byteSize?, lookup_substituteMembers params .bytes (by decide),
                lookup_substituteMembers params .bytes (by decide)]
            rw [MembersMeetNoText, if_pos rfl] at listed
            rw [substituteMembers, if_pos rfl, packMember_bytes, packMember_bytes, sized,
              packWith_substitute readable onFilled onEntries value listed]
        | string =>
            rw [MembersMeetNoText, if_pos rfl] at listed
            exact packMember_string_substituteMembers readable whole rest
              (packWith_substitute readable onFilled onEntries value listed)
        | object =>
            cases value with
            | arr entries =>
                rw [MembersMeetNoText, if_pos rfl] at listed
                rw [substituteMembers, if_pos rfl, packMember_object_list, packMember_object_list,
                  packEntries_substituteEntries readable onFilled onEntries entries listed]
            | str text => exact listed.elim
            | null | bool _ | int _ | float _ | obj _ => rfl
      · have reached : MembersMeetNoText params kind rest := by
          cases kind <;> cases value <;> exact (if_neg same).mp listed
        rw [substituteMembers_cons_ne params kind same, packMember_cons_ne onFilled [] kind _ same,
          packMember_cons_ne onEntries params kind whole same]
        exact packMember_substituteMembers readable onFilled onEntries kind whole rest reached

theorem packEntries_substituteEntries (readable : ∀ param ∈ params, ¬ IsOversized param)
    (onFilled onEntries : List Json → Traced Bytes) (entries : List Json)
    (listed : EntriesMeetNoText params entries) :
    packEntries onFilled [] (substituteEntries params entries) =
      packEntries onEntries params entries := by
  cases entries with
  | nil => rfl
  | cons entry rest =>
      rw [EntriesMeetNoText] at listed
      obtain ⟨first, later⟩ := listed
      have here := packWith_substitute readable onFilled onEntries entry first
      rw [substituteEntries, packEntries, packEntries, here]
      apply Traced.bind_congr_of_outcome
      intro bytes packed
      -- The entry is packed without looking into texts, so what they are packed by does not matter.
      have reached : (pack params entry).outcome = .ok bytes := by
        rw [pack_eq, ← packWith_substitute readable onFilled _ entry first, here, packed]
      rw [packEntries_substituteEntries readable onFilled onEntries rest (later ⟨bytes, reached⟩)]
end

/-- Data with its placeholders filled in packs like the data with its parameters. -/
theorem pack_substitute (readable : ∀ param ∈ params, ¬ IsOversized param) {value : Json}
    (listed : MeetsNoText params value) :
    pack [] (substitute params value) = pack params value :=
  packWith_substitute readable _ _ value listed

end TypedData

namespace Shorthand

def names : List String := ["set_cu_limit", "transfer", "create_ata", "close_ata"]

/-- The arguments of a shorthand that are descriptors of addresses. -/
def addressKeys : Json → List String
  | .str "transfer" => ["from", "to"]
  | .str "create_ata" => ["owner", "mint"]
  | .str "close_ata" => ["owner", "mint"]
  | _ => []

def numberKeys : Json → List String
  | .str "set_cu_limit" => ["limit"]
  | .str "transfer" => ["amount"]
  | _ => []

/-- A field of a template with its placeholders filled in, if the shorthand takes it as an
argument. -/
def substituteArgument (params : Params) (program : Json) (key : String) (value : Json) : Json :=
  if key ∈ addressKeys program then Descriptor.substitute params value
  else if key ∈ numberKeys program then Placeholder.substitute params value
  else value

theorem expand_of_not_mem_names {template : InstructionTemplate}
    (other : ∀ name ∈ names, template.program ≠ .str name) : expand template = .ok none := by
  unfold expand
  split
  case h_5 => rfl
  all_goals
    rename_i same
    exact absurd same (other _ (by simp [names]))

theorem eq_of_expand {template full : InstructionTemplate}
    (expanded : expand template = .ok (some full)) :
    (∃ limit, full = computeLimit limit) ∨
    (∃ source destination amount, full = transfer source destination amount) ∨
    (∃ owner mint, full = createAssociated owner mint) ∨
      ∃ owner mint, full = closeAssociated owner mint := by
  unfold expand at expanded
  split at expanded
  · obtain ⟨limit, -, same⟩ := Outcome.bind_eq_ok.mp expanded
    obtain rfl := Option.some.inj (Except.ok.inj same)
    exact .inl ⟨limit, rfl⟩
  · obtain ⟨source, -, rest⟩ := Outcome.bind_eq_ok.mp expanded
    obtain ⟨destination, -, rest⟩ := Outcome.bind_eq_ok.mp rest
    obtain ⟨amount, -, same⟩ := Outcome.bind_eq_ok.mp rest
    obtain rfl := Option.some.inj (Except.ok.inj same)
    exact .inr (.inl ⟨source, destination, amount, rfl⟩)
  · obtain ⟨owner, -, rest⟩ := Outcome.bind_eq_ok.mp expanded
    obtain ⟨mint, -, same⟩ := Outcome.bind_eq_ok.mp rest
    obtain rfl := Option.some.inj (Except.ok.inj same)
    exact .inr (.inr (.inl ⟨owner, mint, rfl⟩))
  · obtain ⟨owner, -, rest⟩ := Outcome.bind_eq_ok.mp expanded
    obtain ⟨mint, -, same⟩ := Outcome.bind_eq_ok.mp rest
    obtain rfl := Option.some.inj (Except.ok.inj same)
    exact .inr (.inr (.inr ⟨owner, mint, rfl⟩))
  · cases expanded

end Shorthand

namespace AccountTemplate

def substitute (params : Params) (account : AccountTemplate) : AccountTemplate :=
  { account with address := Descriptor.substitute params account.address }

end AccountTemplate

namespace InstructionTemplate

/-- The template with its placeholders filled in: program, accounts, data, and the arguments if its
program is a shorthand. -/
def substitute (params : Params) (template : InstructionTemplate) : InstructionTemplate where
  program := Descriptor.substitute params template.program
  data := TypedData.substitute params template.data
  accounts := template.accounts.map (AccountTemplate.substitute params)
  extra := template.extra.map fun field =>
    (field.1, Shorthand.substituteArgument params template.program field.1 field.2)

/-- Compiling comes to no typed object whose entries are given as a text. The data is packed once
the program and the accounts are found; that of a shorthand is its own. -/
def MeetsNoText (params : Params) (template : InstructionTemplate) : Prop :=
  Shorthand.expand template = .ok none →
    (∃ program, Descriptor.resolve params template.program = .ok program) →
      (∃ accounts, resolveAccounts params template.accounts = .ok accounts) →
        TypedData.MeetsNoText params template.data

theorem lookup_map_fields (change : String → Json → Json) (key : String) (fields : Fields) :
    (fields.map fun field => (field.1, change field.1 field.2)).lookup key =
      (fields.lookup key).map (change key) := by
  induction fields with
  | nil => rfl
  | cons field rest ih =>
      obtain ⟨other, value⟩ := field
      rw [List.map_cons, List.lookup_cons, List.lookup_cons]
      by_cases same : key = other
      · subst same
        rw [beq_self_eq_true]
        rfl
      · rw [beq_false_of_ne same]
        exact ih

theorem argument_substitute (params : Params) {template : InstructionTemplate} {name : String}
    (named : template.program = .str name) (plain : digits? name.toList = none) (key : String) :
    (template.substitute params).argument key =
      (template.argument key).map (Shorthand.substituteArgument params (.str name) key) := by
  have kept : (template.substitute params).program = .str name := by
    rw [substitute, named, Descriptor.substitute_of_digits?_eq_none params plain]
  have found : (template.substitute params).extra.lookup key =
      (template.extra.lookup key).map (Shorthand.substituteArgument params (.str name) key) := by
    rw [← named]
    exact lookup_map_fields (Shorthand.substituteArgument params template.program) key
      template.extra
  rw [argument, argument, found, kept, named]
  cases template.extra.lookup key <;> rfl

section Expansions

open Shorthand

theorem substitute_computeLimit (params : Params) (limit : Json) :
    (computeLimit limit).substitute params =
      computeLimit (Placeholder.substitute params limit) := by
  rw [substitute, computeLimit, Descriptor.substitute_address]
  rfl

theorem substitute_transfer (params : Params) (source destination amount : Json) :
    (Shorthand.transfer source destination amount).substitute params =
      Shorthand.transfer (Descriptor.substitute params source)
        (Descriptor.substitute params destination)
        (Placeholder.substitute params amount) := by
  rw [substitute, Shorthand.transfer, Descriptor.substitute_address]
  rfl

theorem substitute_createAssociated (params : Params) (owner mint : Json) :
    (Shorthand.createAssociated owner mint).substitute params =
      Shorthand.createAssociated (Descriptor.substitute params owner)
        (Descriptor.substitute params mint) := by
  have derived : Descriptor.substitute params (Descriptor.associated owner mint) =
      Descriptor.associated (Descriptor.substitute params owner)
        (Descriptor.substitute params mint) := rfl
  simp only [substitute, Shorthand.createAssociated, List.map_cons, List.map_nil,
    AccountTemplate.substitute, derived, Descriptor.substitute_address]
  rfl

theorem substitute_closeAssociated (params : Params) (owner mint : Json) :
    (Shorthand.closeAssociated owner mint).substitute params =
      Shorthand.closeAssociated (Descriptor.substitute params owner)
        (Descriptor.substitute params mint) := by
  have derived : Descriptor.substitute params (Descriptor.associated owner mint) =
      Descriptor.associated (Descriptor.substitute params owner)
        (Descriptor.substitute params mint) := rfl
  simp only [substitute, Shorthand.closeAssociated, List.map_cons, List.map_nil,
    AccountTemplate.substitute, derived, Descriptor.substitute_address]
  rfl

theorem expand_substitute_of_shorthand {template : InstructionTemplate} {name : String}
    (member : name ∈ names) (named : template.program = .str name) :
    expand (template.substitute params) =
      (expand template).map (Option.map (substitute params)) := by
  have unmarked : ∀ name ∈ names, digits? name.toList = none := by decide
  have plain := unmarked name member
  have arguments := argument_substitute params named plain
  have kept : (template.substitute params).program = .str name := by
    rw [substitute, named, Descriptor.substitute_of_digits?_eq_none params plain]
  simp only [names, List.mem_cons, List.not_mem_nil, or_false] at member
  rcases member with rfl | rfl | rfl | rfl
  all_goals simp only [expand, kept, named, arguments]
  · cases template.argument "limit" with
    | error fault => rfl
    | ok limit => exact congrArg (Except.ok ∘ some) (substitute_computeLimit params limit).symm
  · cases template.argument "from" with
    | error fault => rfl
    | ok source =>
        cases template.argument "to" with
        | error fault => rfl
        | ok destination =>
            cases template.argument "amount" with
            | error fault => rfl
            | ok amount =>
                exact congrArg (Except.ok ∘ some)
                  (substitute_transfer params source destination amount).symm
  · cases template.argument "owner" with
    | error fault => rfl
    | ok owner =>
        cases template.argument "mint" with
        | error fault => rfl
        | ok mint =>
            exact congrArg (Except.ok ∘ some) (substitute_createAssociated params owner mint).symm
  · cases template.argument "owner" with
    | error fault => rfl
    | ok owner =>
        cases template.argument "mint" with
        | error fault => rfl
        | ok mint =>
            exact congrArg (Except.ok ∘ some) (substitute_closeAssociated params owner mint).symm

/-- Filling in commutes with expanding, unless a parameter makes the program a shorthand. -/
theorem expand_substitute {template : InstructionTemplate}
    (unnamed : ∀ name ∈ names, Placeholder.resolve params template.program = .ok (.str name) →
      template.program = .str name) :
    expand (template.substitute params) =
      (expand template).map (Option.map (substitute params)) := by
  by_cases shorthand : ∃ name ∈ names, template.program = .str name
  · obtain ⟨name, member, named⟩ := shorthand
    exact expand_substitute_of_shorthand member named
  · have other : ∀ name ∈ names, template.program ≠ .str name := fun name member named =>
      shorthand ⟨name, member, named⟩
    have still : ∀ name ∈ names, (template.substitute params).program ≠ .str name := by
      intro name member named
      exact other name member (Descriptor.eq_of_substitute_eq_str (unnamed name member) named)
    rw [expand_of_not_mem_names other, expand_of_not_mem_names still]
    rfl

end Expansions

theorem resolveAccounts_substitute (readable : ∀ param ∈ params, ¬ IsOversized param)
    (accounts : List AccountTemplate) :
    resolveAccounts [] (accounts.map (AccountTemplate.substitute params)) =
      resolveAccounts params accounts := by
  rw [resolveAccounts, resolveAccounts, List.mapM_map]
  congr 1
  funext account
  exact congrArg (fun address => address >>= fun address =>
    pure (⟨address, account.signer, account.writable⟩ : AccountMeta))
    (Descriptor.resolve_substitute readable account.address)

theorem compileFull_substitute (readable : ∀ param ∈ params, ¬ IsOversized param)
    {template : InstructionTemplate}
    (listed : (∃ program, Descriptor.resolve params template.program = .ok program) →
      (∃ accounts, resolveAccounts params template.accounts = .ok accounts) →
        TypedData.MeetsNoText params template.data) :
    compileFull [] (template.substitute params) = compileFull params template := by
  rw [compileFull, compileFull, substitute, Descriptor.resolve_substitute readable,
    resolveAccounts_substitute readable]
  apply Traced.bind_congr_of_outcome
  intro program named
  apply Traced.bind_congr_of_outcome
  intro accounts found
  rw [TypedData.pack_substitute readable (listed ⟨program, named⟩ ⟨accounts, found⟩)]

/-- The data that a shorthand stands for lists its entries. -/
theorem meetsNoText_of_expand {template full : InstructionTemplate}
    (expanded : Shorthand.expand template = .ok (some full)) :
    TypedData.MeetsNoText params full.data := by
  rcases Shorthand.eq_of_expand expanded with ⟨limit, rfl⟩ | ⟨source, destination, amount, rfl⟩ |
    ⟨owner, mint, rfl⟩ | ⟨owner, mint, rfl⟩
  · exact ⟨trivial, fun _ => ⟨trivial, fun _ => trivial⟩⟩
  · exact ⟨trivial, fun _ => ⟨trivial, fun _ => trivial⟩⟩
  · trivial
  · trivial

/-- Parameters are texts put in place of placeholders, once: a template whose placeholders are
filled in beforehand compiles, without parameters, to the instruction, notes or fault that the
template and its parameters compile to. Parameters may themselves look like placeholders or be tags
of programs; only none may turn the program into a shorthand, and every number among them has to be
readable. -/
theorem compile_substitute (readable : ∀ param ∈ params, ¬ IsOversized param)
    {template : InstructionTemplate} (listed : template.MeetsNoText params)
    (unnamed : ∀ name ∈ Shorthand.names,
      Placeholder.resolve params template.program = .ok (.str name) →
      template.program = .str name) :
    (template.substitute params).compile [] = template.compile params := by
  rw [compile, compile, expand_substitute unnamed]
  cases expanded : Shorthand.expand template with
  | error fault => rfl
  | ok found =>
      cases found with
      | none => exact compileFull_substitute readable (listed expanded)
      | some full => exact compileFull_substitute readable fun _ _ => meetsNoText_of_expand expanded

def markedTemplate : InstructionTemplate where
  program := .str "$1"
  data := .obj [("type", .str "object"), ("data", .arr
    [.obj [("type", .str "u16"), ("data", .str "$3")],
      .obj [("type", .str "bytes"), ("size", .int 3), ("data", .arr [.str "$3", .int 9])],
      .obj [("type", .str "string"), ("data", .str "$2")]])]
  accounts := [⟨.str "$1", true, false⟩]
  extra := []

theorem compile_substitute_markedTemplate :
    (markedTemplate.substitute ["token_program", "$3", "7"]).compile [] =
        markedTemplate.compile ["token_program", "$3", "7"] ∧
      (markedTemplate.compile ["token_program", "$3", "7"]).outcome =
        .ok ⟨Address.tokenProgram, [7, 0, 7, 9, 0, 36, 51],
          [⟨Address.tokenProgram, true, false⟩]⟩ := by
  have readable : ∀ param ∈ ["token_program", "$3", "7"], ¬ IsOversized param := by decide
  have listed : markedTemplate.MeetsNoText ["token_program", "$3", "7"] := fun _ _ _ =>
    ⟨trivial, fun _ => ⟨trivial, fun _ => ⟨trivial, fun _ => trivial⟩⟩⟩
  have unnamed : ∀ name ∈ Shorthand.names,
      Placeholder.resolve ["token_program", "$3", "7"] markedTemplate.program = .ok (.str name) →
        markedTemplate.program = .str name := by
    have program : Placeholder.resolve ["token_program", "$3", "7"] markedTemplate.program =
        .ok (.str "token_program") := rfl
    have other : "token_program" ∉ Shorthand.names := by decide
    intro name member named
    rw [program] at named
    obtain rfl := Json.str.inj (Except.ok.inj named)
    exact absurd member other
  exact ⟨compile_substitute readable listed unnamed, rfl⟩

end InstructionTemplate

end TxTemplate
