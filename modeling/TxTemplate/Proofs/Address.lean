import Mathlib.Data.List.Nodup
import TxTemplate.Address.Descriptor
import TxTemplate.Proofs.Bytes.Base58
import TxTemplate.Proofs.Bytes.LittleEndian
import TxTemplate.Proofs.Outcome
import TxTemplate.Proofs.Placeholder

set_option autoImplicit false

/-! Addresses and their texts determine each other, so distinct texts name distinct addresses and a
list of distinct ones is not longer than there are addresses. The text of an address is nothing else
that a descriptor can be: no placeholder, and no tag of a program. -/

namespace TxTemplate.Address

theorem toList_text (address : Address) : address.text.toList = Base58.encode address.bytes := by
  rw [Address.text, Base58.text, String.toList_ofList]

private theorem utf8ByteSize_digits (values : List Nat) (small : ∀ value ∈ values, value < 58) :
    (String.ofList (values.map Base58.digit)).utf8ByteSize = values.length := by
  have width : ∀ value < 58, (Base58.digit value).utf8Size = 1 := by decide
  induction values with
  | nil => rfl
  | cons value rest ih =>
      rw [List.map_cons, String.ofList_cons, String.utf8ByteSize_append,
        String.utf8ByteSize_singleton, width value (small value List.mem_cons_self),
        ih fun other member => small other (List.mem_cons_of_mem value member), List.length_cons,
        Nat.add_comm]

theorem utf8ByteSize_text_le (address : Address) : address.text.utf8ByteSize ≤ maxTextBytes := by
  have short : (Base58.encode address.bytes).length ≤ maxTextBytes := by
    apply Base58.length_encode_le
    · rw [address.length_bytes]
      decide
    · rw [address.length_bytes]
      decide
  rw [Address.text, Base58.text, Base58.encode_eq_map_values,
    utf8ByteSize_digits _ (Base58.values_lt address.bytes)]
  rwa [Base58.encode_eq_map_values, List.length_map] at short

theorem read_text (address : Address) : read address.text = .ok address := by
  rw [read, if_neg (Nat.not_lt.mpr (utf8ByteSize_text_le address)), toList_text,
    Base58.decode_encode]
  simp only [ofBytes?_bytes]

theorem text_of_read {text : String} {address : Address} (named : read text = .ok address) :
    address.text = text := by
  unfold read at named
  split at named
  · cases named
  · cases decoded : Base58.decode text.toList with
    | none =>
        rw [decoded] at named
        cases named
    | some bytes =>
        rw [decoded] at named
        by_cases sized : bytes.length = 32
        · obtain rfl : (⟨bytes, sized⟩ : Address) = address := by
            simpa only [ofBytes?, dif_pos sized, Except.ok.injEq] using named
          rw [Address.text, Base58.text, Base58.encode_of_decode decoded, String.ofList_toList]
        · simp only [ofBytes?, dif_neg sized, reduceCtorEq] at named

theorem text_injective : Function.Injective Address.text := by
  intro address other same
  have named := read_text address
  rw [same, read_text other] at named
  exact (Except.ok.inj named).symm

theorem parse_of_read {text : String} {address : Address} (named : read text = .ok address) :
    parse text = .ok address := by
  rw [parse, named]

theorem read_of_parse {text : String} {address : Address} (named : parse text = .ok address) :
    read text = .ok address := by
  rw [parse] at named
  cases given : read text with
  | error flaw =>
      rw [given] at named
      cases named
  | ok other =>
      rw [given] at named
      obtain rfl : other = address := Except.ok.inj named
      rfl

/-! ### What the text of an address is not -/

theorem ofTag?_of_read {text : String} {address : Address} (named : read text = .ok address) :
    ofTag? text = none := by
  have unnamed : ∀ entry ∈ wellKnown, entry.1 ≠ text := by
    intro entry member same
    have refused : ∀ entry ∈ wellKnown, read entry.1 = .error .notBase58 := by decide
    rw [← same, refused entry member] at named
    cases named
  rw [ofTag?, List.lookup_eq_none_iff]
  intro entry member
  exact bne_iff_ne.mpr (fun same => unnamed entry member same.symm)

theorem digits?_of_read {text : String} {address : Address} (named : read text = .ok address) :
    Placeholder.digits? text.toList = none := by
  apply Placeholder.digits?_eq_none_of_head?
  intro dollar
  rw [← text_of_read named, toList_text, Base58.encode_eq_map_values, List.head?_map] at dollar
  obtain ⟨value, first, same⟩ := Option.map_eq_some_iff.mp dollar
  have other : ∀ value < 58, Base58.digit value ≠ '$' := by decide
  exact other value (Base58.values_lt _ value (List.mem_of_head? first)) same

theorem resolve_of_read (params : Params) {text : String} {address : Address}
    (named : read text = .ok address) : Descriptor.resolve params (.str text) = .ok address := by
  simp only [Descriptor.resolve,
    Placeholder.resolve_of_digits?_eq_none params (digits?_of_read named), Json.display,
    Descriptor.resolveText, ofTag?_of_read named, parse_of_read named]

end Address

namespace Descriptor

variable {params : Params} {fields : Fields}

theorem resolveField_of_lookup {key : String} {value : Json}
    (given : fields.lookup key = some value) :
    resolveField params key fields = resolve params value := by
  induction fields with
  | nil => cases given
  | cons field rest ih =>
      obtain ⟨other, first⟩ := field
      rw [resolveField]
      by_cases same : other = key
      · subst same
        obtain rfl : first = value := by simpa using given
        rw [if_pos rfl]
      · rw [List.lookup_cons, beq_eq_false_iff_ne.mpr (Ne.symm same)] at given
        rw [if_neg same, ih given]

/-- An object with an owner and a mint stands for what they derive. -/
theorem resolve_derived {owner mint : Json} (derived : (kindOf fields).isText "ata" = true)
    (ownerGiven : fields.lookup "owner" = some owner)
    (mintGiven : fields.lookup "mint" = some mint) :
    resolve params (.obj fields) = (do
      let ownerAddress ← resolve params owner
      let mintAddress ← resolve params mint
      Address.associated ownerAddress mintAddress) := by
  rw [resolve, if_pos derived]
  simp only [ownerGiven, mintGiven, Option.isNone_some, Bool.false_eq_true, if_false,
    resolveField_of_lookup ownerGiven, resolveField_of_lookup mintGiven]

theorem resolve_associated {owner mint : Json} {ownerAddress mintAddress : Address}
    (ownerResolved : resolve params owner = .ok ownerAddress)
    (mintResolved : resolve params mint = .ok mintAddress) :
    resolve params (associated owner mint) = Address.associated ownerAddress mintAddress := by
  rw [associated, resolve_derived rfl rfl rfl, ownerResolved, Outcome.ok_bind, mintResolved,
    Outcome.ok_bind]

end Descriptor

namespace Address

/-! ### How many addresses there are -/

private theorem decode_bytes_inj {address other : Address}
    (same : LittleEndian.decode address.bytes = LittleEndian.decode other.bytes) :
    address = other := by
  have bytes := congrArg (LittleEndian.encode 32) same
  have first := LittleEndian.encode_decode address.bytes
  have second := LittleEndian.encode_decode other.bytes
  rw [address.length_bytes] at first
  rw [other.length_bytes] at second
  rw [first, second] at bytes
  cases address
  cases other
  cases bytes
  rfl

/-- The number that the bytes of a named address spell. -/
def spelled (text : String) : Nat :=
  match read text with
  | .ok address => LittleEndian.decode address.bytes
  | .error _ => 0

theorem spelled_of_read {text : String} {address : Address} (named : read text = .ok address) :
    spelled text = LittleEndian.decode address.bytes := by
  rw [spelled, named]

theorem spelled_lt {text : String} {address : Address} (named : read text = .ok address) :
    spelled text < 256 ^ 32 := by
  have bound := LittleEndian.decode_lt address.bytes
  rw [address.length_bytes] at bound
  rw [spelled_of_read named]
  exact bound

theorem length_le_of_nodup (texts : List String) (distinct : texts.Nodup)
    (named : ∀ text ∈ texts, ∃ address, read text = .ok address) : texts.length ≤ 256 ^ 32 := by
  have injective : ∀ left ∈ texts, ∀ right ∈ texts, spelled left = spelled right →
      left = right := by
    intro left leftMember right rightMember same
    obtain ⟨address, leftNamed⟩ := named left leftMember
    obtain ⟨other, rightNamed⟩ := named right rightMember
    rw [spelled_of_read leftNamed, spelled_of_read rightNamed] at same
    rw [← text_of_read leftNamed, ← text_of_read rightNamed, decode_bytes_inj same]
  have numbers : (texts.map spelled).Nodup := List.Nodup.map_on injective distinct
  have bounded : texts.map spelled ⊆ List.range (256 ^ 32) := by
    intro value member
    obtain ⟨text, inside, rfl⟩ := List.mem_map.mp member
    obtain ⟨address, given⟩ := named text inside
    exact List.mem_range.mpr (spelled_lt given)
  have count := (List.subperm_of_subset numbers bounded).length_le
  rwa [List.length_map, List.length_range] at count

end TxTemplate.Address
