import Mathlib.Data.List.Nodup
import TxTemplate.Message.Basic
import TxTemplate.Proofs.Address
import TxTemplate.Proofs.Confirmed.Roster
import TxTemplate.Proofs.Message.Keys

set_option autoImplicit false

/-! The groups of a message's keys. Every key stands in the one group of its rights, and the counts
of the header say which one that is: read back from outside, each key has the rights that the
message collected for it. -/

namespace TxTemplate

/-- A key as it is seen from outside: its text, and the rights that the message collected for it. -/
def MessageKeys.entryOf (keys : MessageKeys) (address : Address) : RosterEntry where
  account := address.text
  signer := (keys.rightsAt address).signer
  writable := (keys.rightsAt address).writable

namespace KeyGroups

variable {groups : KeyGroups} {keys : MessageKeys} {payer address : Address}

theorem mem_addresses :
    address ∈ groups.addresses ↔ address ∈ groups.writableSigners ∨
      address ∈ groups.readonlySigners ∨
      address ∈ groups.writableOthers ∨ address ∈ groups.readonlyOthers := by
  simp only [addresses, List.mem_append, or_assoc]

/-- Every key stands in the group of its rights, and no group has a key twice. -/
structure Graded (groups : KeyGroups) (keys : MessageKeys) : Prop where
  writableSigners : ∀ address ∈ groups.writableSigners,
    (keys.rightsAt address).signer = true ∧ (keys.rightsAt address).writable = true
  readonlySigners : ∀ address ∈ groups.readonlySigners,
    (keys.rightsAt address).signer = true ∧ (keys.rightsAt address).writable = false
  writableOthers : ∀ address ∈ groups.writableOthers,
    (keys.rightsAt address).signer = false ∧ (keys.rightsAt address).writable = true
  readonlyOthers : ∀ address ∈ groups.readonlyOthers,
    (keys.rightsAt address).signer = false ∧ (keys.rightsAt address).writable = false
  distinct : groups.writableSigners.Nodup ∧ groups.readonlySigners.Nodup ∧
    groups.writableOthers.Nodup ∧ groups.readonlyOthers.Nodup

theorem Graded.nodup (graded : Graded groups keys) : groups.addresses.Nodup := by
  obtain ⟨first, second, third, fourth⟩ := graded.distinct
  have signers : (groups.writableSigners ++ groups.readonlySigners).Nodup := by
    refine List.Nodup.append first second fun address writes reads => ?_
    have writable := (graded.writableSigners address writes).2
    rw [(graded.readonlySigners address reads).2] at writable
    cases writable
  have others : (groups.writableOthers ++ groups.readonlyOthers).Nodup := by
    refine List.Nodup.append third fourth fun address writes reads => ?_
    have writable := (graded.writableOthers address writes).2
    rw [(graded.readonlyOthers address reads).2] at writable
    cases writable
  have apart : List.Disjoint (groups.writableSigners ++ groups.readonlySigners)
      (groups.writableOthers ++ groups.readonlyOthers) := by
    intro address signs other
    have signer : (keys.rightsAt address).signer = true := by
      rcases List.mem_append.mp signs with member | member
      · exact (graded.writableSigners address member).1
      · exact (graded.readonlySigners address member).1
    have noSigner : (keys.rightsAt address).signer = false := by
      rcases List.mem_append.mp other with member | member
      · exact (graded.writableOthers address member).1
      · exact (graded.readonlyOthers address member).1
    rw [signer] at noSigner
    cases noSigner
  rw [addresses, List.append_assoc]
  exact List.Nodup.append signers others apart

/-! ### Grouping by rights -/

theorem kind_of_mem_having {kept : MessageKey → Bool} {kind : KeyRights → Bool}
    (distinct : (keys.map MessageKey.address).Nodup)
    (member : address ∈ MessageKeys.having (keys.filter kept) kind) :
    kind (keys.rightsAt address) = true := by
  obtain ⟨key, listed, rfl⟩ := List.mem_map.mp member
  obtain ⟨inside, fits⟩ := List.mem_filter.mp listed
  rwa [MessageKeys.rightsAt_of_mem distinct (List.mem_of_mem_filter inside)]

theorem nodup_having {kept : MessageKey → Bool} {kind : KeyRights → Bool}
    (distinct : (keys.map MessageKey.address).Nodup) :
    (MessageKeys.having (keys.filter kept) kind).Nodup :=
  distinct.sublist ((List.filter_sublist.trans List.filter_sublist).map MessageKey.address)

theorem graded_of (distinct : (keys.map MessageKey.address).Nodup)
    (paying : (keys.rightsAt payer).signer = true ∧ (keys.rightsAt payer).writable = true) :
    Graded (of payer keys) keys where
  writableSigners := by
    rw [of, List.forall_mem_cons]
    refine ⟨paying, fun address member => ?_⟩
    have kind := kind_of_mem_having distinct member
    rwa [Bool.and_eq_true] at kind
  readonlySigners := by
    simp only [of]
    intro address member
    have kind := kind_of_mem_having distinct member
    rwa [Bool.and_eq_true, Bool.not_eq_true'] at kind
  writableOthers := by
    simp only [of]
    intro address member
    have kind := kind_of_mem_having distinct member
    rwa [Bool.and_eq_true, Bool.not_eq_true'] at kind
  readonlyOthers := by
    simp only [of]
    intro address member
    have kind := kind_of_mem_having distinct member
    rwa [Bool.and_eq_true, Bool.not_eq_true', Bool.not_eq_true'] at kind
  distinct := by
    simp only [of]
    refine ⟨List.nodup_cons.mpr ⟨fun member => ?_, nodup_having distinct⟩, nodup_having distinct,
      nodup_having distinct, nodup_having distinct⟩
    obtain ⟨key, listed, same⟩ := List.mem_map.mp member
    have other := (List.mem_filter.mp (List.mem_of_mem_filter listed)).2
    rw [same, bne_self_eq_false] at other
    cases other

theorem mem_addresses_of :
    address ∈ (of payer keys).addresses ↔
      address = payer ∨ address ∈ keys.map MessageKey.address := by
  rw [mem_addresses]
  simp only [of]
  constructor
  · have listed {kept : MessageKey → Bool} {kind : KeyRights → Bool}
        (member : address ∈ MessageKeys.having (keys.filter kept) kind) :
        address ∈ keys.map MessageKey.address :=
      (List.filter_sublist.trans List.filter_sublist).map MessageKey.address |>.mem member
    rintro (writableSigner | readonlySigner | writableOther | readonlyOther)
    · rcases List.mem_cons.mp writableSigner with paying | member
      · exact .inl paying
      · exact .inr (listed member)
    · exact .inr (listed readonlySigner)
    · exact .inr (listed writableOther)
    · exact .inr (listed readonlyOther)
  · intro member
    by_cases paying : address = payer
    · exact .inl (List.mem_cons.mpr (.inl paying))
    · obtain ⟨key, listed, rfl⟩ := List.mem_map.mp (member.resolve_left paying)
      have other : key ∈ keys.filter fun key => key.address != payer :=
        List.mem_filter.mpr ⟨listed, bne_iff_ne.mpr paying⟩
      have placed {kind : KeyRights → Bool} (fits : kind key.rights = true) :
          key.address ∈ MessageKeys.having (keys.filter fun key => key.address != payer) kind :=
        List.mem_map_of_mem (List.mem_filter.mpr ⟨other, fits⟩)
      cases signs : key.rights.signer with
      | true =>
          cases writes : key.rights.writable with
          | true => exact .inl (List.mem_cons_of_mem _ (placed (by rw [signs, writes]; rfl)))
          | false => exact .inr (.inl (placed (by rw [signs, writes]; rfl)))
      | false =>
          cases writes : key.rights.writable with
          | true => exact .inr (.inr (.inl (placed (by rw [signs, writes]; rfl))))
          | false => exact .inr (.inr (.inr (placed (by rw [signs, writes]; rfl))))

/-! ### The header -/

theorem mem_group_of_getElem? {position : Nat}
    (listed : groups.addresses[position]? = some address) :
    (position < groups.writableSigners.length ∧ address ∈ groups.writableSigners) ∨
    (groups.writableSigners.length ≤ position ∧
      position < groups.writableSigners.length + groups.readonlySigners.length ∧
      address ∈ groups.readonlySigners) ∨
    (groups.writableSigners.length + groups.readonlySigners.length ≤ position ∧
      position + groups.readonlyOthers.length < groups.addresses.length ∧
        address ∈ groups.writableOthers) ∨
    (groups.writableSigners.length + groups.readonlySigners.length ≤ position ∧
      groups.addresses.length ≤ position + groups.readonlyOthers.length ∧
      address ∈ groups.readonlyOthers) := by
  have total : groups.addresses.length = groups.writableSigners.length +
    groups.readonlySigners.length +
      groups.writableOthers.length + groups.readonlyOthers.length := by
    simp only [addresses, List.length_append]
  simp only [addresses, List.getElem?_append, List.length_append] at listed
  split at listed
  · split at listed
    · split at listed
      · exact .inl ⟨‹_›, List.mem_of_getElem? listed⟩
      · exact .inr (.inl ⟨by omega, by omega, List.mem_of_getElem? listed⟩)
    · exact .inr (.inr (.inl ⟨by omega, by omega, List.mem_of_getElem? listed⟩))
  · exact .inr (.inr (.inr ⟨by omega, by omega, List.mem_of_getElem? listed⟩))

/-- From the counts of the header every key gets the rights that the message collected for it. -/
theorem ofKeys_addresses (graded : Graded groups keys) :
    Roster.ofKeys (MessageHeader.ofGroups groups).signers
      (MessageHeader.ofGroups groups).readonlySigners
        (MessageHeader.ofGroups groups).readonlyOthers (groups.addresses.map Address.text) =
      groups.addresses.map keys.entryOf := by
  refine List.ext_getElem (by simp [Roster.ofKeys]) fun position _ inside => ?_
  rw [List.length_map] at inside
  simp only [Roster.ofKeys, List.getElem_map, List.getElem_zipIdx, List.length_map, Nat.zero_add,
    Roster.keyEntry, MessageKeys.entryOf, MessageHeader.ofGroups, RosterEntry.mk.injEq, true_and]
  rcases mem_group_of_getElem? (List.getElem?_eq_getElem inside) with ⟨early, member⟩ |
    ⟨late, early, member⟩ | ⟨late, early, member⟩ | ⟨late, last, member⟩
  · obtain ⟨signs, writes⟩ := graded.writableSigners _ member
    rw [signs, writes, if_pos (by omega)]
    exact ⟨decide_eq_true (by omega), decide_eq_true (by omega)⟩
  · obtain ⟨signs, writes⟩ := graded.readonlySigners _ member
    rw [signs, writes, if_pos (by omega)]
    exact ⟨decide_eq_true (by omega), decide_eq_false (by omega)⟩
  · obtain ⟨signs, writes⟩ := graded.writableOthers _ member
    rw [signs, writes, if_neg (by omega)]
    exact ⟨decide_eq_false (by omega), decide_eq_true (by omega)⟩
  · obtain ⟨signs, writes⟩ := graded.readonlyOthers _ member
    rw [signs, writes, if_neg (by omega)]
    exact ⟨decide_eq_false (by omega), decide_eq_false (by omega)⟩

end KeyGroups

/-! ### Plain messages -/

namespace Message

variable {payer address : Address} {instructions : List Instruction} {blockhash : Address}
  {message : Message}

def groupsOf (payer : Address) (instructions : List Instruction) : KeyGroups :=
  .of payer (.ofInstructions payer instructions)

theorem plain_eq_ok : plain payer instructions blockhash = .ok message ↔
    (MessageHeader.ofGroups (groupsOf payer instructions)).fits = true ∧
      message = ⟨.ofGroups (groupsOf payer instructions), (groupsOf payer instructions).addresses,
        blockhash,
        instructions.map (.ofInstruction (groupsOf payer instructions).addresses), none⟩ := by
  unfold plain
  dsimp only
  split
  · rename_i fits
    constructor
    · intro made
      exact ⟨fits, (Except.ok.inj made).symm⟩
    · rintro ⟨-, rfl⟩
      rfl
  · rename_i misfits
    constructor
    · intro made
      cases made
    · rintro ⟨fits, -⟩
      exact absurd fits misfits

theorem graded_groupsOf :
    (groupsOf payer instructions).Graded (.ofInstructions payer instructions) :=
  KeyGroups.graded_of MessageKeys.sorted_ofInstructions.distinct MessageKeys.rightsAt_payer

theorem mem_groupsOf : address ∈ (groupsOf payer instructions).addresses ↔
    address = payer ∨ ∃ instruction ∈ instructions,
      address = instruction.program ∨ ∃ account ∈ instruction.accounts,
        account.address = address := by
  rw [groupsOf, KeyGroups.mem_addresses_of, MessageKeys.mem_addresses_ofInstructions, or_self_left]

theorem keys_eq (made : plain payer instructions blockhash = .ok message) :
    message.keys = (groupsOf payer instructions).addresses := by
  obtain ⟨-, rfl⟩ := plain_eq_ok.mp made
  rfl

theorem nodup_keys (made : plain payer instructions blockhash = .ok message) :
    message.keys.Nodup := by
  rw [keys_eq made]
  exact graded_groupsOf.nodup

theorem head?_keys (made : plain payer instructions blockhash = .ok message) :
    message.keys.head? = some payer := by
  rw [keys_eq made]
  rfl

theorem mem_keys (made : plain payer instructions blockhash = .ok message) :
    ∀ instruction ∈ instructions, instruction.program ∈ message.keys ∧
      ∀ account ∈ instruction.accounts, account.address ∈ message.keys := by
  rw [keys_eq made]
  refine fun instruction member => ⟨?_, fun account inside => ?_⟩
  · exact mem_groupsOf.mpr (.inr ⟨instruction, member, .inl rfl⟩)
  · exact mem_groupsOf.mpr (.inr ⟨instruction, member, .inr ⟨account, inside, rfl⟩⟩)

/-- The header gives back the rights that the instructions ask for. -/
theorem ofKeys_keys (made : plain payer instructions blockhash = .ok message) :
    Roster.ofKeys message.header.signers message.header.readonlySigners
      message.header.readonlyOthers
        (message.keys.map Address.text) =
      message.keys.map (MessageKeys.entryOf (.ofInstructions payer instructions)) := by
  obtain ⟨-, rfl⟩ := plain_eq_ok.mp made
  exact KeyGroups.ofKeys_addresses graded_groupsOf

/-- The signers are the keys in the first two groups, and the account that pays is the first of
them. -/
theorem signers_eq (made : plain payer instructions blockhash = .ok message) :
    message.signers = (groupsOf payer instructions).writableSigners ++
      (groupsOf payer instructions).readonlySigners := by
  obtain ⟨-, rfl⟩ := plain_eq_ok.mp made
  rw [signers, KeyGroups.addresses, MessageHeader.ofGroups, List.append_assoc, ← List.length_append,
    List.take_left]

theorem head?_signers (made : plain payer instructions blockhash = .ok message) :
    message.signers.head? = some payer := by
  rw [signers_eq made]
  rfl

theorem length_signers_le (made : plain payer instructions blockhash = .ok message) :
    message.signers.length ≤ MessageHeader.limit := by
  rw [signers_eq made, List.length_append]
  obtain ⟨fits, -⟩ := plain_eq_ok.mp made
  simp only [MessageHeader.fits, Bool.and_eq_true, decide_eq_true_eq] at fits
  exact fits.1.1

theorem filter_keys_signers (made : plain payer instructions blockhash = .ok message) :
    (message.keys.filter fun key =>
      ((MessageKeys.ofInstructions payer instructions).rightsAt key).signer) =
      message.signers := by
  have graded : (groupsOf payer instructions).Graded (.ofInstructions payer instructions) :=
    graded_groupsOf
  rw [signers_eq made]
  obtain ⟨-, rfl⟩ := plain_eq_ok.mp made
  have signing : ∀ key ∈ (groupsOf payer instructions).writableSigners ++
      (groupsOf payer instructions).readonlySigners,
      ((MessageKeys.ofInstructions payer instructions).rightsAt key).signer = true := by
    rw [List.forall_mem_append]
    exact ⟨fun key member => (graded.writableSigners key member).1,
      fun key member => (graded.readonlySigners key member).1⟩
  have others : ∀ key ∈ (groupsOf payer instructions).writableOthers ++
      (groupsOf payer instructions).readonlyOthers,
      ¬ ((MessageKeys.ofInstructions payer instructions).rightsAt key).signer = true := by
    rw [List.forall_mem_append]
    exact ⟨fun key member => Bool.eq_false_iff.mp (graded.writableOthers key member).1,
      fun key member => Bool.eq_false_iff.mp (graded.readonlyOthers key member).1⟩
  rw [KeyGroups.addresses, List.append_assoc, List.filter_append, List.filter_eq_self.mpr signing,
    List.filter_eq_nil_iff.mpr others, List.append_nil]

/-- Whatever rights the accounts of the instructions ask for, the message stays when each of them
asks for all that the message collected for it. -/
theorem plain_withRights :
    plain payer (instructions.map (.withRights fun address =>
      (MessageKeys.ofInstructions payer instructions).rightsAt address)) blockhash =
      plain payer instructions blockhash := by
  have indexed (keys : List Address) : (IndexedInstruction.ofInstruction keys) ∘
      (.withRights fun address =>
      (MessageKeys.ofInstructions payer instructions).rightsAt address) =
        IndexedInstruction.ofInstruction keys := by
    funext instruction
    simp [IndexedInstruction.ofInstruction, Instruction.withRights, Function.comp_def]
  simp only [plain, MessageKeys.ofInstructions_withRights, List.map_map, indexed]

end Message

end TxTemplate
