import TxTemplate.Message.Keys

set_option autoImplicit false

/-! The keys that a message collects. They stay in ascending order, and every address has exactly
the rights that its mentions ask for together. So the keys depend only on which addresses are
mentioned, in which order, and on what is asked for each of them as a whole. -/

namespace TxTemplate

/-! ### The order of addresses -/

namespace Address

theorem before_of_not_before {left right : Bytes} (other : before left right = false) :
    before right left = true := by
  induction left generalizing right with
  | nil => cases other
  | cons a as ih =>
      cases right with
      | nil => rfl
      | cons b bs =>
          simp only [before, Bool.or_eq_false_iff, decide_eq_false_iff_not, Bool.and_eq_false_iff,
            beq_eq_false_iff_ne] at other
          obtain ⟨notLess, different | later⟩ := other
          · have less : b < a := by grind
            simp [before, less]
          · have equalOrLess : b < a ∨ b = a := by grind
            rcases equalOrLess with less | rfl
            · simp [before, less]
            · simp [before, ih later]

theorem before_trans {left middle right : Bytes} (first : before left middle = true)
    (second : before middle right = true) : before left right = true := by
  induction left generalizing middle right with
  | nil => rfl
  | cons a as ih =>
      cases middle with
      | nil => cases first
      | cons b bs =>
          cases right with
          | nil => cases second
          | cons c cs =>
              simp only [before, Bool.or_eq_true, decide_eq_true_eq, Bool.and_eq_true, beq_iff_eq]
                at *
              rcases first with less | ⟨rfl, inner⟩
              · left
                rcases second with more | ⟨rfl, -⟩
                · grind
                · exact less
              · rcases second with more | ⟨rfl, later⟩
                · exact .inl more
                · exact .inr ⟨rfl, ih inner later⟩

theorem eq_of_before {left right : Bytes} (first : before left right = true)
    (second : before right left = true) : left = right := by
  induction left generalizing right with
  | nil =>
      cases right with
      | nil => rfl
      | cons b bs => cases second
  | cons a as ih =>
      cases right with
      | nil => cases first
      | cons b bs =>
          simp only [before, Bool.or_eq_true, decide_eq_true_eq, Bool.and_eq_true, beq_iff_eq]
            at first second
          have same : a = b := by grind
          subst same
          have inner : before as bs = true := by grind
          have outer : before bs as = true := by grind
          rw [ih inner outer]

theorem eq_of_le {left right : Address} (first : left.le right = true)
    (second : right.le left = true) :
    left = right := by
  cases left
  cases right
  cases eq_of_before first second
  rfl

end Address

/-! ### Rights -/

namespace KeyRights

theorem none_join (rights : KeyRights) : none.join rights = rights := by
  simp [none, join]

theorem join_assoc (first second third : KeyRights) :
    (first.join second).join third = first.join (second.join third) := by
  simp [join, Bool.or_assoc]

end KeyRights

namespace MessageKeys

variable {keys : MessageKeys} {key : MessageKey} {address other : Address} {rights : KeyRights}

/-- The rights that an address has among keys; none where it is no key. -/
def rightsAt (address : Address) : MessageKeys → KeyRights
  | [] => .none
  | key :: rest => if key.address = address then key.rights else rightsAt address rest

theorem rightsAt_cons (address : Address) (key : MessageKey) (rest : MessageKeys) :
    rightsAt address (key :: rest) =
      if key.address = address then key.rights else rightsAt address rest := rfl

/-- Ascending order, so no address comes twice. -/
def Sorted (keys : MessageKeys) : Prop :=
  keys.Pairwise fun key later => key.address.le later.address = true ∧ key.address ≠ later.address

theorem Sorted.distinct (sorted : Sorted keys) : (keys.map MessageKey.address).Nodup := by
  rw [List.Nodup, List.pairwise_map]
  exact List.Pairwise.imp (fun both => both.2) sorted

theorem rightsAt_of_not_mem (absent : address ∉ keys.map MessageKey.address) :
    rightsAt address keys = .none := by
  induction keys with
  | nil => rfl
  | cons key rest ih =>
      rw [List.map_cons, List.mem_cons, not_or] at absent
      rw [rightsAt_cons, if_neg (Ne.symm absent.1), ih absent.2]

theorem rightsAt_of_mem (distinct : (keys.map MessageKey.address).Nodup) (member : key ∈ keys) :
    rightsAt key.address keys = key.rights := by
  induction keys with
  | nil => cases member
  | cons first rest ih =>
      rw [List.map_cons, List.nodup_cons] at distinct
      rw [rightsAt_cons]
      rcases List.mem_cons.mp member with rfl | later
      · rw [if_pos rfl]
      · have different : first.address ≠ key.address :=
          fun same => distinct.1 (same ▸ List.mem_map_of_mem later)
        rw [if_neg different, ih distinct.2 later]

/-! ### Granting -/

theorem mem_addresses_grant :
    other ∈ (grant address rights keys).map MessageKey.address ↔
      other = address ∨ other ∈ keys.map MessageKey.address := by
  induction keys with
  | nil => simp [grant]
  | cons key rest ih =>
      rw [grant]
      split
      · rename_i same
        simp [same]
      · split
        · simp
        · rw [List.map_cons, List.mem_cons, ih, List.map_cons, List.mem_cons, or_left_comm]

theorem sorted_grant (sorted : Sorted keys) : Sorted (grant address rights keys) := by
  induction keys with
  | nil => exact List.pairwise_singleton _ _
  | cons key rest ih =>
      obtain ⟨first, later⟩ := List.pairwise_cons.mp sorted
      rw [grant]
      split
      · rename_i same
        exact List.pairwise_cons.mpr ⟨by simpa only [same] using first, later⟩
      · rename_i different
        split
        · rename_i before
          refine List.pairwise_cons.mpr ⟨fun other member => ?_, sorted⟩
          rcases List.mem_cons.mp member with rfl | member
          · exact ⟨before, Ne.symm different⟩
          · have after := first other member
            refine ⟨Address.before_trans before after.1, ?_⟩
            rintro rfl
            exact different (Address.eq_of_le after.1 before)
        · rename_i notBefore
          have after : key.address.le address = true :=
            Address.before_of_not_before (Bool.not_eq_true _ ▸ notBefore)
          refine List.pairwise_cons.mpr ⟨fun other member => ?_, ih later⟩
          rcases mem_addresses_grant.mp (List.mem_map_of_mem member) with same | listed
          · rw [same]
            exact ⟨after, different⟩
          · obtain ⟨old, oldMember, same⟩ := List.mem_map.mp listed
            rw [← same]
            exact first old oldMember

/-- Granting changes the rights of one address, and adds to those it has. -/
theorem rightsAt_grant (sorted : Sorted keys) :
    rightsAt other (grant address rights keys) =
      if other = address then (rightsAt other keys).join rights else rightsAt other keys := by
  induction keys with
  | nil =>
      rw [grant, rightsAt_cons, rightsAt, KeyRights.none_join]
      exact ite_congr (propext eq_comm) (fun _ => rfl) fun _ => rfl
  | cons key rest ih =>
      obtain ⟨-, later⟩ := List.pairwise_cons.mp sorted
      rw [grant]
      by_cases here : key.address = address
      · rw [if_pos here, rightsAt_cons, rightsAt_cons, here]
        by_cases same : address = other
        · rw [if_pos same, if_pos same.symm, if_pos same]
        · rw [if_neg same, if_neg (Ne.symm same), if_neg same]
      · rw [if_neg here]
        by_cases before : address.le key.address = true
        · rw [if_pos before]
          by_cases same : other = address
          · -- The address stands before all keys, so it is none of them yet.
            have absent : address ∉ (key :: rest).map MessageKey.address := by
              have fresh : Sorted (⟨address, rights⟩ :: key :: rest) := by
                have whole := @sorted_grant _ address rights sorted
                rwa [grant, if_neg here, if_pos before] at whole
              exact (List.nodup_cons.mp fresh.distinct).1
            rw [if_pos same, same, rightsAt_of_not_mem absent, KeyRights.none_join,
              rightsAt_cons, if_pos rfl]
          · rw [if_neg same, rightsAt_cons, if_neg (Ne.symm same)]
        · rw [if_neg before, rightsAt_cons, rightsAt_cons, ih later]
          by_cases there : key.address = other
          · have different : other ≠ address := there ▸ here
            rw [if_pos there, if_neg different, if_pos there]
          · rw [if_neg there, if_neg there]

theorem addresses_grant_congr {others : MessageKeys} {otherRights : KeyRights}
    (same : keys.map MessageKey.address = others.map MessageKey.address) :
    (grant address rights keys).map MessageKey.address =
      (grant address otherRights others).map MessageKey.address := by
  induction keys generalizing others with
  | nil =>
      obtain rfl := List.map_eq_nil_iff.mp same.symm
      rfl
  | cons key rest ih =>
      obtain ⟨first, later, rfl, firstSame, restSame⟩ := List.map_eq_cons_iff.mp same.symm
      rw [grant, grant, firstSame]
      split
      · rw [List.map_cons, List.map_cons, restSame]
      · split
        · exact congrArg (address :: ·) same
        · rw [List.map_cons, List.map_cons, firstSame, ih restSame.symm]

/-! ### Mentions -/

def grantAll (keys : MessageKeys) (mentions : List MessageKey) : MessageKeys :=
  mentions.foldl (fun keys mention => grant mention.address mention.rights keys) keys

theorem grantAll_cons (keys : MessageKeys) (mention : MessageKey) (rest : List MessageKey) :
    grantAll keys (mention :: rest) = grantAll (grant mention.address mention.rights keys) rest :=
  rfl

def asks (right : KeyRights → Bool) (address : Address) (mentions : List MessageKey) : Bool :=
  mentions.any fun mention => mention.address == address && right mention.rights

def asked (address : Address) (mentions : List MessageKey) : KeyRights :=
  ⟨asks KeyRights.signer address mentions, asks KeyRights.writable address mentions,
    asks KeyRights.invoked address mentions⟩

theorem asked_cons (mention : MessageKey) (rest : List MessageKey) :
    asked address (mention :: rest) =
      if address = mention.address then mention.rights.join (asked address rest)
      else asked address rest := by
  by_cases same : address = mention.address
  · simp [asked, asks, KeyRights.join, same]
  · have different : (mention.address == address) = false := beq_eq_false_iff_ne.mpr (Ne.symm same)
    simp [asked, asks, same, different]

theorem grantAll_append (keys : MessageKeys) (first second : List MessageKey) :
    grantAll keys (first ++ second) = grantAll (grantAll keys first) second :=
  List.foldl_append

section Granting

variable {mentions : List MessageKey}

theorem sorted_grantAll (sorted : Sorted keys) : Sorted (grantAll keys mentions) := by
  induction mentions generalizing keys with
  | nil => exact sorted
  | cons mention rest ih => exact ih (sorted_grant sorted)

theorem mem_addresses_grantAll :
    address ∈ (grantAll keys mentions).map MessageKey.address ↔
      address ∈ keys.map MessageKey.address ∨ address ∈ mentions.map MessageKey.address := by
  induction mentions generalizing keys with
  | nil => simp [grantAll]
  | cons mention rest ih =>
      rw [grantAll_cons, ih, mem_addresses_grant, List.map_cons, List.mem_cons, or_assoc,
        or_left_comm]

theorem rightsAt_grantAll (sorted : Sorted keys) :
    rightsAt address (grantAll keys mentions) =
      (rightsAt address keys).join (asked address mentions) := by
  induction mentions generalizing keys with
  | nil => simp [grantAll, asked, asks, KeyRights.join]
  | cons mention rest ih =>
      rw [grantAll_cons, ih (sorted_grant sorted), rightsAt_grant sorted, asked_cons]
      split
      · rw [KeyRights.join_assoc]
      · rfl

theorem addresses_grantAll_congr {others : MessageKeys} {otherMentions : List MessageKey}
    (same : keys.map MessageKey.address = others.map MessageKey.address)
    (mentionsSame : mentions.map MessageKey.address = otherMentions.map MessageKey.address) :
    (grantAll keys mentions).map MessageKey.address =
      (grantAll others otherMentions).map MessageKey.address := by
  induction mentions generalizing keys others otherMentions with
  | nil =>
      obtain rfl := List.map_eq_nil_iff.mp mentionsSame.symm
      exact same
  | cons mention rest ih =>
      obtain ⟨first, later, rfl, firstSame, restSame⟩ := List.map_eq_cons_iff.mp mentionsSame.symm
      rw [grantAll_cons, grantAll_cons, firstSame]
      exact ih (addresses_grant_congr same) restSame.symm

end Granting

/-- Keys are determined by their addresses and the rights of these. -/
theorem eq_of_rightsAt {others : MessageKeys} (sorted : Sorted keys) (othersSorted : Sorted others)
    (same : keys.map MessageKey.address = others.map MessageKey.address)
    (rights : ∀ address, rightsAt address keys = rightsAt address others) : keys = others := by
  have whole {keys : MessageKeys} (sorted : Sorted keys) :
      keys = (keys.map MessageKey.address).map fun address => ⟨address, rightsAt address keys⟩ := by
    rw [List.map_map]
    refine (List.map_id keys).symm.trans (List.map_congr_left fun key member => ?_)
    rw [Function.comp_apply, rightsAt_of_mem sorted.distinct member]
    rfl
  rw [whole sorted, whole othersSorted, same]
  exact List.map_congr_left fun address _ => by rw [rights]

end MessageKeys

/-! ### The keys of instructions -/

def Instruction.mentions (instruction : Instruction) : List MessageKey :=
  ⟨instruction.program, .program⟩ ::
    instruction.accounts.map fun account => ⟨account.address, .ofAccount account⟩

def Instruction.withRights (rights : Address → KeyRights) (instruction : Instruction) :
    Instruction :=
  { instruction with accounts := instruction.accounts.map fun account =>
      ⟨account.address, (rights account.address).signer, (rights account.address).writable⟩ }

namespace MessageKeys

section Instructions

variable {payer address : Address} {instructions : List Instruction}

def mentions (payer : Address) (instructions : List Instruction) : List MessageKey :=
  instructions.flatMap Instruction.mentions ++ [⟨payer, .payer⟩]

theorem withInstruction_eq (keys : MessageKeys) (instruction : Instruction) :
    withInstruction keys instruction = grantAll keys instruction.mentions := by
  rw [withInstruction, grantAccounts, Instruction.mentions, grantAll_cons, grantAll, List.foldl_map]

theorem foldl_withInstruction (keys : MessageKeys) :
    instructions.foldl withInstruction keys =
      grantAll keys (instructions.flatMap Instruction.mentions) := by
  induction instructions generalizing keys with
  | nil => rfl
  | cons instruction rest ih =>
      rw [List.foldl_cons, ih, withInstruction_eq, List.flatMap_cons, grantAll_append]

theorem ofInstructions_eq :
    ofInstructions payer instructions = grantAll [] (mentions payer instructions) := by
  rw [ofInstructions, foldl_withInstruction, mentions, grantAll_append]
  rfl

theorem sorted_ofInstructions : Sorted (ofInstructions payer instructions) := by
  rw [ofInstructions_eq]
  exact sorted_grantAll List.Pairwise.nil

theorem rightsAt_ofInstructions :
    rightsAt address (ofInstructions payer instructions) =
      asked address (mentions payer instructions) := by
  rw [ofInstructions_eq, rightsAt_grantAll List.Pairwise.nil, rightsAt, KeyRights.none_join]

theorem mem_addresses_ofInstructions :
    address ∈ (ofInstructions payer instructions).map MessageKey.address ↔
      address = payer ∨ ∃ instruction ∈ instructions,
        address = instruction.program ∨ ∃ account ∈ instruction.accounts,
          account.address = address := by
  have mentioned (instruction : Instruction) : address ∈ instruction.mentions.map
    MessageKey.address ↔
      address = instruction.program ∨ ∃ account ∈ instruction.accounts,
          account.address = address := by
    simp [Instruction.mentions]
  rw [ofInstructions_eq, mem_addresses_grantAll, mentions, List.map_append, List.mem_append,
    List.map_flatMap, List.mem_flatMap]
  simp only [mentioned, List.map_nil, List.not_mem_nil, false_or, List.map_cons, List.mem_singleton]
  exact or_comm

/-- A right that running a program does not give is asked for by the account that pays or by one of
the accounts of the instructions. -/
theorem asks_mentions_iff {right : KeyRights → Bool} (notRun : right .program = false)
    (pays : right .payer = true) :
    asks right address (mentions payer instructions) = true ↔
      address = payer ∨ ∃ instruction ∈ instructions, ∃ account ∈ instruction.accounts,
        account.address = address ∧ right (.ofAccount account) = true := by
  simp only [asks, mentions, List.any_append, List.any_flatMap, Instruction.mentions, List.any_cons,
    notRun, Bool.and_false, Bool.false_or, List.any_map, List.any_nil, pays, Bool.and_true,
    Bool.or_false, Bool.or_eq_true, List.any_eq_true, Function.comp_apply, Bool.and_eq_true,
    beq_iff_eq]
  rw [or_comm, eq_comm (a := payer)]

theorem asks_invoked_mentions : asks KeyRights.invoked address (mentions payer instructions) =
    instructions.any fun instruction => instruction.program == address := by
  have never (accounts : List AccountMeta) : (accounts.any fun _ => false) = false :=
    List.any_eq_false.mpr fun _ _ => Bool.false_ne_true
  simp [asks, mentions, List.any_append, List.any_flatMap, Instruction.mentions, Function.comp_def,
    KeyRights.program, KeyRights.payer, KeyRights.ofAccount, never]

theorem addresses_mentions_withRights (rights : Address → KeyRights) :
    (mentions payer (instructions.map (.withRights rights))).map MessageKey.address =
      (mentions payer instructions).map MessageKey.address := by
  simp [mentions, Instruction.mentions, Instruction.withRights, List.map_flatMap, List.flatMap_map,
    Function.comp_def]

/-- What is asked for an address stays when every account asks for all that is asked for its
address. -/
theorem asked_mentions_withRights {rights : Address → KeyRights}
    (whole : ∀ address, rights address = asked address (mentions payer instructions)) :
    asked address (mentions payer (instructions.map (.withRights rights))) =
      asked address (mentions payer instructions) := by
  have stays {right : KeyRights → Bool} (notRun : right .program = false)
    (pays : right .payer = true)
      (all : ∀ address, right
        (.ofAccount ⟨address, (rights address).signer, (rights address).writable⟩) =
        asks right address (mentions payer instructions)) :
      asks right address (mentions payer (instructions.map (.withRights rights))) =
        asks right address (mentions payer instructions) := by
    rw [Bool.eq_iff_iff, asks_mentions_iff notRun pays]
    constructor
    · rintro (paying | ⟨_, listed, _, accountListed, rfl, holds⟩)
      · exact (asks_mentions_iff notRun pays).mpr (.inl paying)
      · obtain ⟨instruction, -, rfl⟩ := List.mem_map.mp listed
        obtain ⟨account, -, rfl⟩ := List.mem_map.mp accountListed
        rwa [all] at holds
    · intro holds
      obtain paying | ⟨instruction, listed, account, inside, rfl, -⟩ :=
        (asks_mentions_iff notRun pays).mp holds
      · exact .inl paying
      · exact .inr ⟨_, List.mem_map_of_mem listed, _, List.mem_map_of_mem inside, rfl, by rwa [all]⟩
  have signer := @stays KeyRights.signer rfl rfl fun address => by rw [whole]; rfl
  have writable := @stays KeyRights.writable rfl rfl fun address => by rw [whole]; rfl
  have invoked : asks KeyRights.invoked address
    (mentions payer (instructions.map (.withRights rights))) =
      asks KeyRights.invoked address (mentions payer instructions) := by
    rw [asks_invoked_mentions, asks_invoked_mentions, List.any_map]
    rfl
  rw [asked, asked, signer, writable, invoked]

/-- Giving every account the rights that it has in the whole message leaves the keys as they are. -/
theorem ofInstructions_withRights :
    ofInstructions payer (instructions.map (.withRights fun address =>
      rightsAt address (ofInstructions payer instructions))) =
        ofInstructions payer instructions := by
  refine eq_of_rightsAt sorted_ofInstructions sorted_ofInstructions ?_ fun address => ?_
  · rw [ofInstructions_eq, ofInstructions_eq]
    exact addresses_grantAll_congr rfl (addresses_mentions_withRights _)
  · rw [rightsAt_ofInstructions, rightsAt_ofInstructions]
    exact asked_mentions_withRights fun address => rightsAt_ofInstructions

theorem rightsAt_payer :
    (rightsAt payer (ofInstructions payer instructions)).signer = true ∧
      (rightsAt payer (ofInstructions payer instructions)).writable = true := by
  rw [rightsAt_ofInstructions]
  exact ⟨(@asks_mentions_iff _ _ _ KeyRights.signer rfl rfl).mpr (.inl rfl),
    (@asks_mentions_iff _ _ _ KeyRights.writable rfl rfl).mpr (.inl rfl)⟩

end Instructions

end MessageKeys

end TxTemplate
