import TxTemplate.Proofs.Address
import TxTemplate.Proofs.Confirmed.Associated
import TxTemplate.Proofs.Distinct

set_option autoImplicit false

/-! Which pair a derived token account is found for. Pairs are tried in the lexicographic order of
the first occurrences of their texts, and the first one that derives a listed account is kept. So
what is found hangs on the addresses of a list and their order alone. -/

namespace TxTemplate.AssociatedAccount

/-! ### Order of first occurrences -/

private theorem find?_eq_some_iff_of_pairwise {α : Type} {before : α → α → Prop} {p : α → Bool}
    {items : List α} {item : α} (order : items.Pairwise before)
    (asymm : ∀ first second, before first second → ¬ before second first) :
    items.find? p = some item ↔
      item ∈ items ∧ p item = true ∧ ∀ other ∈ items, p other = true → ¬ before other item := by
  have later : ∀ {first : α} {front back : List α}, items = front ++ first :: back →
      ∀ second ∈ back, before first second := by
    rintro first front back rfl
    exact (List.pairwise_cons.mp (List.pairwise_append.mp order).2.1).1
  constructor
  · intro found
    obtain ⟨holds, front, back, split, fails⟩ := List.find?_eq_some_iff_append.mp found
    refine ⟨by simp [split], holds, fun other member same earlier => ?_⟩
    rw [split, List.mem_append, List.mem_cons] at member
    rcases member with inFront | rfl | inBack
    · exact absurd same (by simpa using fails other inFront)
    · exact asymm _ _ earlier earlier
    · exact asymm _ _ earlier (later split other inBack)
  · rintro ⟨member, holds, first⟩
    cases found : items.find? p with
    | none => exact absurd holds (List.find?_eq_none.mp found item member)
    | some other =>
        obtain ⟨same, front, back, split, fails⟩ := List.find?_eq_some_iff_append.mp found
        have listed : other ∈ items := by simp [split]
        rw [split, List.mem_append, List.mem_cons] at member
        rcases member with inFront | rfl | inBack
        · exact absurd holds (by simpa using fails item inFront)
        · rfl
        · exact absurd (later split item inBack) (first other listed same)

/-! ### Candidates -/

/-- What a pair derives, with the texts of its owner and its mint. -/
def candidate? (pair : (String × Address) × (String × Address)) : Option AssociatedAccount :=
  (Address.associated? pair.1.2 pair.2.2).map fun derived => ⟨derived.text, pair.1.1, pair.2.1⟩

def candidates (accounts : List String) : List AssociatedAccount :=
  (pairs (keys accounts)).filterMap candidate?

/-- One pair of texts stands before another where its owner does, or the owner is the same and its
mint does. -/
def Before (accounts : List String) (first second : AssociatedAccount) : Prop :=
  accounts.idxOf first.owner < accounts.idxOf second.owner ∨
    first.owner = second.owner ∧ accounts.idxOf first.mint < accounts.idxOf second.mint

section Candidates

variable {accounts : List String} {known : AssociatedAccount}

theorem Before.asymm (first second : AssociatedAccount) (before : Before accounts first second) :
    ¬ Before accounts second first := by
  intro after
  rcases before with owner | ⟨same, mint⟩
  · rcases after with other | ⟨same, -⟩
    · omega
    · rw [same] at owner
      omega
  · rcases after with other | ⟨-, other⟩
    · rw [same] at other
      omega
    · omega

theorem associated_eq_ok {owner mint derived : Address} :
    Address.associated owner mint = .ok derived ↔
      Address.associated? owner mint = some derived := by
  unfold Address.associated
  cases Address.associated? owner mint <;> simp

theorem mem_keys_of_read {account : String} {address : Address} (listed : account ∈ accounts)
    (named : Address.read account = .ok address) : (account, address) ∈ keys accounts :=
  List.mem_filterMap.mpr ⟨account, List.mem_eraseDups.mpr listed, by rw [named]⟩

theorem mem_candidates :
    known ∈ candidates accounts ↔ known.owner ∈ accounts ∧ known.mint ∈ accounts ∧
      Derives known := by
  constructor
  · intro member
    obtain ⟨pair, tried, derives⟩ := List.mem_filterMap.mp member
    obtain ⟨derived, found, rfl⟩ := Option.map_eq_some_iff.mp derives
    obtain ⟨owner, mint⟩ := mem_pairs tried
    obtain ⟨ownerListed, ownerNamed⟩ := mem_keys owner
    obtain ⟨mintListed, mintNamed⟩ := mem_keys mint
    exact ⟨ownerListed, mintListed, _, _, derived, ownerNamed, mintNamed,
      associated_eq_ok.mpr found, rfl⟩
  · rintro ⟨ownerListed, mintListed, owner, mint, derived, ownerNamed, mintNamed, derives, same⟩
    have tried : ((known.owner, owner), (known.mint, mint)) ∈ pairs (keys accounts) :=
      List.mem_flatMap.mpr ⟨_, mem_keys_of_read ownerListed ownerNamed,
        List.mem_map.mpr ⟨_, mem_keys_of_read mintListed mintNamed, rfl⟩⟩
    refine List.mem_filterMap.mpr ⟨_, tried, ?_⟩
    rw [candidate?, associated_eq_ok.mp derives, Option.map_some, same]

theorem pairwise_candidates (accounts : List String) :
    (candidates accounts).Pairwise (Before accounts) := by
  have listed : (keys accounts).Pairwise fun first second =>
      accounts.idxOf first.1 < accounts.idxOf second.1 := by
    refine (pairwise_eraseDups accounts).filterMap _ fun first second before key found other
      alsoFound => ?_
    cases named : Address.read first with
    | error flaw => simp [named] at found
    | ok address =>
        cases otherNamed : Address.read second with
        | error flaw => simp [otherNamed] at alsoFound
        | ok other =>
            obtain rfl : (first, address) = key := by simpa [named] using found
            obtain rfl : (second, other) = _ := by simpa [otherNamed] using alsoFound
            exact before
  -- Pairs stand in the order of their owners, and under one owner in that of their mints.
  have tried : (pairs (keys accounts)).Pairwise fun first second =>
      accounts.idxOf first.1.1 < accounts.idxOf second.1.1 ∨
        first.1.1 = second.1.1 ∧ accounts.idxOf first.2.1 < accounts.idxOf second.2.1 := by
    refine List.pairwise_flatMap.mpr ⟨fun owner _ => ?_, ?_⟩
    · exact List.pairwise_map.mpr (listed.imp fun before => .inr ⟨rfl, before⟩)
    · refine listed.imp fun before first firstMember second secondMember => .inl ?_
      obtain ⟨_, -, rfl⟩ := List.mem_map.mp firstMember
      obtain ⟨_, -, rfl⟩ := List.mem_map.mp secondMember
      exact before
  refine tried.filterMap _ fun first second before known derives other otherDerives => ?_
  obtain ⟨_, -, rfl⟩ := Option.map_eq_some_iff.mp derives
  obtain ⟨_, -, rfl⟩ := Option.map_eq_some_iff.mp otherDerives
  exact before

end Candidates

/-! ### Taking the first -/

/-- Of the candidates up to here, the first one for every listed account was kept, and no other. -/
structure Keeps (accounts : List String) (candidates found : List AssociatedAccount) : Prop where
  distinct : (found.map AssociatedAccount.account).Nodup
  mem_iff : ∀ known, known ∈ found ↔ known.account ∈ accounts ∧
    candidates.find? (fun other => other.account == known.account) = some known

section Taking

variable {accounts : List String} {earlier found result : List AssociatedAccount}
  {pair : (String × Address) × (String × Address)}

theorem take_eq_ok (done : (take accounts found pair).outcome = .ok result) :
    ∃ known, candidate? pair = some known ∧
      result = if known.account ∈ accounts ∧ ∀ other ∈ found, other.account ≠ known.account then
        found ++ [known]
        else found := by
  unfold take at done
  rw [Traced.outcome_bind, Traced.outcome_liftM, Outcome.bind_eq_ok] at done
  obtain ⟨derived, derives, rest⟩ := done
  refine ⟨_, by rw [candidate?, associated_eq_ok.mp derives, Option.map_some], ?_⟩
  dsimp only at rest ⊢
  split at rest
  · rename_i taken
    rw [Traced.outcome_bind, Traced.outcome_note, Outcome.ok_bind] at rest
    rw [if_pos (by simpa using taken)]
    exact (Except.ok.inj rest).symm
  · rename_i passed
    rw [if_neg (by simpa using passed)]
    exact (Except.ok.inj rest).symm

private theorem find?_next (known : AssociatedAccount) (account : String) :
    (earlier ++ [known]).find? (fun other => other.account == account) =
      (earlier.find? fun other => other.account == account).or
        (if known.account = account then some known else none) := by
  rw [List.find?_append, List.find?_singleton]
  simp

/-- A candidate for an account that was seen before changes nothing, and any other is the first of
its own. -/
theorem Keeps.next {known : AssociatedAccount} (keeps : Keeps accounts earlier found) :
    Keeps accounts (earlier ++ [known])
      (if known.account ∈ accounts ∧ ∀ other ∈ found, other.account ≠ known.account then
        found ++ [known]
        else found) := by
  by_cases fresh : known.account ∈ accounts ∧ ∀ other ∈ found, other.account ≠ known.account
  · rw [if_pos fresh]
    have unseen : earlier.find? (fun other => other.account == known.account) = none := by
      cases seen : earlier.find? fun other => other.account == known.account with
      | none => rfl
      | some first =>
          have same : first.account = known.account := by simpa using List.find?_some seen
          have kept := (keeps.mem_iff first).mpr ⟨same ▸ fresh.1, by rw [same, seen]⟩
          exact absurd same (fresh.2 first kept)
    constructor
    · rw [List.map_append, List.map_singleton, List.nodup_append]
      refine ⟨keeps.distinct, List.nodup_singleton _, ?_⟩
      simpa using fresh.2
    · intro other
      rw [List.mem_append, List.mem_singleton, keeps.mem_iff, find?_next]
      by_cases same : known.account = other.account
      · rw [if_pos same, ← same, unseen]
        simpa [eq_comm] using fun _ => fresh.1
      · have different : other ≠ known := fun equal => same (by rw [equal])
        rw [if_neg same, Option.or_none, or_iff_left different]
  · rw [if_neg fresh]
    refine ⟨keeps.distinct, fun other => ?_⟩
    rw [keeps.mem_iff, find?_next]
    refine and_congr_right fun listed => ?_
    by_cases same : known.account = other.account
    · -- The account is listed, so it was passed over for a candidate that was seen before.
      obtain ⟨first, kept, firstSame⟩ : ∃ first ∈ found, first.account = known.account := by
        simpa [same, listed] using fresh
      have seen := ((keeps.mem_iff first).mp kept).2
      rw [firstSame, same] at seen
      rw [seen, Option.some_or]
    · rw [if_neg same, Option.or_none]

theorem Keeps.takeAll {pairs : List ((String × Address) × (String × Address))}
    (keeps : Keeps accounts earlier found)
    (done : (takeAll accounts found pairs).outcome = .ok result) :
    Keeps accounts (earlier ++ pairs.filterMap candidate?) result := by
  induction pairs generalizing earlier found with
  | nil =>
      obtain rfl := Except.ok.inj done
      simpa using keeps
  | cons pair rest ih =>
      rw [AssociatedAccount.takeAll, Traced.outcome_bind, Outcome.bind_eq_ok] at done
      obtain ⟨middle, taken, later⟩ := done
      obtain ⟨known, derives, rfl⟩ := take_eq_ok taken
      rw [List.filterMap_cons_some derives, List.append_cons]
      exact ih keeps.next later

end Taking

theorem keeps_of_find {accounts : List String} {found : List AssociatedAccount}
    (done : (find accounts).outcome = .ok found) : Keeps accounts (candidates accounts) found := by
  rw [find, Traced.outcome_bind, Traced.outcome_note, Outcome.ok_bind] at done
  have start : Keeps accounts [] [] := ⟨List.nodup_nil, by simp⟩
  exact start.takeAll done

/-! ### The addresses of a list alone -/

theorem keys_addresses (accounts : List String) :
    keys (accounts.eraseDups.filter Address.isText) = keys accounts := by
  rw [keys, eraseDups_of_nodup ((nodup_eraseDups accounts).filter _), List.filterMap_filter, keys]
  refine List.filterMap_congr fun account _ => ?_
  cases named : Address.read account <;> simp [Address.isText, named]

theorem takeAll_congr {accounts others : List String} {found : List AssociatedAccount}
    {pairs : List ((String × Address) × (String × Address))}
    (same : ∀ address : Address, address.text ∈ accounts ↔ address.text ∈ others) :
    takeAll accounts found pairs = takeAll others found pairs := by
  induction pairs generalizing found with
  | nil => rfl
  | cons pair rest ih =>
      have taken : take accounts found pair = take others found pair := by
        have contains : ∀ address : Address,
            accounts.contains address.text = others.contains address.text := by
          intro address
          rw [List.contains_eq_mem, List.contains_eq_mem, decide_eq_decide.mpr (same address)]
        simp only [take, contains]
      rw [takeAll, takeAll, taken]
      exact congrArg _ (funext fun next => ih)

/-- What is found, and what is noted on the way, does not change with repetitions and other
texts. -/
theorem find_addresses (accounts : List String) :
    find (accounts.eraseDups.filter Address.isText) = find accounts := by
  rw [find, find, keys_addresses]
  refine congrArg _ (funext fun _ => takeAll_congr fun address => ?_)
  simp [Address.isText, Address.read_text, List.mem_eraseDups]

/-! ### The first pair -/

/-- The pair is the first in a list that derives an account of the list. -/
structure IsFirst (accounts : List String) (known : AssociatedAccount) : Prop where
  listed : known.account ∈ accounts
  owner : known.owner ∈ accounts
  mint : known.mint ∈ accounts
  derives : Derives known
  first : ∀ other, other.account = known.account → other.owner ∈ accounts → other.mint ∈ accounts →
    Derives other →
    ¬ Before accounts other known

def descriptor (known : AssociatedAccount) : Json :=
  Descriptor.associated (.str known.owner) (.str known.mint)

theorem resolve_descriptor_of_derives {known : AssociatedAccount} (derives : Derives known)
    (params : Params) :
    ∃ address, Address.parse known.account = .ok address ∧
      Descriptor.resolve params known.descriptor = .ok address := by
  obtain ⟨owner, mint, derived, ownerNamed, mintNamed, found, same⟩ := derives
  refine ⟨derived, by rw [← same, Address.parse_of_read (Address.read_text derived)], ?_⟩
  rw [descriptor, Descriptor.resolve_associated (Address.resolve_of_read params ownerNamed)
    (Address.resolve_of_read params mintNamed), found]

theorem Keeps.mem_iff_isFirst {accounts : List String} {found : List AssociatedAccount}
    (keeps : Keeps accounts (candidates accounts) found) (known : AssociatedAccount) :
    known ∈ found ↔ IsFirst accounts known := by
  rw [keeps.mem_iff, find?_eq_some_iff_of_pairwise (pairwise_candidates accounts) Before.asymm,
    mem_candidates]
  constructor
  · rintro ⟨listed, ⟨owner, mint, derives⟩, -, first⟩
    refine ⟨listed, owner, mint, derives, fun other same ownerListed mintListed otherDerives => ?_⟩
    exact first other (mem_candidates.mpr ⟨ownerListed, mintListed, otherDerives⟩) (by simp [same])
  · rintro ⟨listed, owner, mint, derives, first⟩
    refine ⟨listed, ⟨owner, mint, derives⟩, by simp, fun other member same => ?_⟩
    obtain ⟨ownerListed, mintListed, otherDerives⟩ := mem_candidates.mp member
    exact first other (by simpa using same) ownerListed mintListed otherDerives

theorem Keeps.exists_iff {accounts : List String} {found : List AssociatedAccount}
    (keeps : Keeps accounts (candidates accounts) found) (account : String) :
    (∃ known ∈ found, known.account = account) ↔
      account ∈ accounts ∧ ∃ owner ∈ accounts, ∃ mint ∈ accounts,
        Derives ⟨account, owner, mint⟩ := by
  constructor
  · rintro ⟨known, member, rfl⟩
    have first := (keeps.mem_iff_isFirst known).mp member
    exact ⟨first.listed, _, first.owner, _, first.mint, first.derives⟩
  · rintro ⟨listed, owner, ownerListed, mint, mintListed, derives⟩
    have candidate := mem_candidates.mpr ⟨ownerListed, mintListed, derives⟩
    cases seen : (candidates accounts).find? fun other => other.account == account with
    | none => simpa using List.find?_eq_none.mp seen _ candidate
    | some first =>
        have same : first.account = account := by simpa using List.find?_some seen
        exact ⟨first, (keeps.mem_iff first).mpr ⟨same ▸ listed, by rw [same, seen]⟩, same⟩

/-- Derived token accounts are found for the first pair that derives them. Where any two addresses
of a list derive an account, the search comes to an end; what it finds are the listed accounts that
a pair of the list derives, each once and for the first such pair, and the descriptor of the pair
stands for the account whatever the parameters are. Repetitions and texts that are no addresses make
no difference. -/
theorem find_eq_firstPairs {accounts : List String} (derivable : Derivable accounts) :
    ∃ found, (find accounts).outcome = .ok found ∧ (found.map AssociatedAccount.account).Nodup ∧
      (∀ account, (∃ known ∈ found, known.account = account) ↔
        account ∈ accounts ∧ ∃ owner ∈ accounts, ∃ mint ∈ accounts,
          Derives ⟨account, owner, mint⟩) ∧
      (∀ known, known ∈ found ↔ IsFirst accounts known) ∧
      (∀ known ∈ found, ∀ params, ∃ address, Address.parse known.account = .ok address ∧
        Descriptor.resolve params known.descriptor = .ok address) ∧
      find (accounts.eraseDups.filter Address.isText) = find accounts := by
  obtain ⟨found, done⟩ := exists_find derivable
  have keeps := keeps_of_find done
  refine ⟨found, done, keeps.distinct, keeps.exists_iff, keeps.mem_iff_isFirst, ?_,
    find_addresses accounts⟩
  intro known member params
  exact resolve_descriptor_of_derives ((keeps.mem_iff_isFirst known).mp member).derives params

def systemAccount : String := "2a8MS8dWyyYNgBHgtzeTwrsDKsE6RnCoUqnonB4C8Xc3"

def systemAccounts : List String :=
  ["hello!", Address.systemProgram.text, systemAccount, Address.systemProgram.text]

/-- Behind a text that is no address, and beside a repetition, the account is found for the pair of
the system program with itself. -/
theorem find_systemAccounts :
    ∃ found, (find systemAccounts).outcome = .ok found ∧
      ∃ known ∈ found, known.account = systemAccount ∧
      IsFirst systemAccounts known ∧
        ∀ params, ∃ address, Address.parse systemAccount = .ok address ∧
        Descriptor.resolve params known.descriptor = .ok address := by
  have derivable : Derivable systemAccounts := by decide +kernel
  have program : Address.systemProgram.text ∈ systemAccounts := by decide
  have derived : (Address.associated? .systemProgram .systemProgram).map Address.text =
      some systemAccount := by
    decide +kernel
  obtain ⟨address, found, same⟩ := Option.map_eq_some_iff.mp derived
  have derives : Derives ⟨systemAccount, Address.systemProgram.text, Address.systemProgram.text⟩ :=
    ⟨_, _, address, Address.read_text _, Address.read_text _, associated_eq_ok.mpr found, same⟩
  obtain ⟨found, done, -, accounts, firsts, resolves, -⟩ := find_eq_firstPairs derivable
  obtain ⟨known, member, named⟩ :=
    (accounts systemAccount).mpr ⟨by decide, _, program, _, program, derives⟩
  refine ⟨found, done, known, member, named, (firsts known).mp member, fun params => ?_⟩
  rw [← named]
  exact resolves known member params

end TxTemplate.AssociatedAccount
