import TxTemplate.Confirmed.Associated
import TxTemplate.Proofs.Outcome

set_option autoImplicit false

/-! What the search for derived token accounts finds: accounts together with an owner and a mint
that are named by listed texts and do derive them. It comes to an end when every pair derives an
account. -/

namespace TxTemplate.AssociatedAccount

/-- The owner and the mint are addresses, and the account is the one that they derive. -/
def Derives (known : AssociatedAccount) : Prop :=
  ∃ owner mint derived, Address.read known.owner = .ok owner ∧ Address.read known.mint = .ok mint ∧
    Address.associated owner mint = .ok derived ∧ derived.text = known.account

theorem mem_keys {accounts : List String} {key : String × Address} (member : key ∈ keys accounts) :
    key.1 ∈ accounts ∧ Address.read key.1 = .ok key.2 := by
  obtain ⟨account, listed, found⟩ := List.mem_filterMap.mp member
  cases named : Address.read account with
  | error flaw =>
      rw [named] at found
      cases found
  | ok address =>
      rw [named] at found
      obtain rfl := Option.some.inj found
      exact ⟨List.mem_eraseDups.mp listed, named⟩

theorem mem_pairs {keys : List (String × Address)} {pair : (String × Address) × (String × Address)}
    (member : pair ∈ pairs keys) : pair.1 ∈ keys ∧ pair.2 ∈ keys := by
  obtain ⟨owner, ownerMember, inner⟩ := List.mem_flatMap.mp member
  obtain ⟨mint, mintMember, rfl⟩ := List.mem_map.mp inner
  exact ⟨ownerMember, mintMember⟩

section Taking

variable {accounts : List String} {found result : List AssociatedAccount}
  {pair : (String × Address) × (String × Address)}

theorem derives_of_take (owner : Address.read pair.1.1 = .ok pair.1.2)
    (mint : Address.read pair.2.1 = .ok pair.2.2) (sound : ∀ known ∈ found, Derives known)
    (done : (take accounts found pair).outcome = .ok result) : ∀ known ∈ result, Derives known := by
  unfold take at done
  rw [Traced.outcome_bind, Traced.outcome_liftM, Outcome.bind_eq_ok] at done
  obtain ⟨derived, derives, rest⟩ := done
  dsimp only at rest
  split at rest
  · rw [Traced.outcome_bind, Traced.outcome_note, Outcome.ok_bind] at rest
    obtain rfl := Except.ok.inj rest
    rw [List.forall_mem_append, List.forall_mem_singleton]
    exact ⟨sound, pair.1.2, pair.2.2, derived, owner, mint, derives, rfl⟩
  · obtain rfl := Except.ok.inj rest
    exact sound

theorem derives_of_takeAll {pairs : List ((String × Address) × (String × Address))}
    (named : ∀ pair ∈ pairs, Address.read pair.1.1 = .ok pair.1.2 ∧
      Address.read pair.2.1 = .ok pair.2.2)
    (sound : ∀ known ∈ found, Derives known)
    (done : (takeAll accounts found pairs).outcome = .ok result) :
    ∀ known ∈ result, Derives known := by
  induction pairs generalizing found with
  | nil =>
      obtain rfl := Except.ok.inj done
      exact sound
  | cons pair rest ih =>
      rw [List.forall_mem_cons] at named
      rw [takeAll, Traced.outcome_bind, Outcome.bind_eq_ok] at done
      obtain ⟨next, taken, later⟩ := done
      exact ih named.2 (derives_of_take named.1.1 named.1.2 sound taken) later

theorem exists_take {derived : Address}
    (derives : Address.associated pair.1.2 pair.2.2 = .ok derived) :
    ∃ result, (take accounts found pair).outcome = .ok result := by
  unfold take
  rw [Traced.outcome_bind, Traced.outcome_liftM, derives, Outcome.ok_bind]
  dsimp only
  split
  · exact ⟨_, rfl⟩
  · exact ⟨_, rfl⟩

theorem exists_takeAll {pairs : List ((String × Address) × (String × Address))}
    (derive : ∀ pair ∈ pairs, ∃ derived, Address.associated pair.1.2 pair.2.2 = .ok derived) :
    ∃ result, (takeAll accounts found pairs).outcome = .ok result := by
  induction pairs generalizing found with
  | nil => exact ⟨found, rfl⟩
  | cons pair rest ih =>
      rw [List.forall_mem_cons] at derive
      obtain ⟨derived, derives⟩ := derive.1
      obtain ⟨next, taken⟩ := @exists_take accounts found pair derived derives
      obtain ⟨result, later⟩ := @ih next derive.2
      exact ⟨result, by rw [takeAll, Traced.outcome_bind, taken, Outcome.ok_bind, later]⟩

theorem derives_of_exists_takeAll {pairs : List ((String × Address) × (String × Address))}
    (done : (takeAll accounts found pairs).outcome = .ok result) :
    ∀ pair ∈ pairs, ∃ derived, Address.associated pair.1.2 pair.2.2 = .ok derived := by
  induction pairs generalizing found with
  | nil => exact fun _ member => absurd member List.not_mem_nil
  | cons pair rest ih =>
      rw [takeAll, Traced.outcome_bind, Outcome.bind_eq_ok] at done
      obtain ⟨next, taken, later⟩ := done
      rw [take, Traced.outcome_bind, Traced.outcome_liftM, Outcome.bind_eq_ok] at taken
      obtain ⟨derived, derives, -⟩ := taken
      rw [List.forall_mem_cons]
      exact ⟨⟨derived, derives⟩, ih later⟩

end Taking

theorem derives_of_find {accounts : List String} {result : List AssociatedAccount}
    (done : (find accounts).outcome = .ok result) : ∀ known ∈ result, Derives known := by
  rw [find, Traced.outcome_bind, Traced.outcome_note, Outcome.ok_bind] at done
  refine derives_of_takeAll ?_ (fun _ member => absurd member List.not_mem_nil) done
  intro pair member
  obtain ⟨owner, mint⟩ := mem_pairs member
  exact ⟨(mem_keys owner).2, (mem_keys mint).2⟩

/-- Any two of the accounts that are addresses derive a token account. -/
def Derivable (accounts : List String) : Prop :=
  ∀ owner ∈ keys accounts, ∀ mint ∈ keys accounts, (Address.associated? owner.2 mint.2).isSome

instance (accounts : List String) : Decidable (Derivable accounts) := by
  unfold Derivable
  infer_instance

theorem exists_find {accounts : List String} (derivable : Derivable accounts) :
    ∃ result, (find accounts).outcome = .ok result := by
  rw [find, Traced.outcome_bind, Traced.outcome_note, Outcome.ok_bind]
  apply exists_takeAll
  intro pair member
  obtain ⟨owner, mint⟩ := mem_pairs member
  obtain ⟨derived, derives⟩ := Option.isSome_iff_exists.mp (derivable pair.1 owner pair.2 mint)
  exact ⟨derived, by rw [Address.associated, derives, Option.elim_some]⟩

/-- The search comes to an end exactly when every pair derives a token account. -/
theorem exists_find_iff {accounts : List String} :
    (∃ result, (find accounts).outcome = .ok result) ↔ Derivable accounts := by
  refine ⟨?_, exists_find⟩
  rintro ⟨result, done⟩ owner ownerMember mint mintMember
  rw [find, Traced.outcome_bind, Traced.outcome_note, Outcome.ok_bind] at done
  have listed : (owner, mint) ∈ pairs (keys accounts) :=
    List.mem_flatMap.mpr ⟨owner, ownerMember, List.mem_map.mpr ⟨mint, mintMember, rfl⟩⟩
  obtain ⟨derived, derives⟩ := derives_of_exists_takeAll done _ listed
  unfold Address.associated at derives
  cases found : Address.associated? owner.2 mint.2 with
  | none =>
      rw [found] at derives
      cases derives
  | some _ => rfl

end TxTemplate.AssociatedAccount
