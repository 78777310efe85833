import Mathlib.Data.List.Dedup
import Mathlib.Data.List.Nodup
import TxTemplate.Confirmed.Roster
import TxTemplate.Proofs.Distinct
import TxTemplate.Proofs.Outcome

set_option autoImplicit false

/-! The account list of a transaction and the rights that it gives. Two kinds of message list their
accounts in different ways; both are stated here from the outside, by their fields, and shown to be
what the roster is read from. In a list without repetitions an account has the rights of its
entry. -/

namespace TxTemplate

namespace Roster

/-- The addresses that were taken from lookup tables, where any were. -/
def Loads (addresses : Json) (writable readonly : List String) : Prop :=
  match addresses with
  | .null => writable = [] ∧ readonly = []
  | .obj fields =>
    (fields.lookup "writable").getD (.arr []) = .arr (writable.map .str) ∧
      (fields.lookup "readonly").getD (.arr []) = .arr (readonly.map .str)
  | _ => False

/-- The counts of a header: signers, signers that are only read, others that are only read. -/
def Counts (message : Fields) (signers readonlySigners readonlyOthers : Int) : Prop :=
  ∃ header, (message.lookup "header").getD (.obj []) = .obj header ∧
    (header.lookup "numRequiredSignatures").getD (.int 0) = .int signers ∧
    (header.lookup "numReadonlySignedAccounts").getD (.int 0) = .int readonlySigners ∧
    (header.lookup "numReadonlyUnsignedAccounts").getD (.int 0) = .int readonlyOthers

/-- The rights of the key at a position. The signers come first, and in either group the last ones
are only read. -/
def keyEntry (signers readonlySigners readonlyOthers : Int) (total : Nat) (key : String)
    (position : Nat) :
    RosterEntry where
  account := key
  signer := decide (position < signers)
  writable :=
    if position < signers then decide (position < signers - readonlySigners)
    else decide (position < total - readonlyOthers)

def ofKeys (signers readonlySigners readonlyOthers : Int) (keys : List String) : Roster :=
  keys.zipIdx.map fun key => keyEntry signers readonlySigners readonlyOthers keys.length key.1 key.2

/-- Loaded accounts never sign, and those that may be written come first. -/
def ofLoaded (writable readonly : List String) : Roster :=
  (writable.map fun key => ⟨key, false, true⟩) ++ readonly.map fun key => ⟨key, false, false⟩

def States (key : Json) (entry : RosterEntry) : Prop :=
  ∃ fields, key = .obj fields ∧ fields.lookup "pubkey" = some (.str entry.account) ∧
    ((fields.lookup "signer").getD .null).isTruthy = entry.signer ∧
    ((fields.lookup "writable").getD .null).isTruthy = entry.writable

/-- The message and the record of a transaction list these accounts with these rights. -/
inductive Lists (message : Fields) (record : Json) : Roster → Prop where
  | header {keys writable readonly : List String} {signers readonlySigners readonlyOthers : Int}
      {recorded : Fields} (given : (message.lookup "accountKeys").getD (.arr []) =
        .arr (keys.map .str))
      (counts : Counts message signers readonlySigners readonlyOthers)
        (whole : record = .obj recorded)
      (loads : Loads ((recorded.lookup "loadedAddresses").getD .null) writable readonly) :
      Lists message record
        (ofKeys signers readonlySigners readonlyOthers keys ++ ofLoaded writable readonly)
  | stated {keys : List Json} {roster : Roster}
      (given : message.lookup "accountKeys" = some (.arr keys)) (some : keys ≠ [])
      (each : List.Forall₂ States keys roster) : Lists message record roster

/-! ### Reading the list -/

theorem entryOfKey_int {signers readonlySigners readonlyOthers : Int} {total position : Nat}
    {key : String} :
    entryOfKey ⟨.int signers, .int readonlySigners, .int readonlyOthers⟩ total position (.str key) =
      .ok (keyEntry signers readonlySigners readonlyOthers total key position) := by
  unfold entryOfKey keyEntry
  by_cases signs : (position : Int) < signers
  · simp [Json.isBelow, Json.minus, Number.ofJson, Number.ofJson?, Number.before, Number.minus,
      Number.toJson, Json.display, signs]
  · simp [Json.isBelow, Json.minus, Number.ofJson, Number.ofJson?, Number.before, Number.minus,
      Number.toJson, Json.display, signs]

theorem entriesOfKeys_int (signers readonlySigners readonlyOthers : Int) (total position : Nat)
    (keys : List String) :
    entriesOfKeys ⟨.int signers, .int readonlySigners, .int readonlyOthers⟩ total position
      (keys.map .str) =
      .ok ((keys.zipIdx position).map fun key =>
        keyEntry signers readonlySigners readonlyOthers total key.1 key.2) := by
  induction keys generalizing position with
  | nil => rfl
  | cons key rest ih =>
      rw [List.map_cons, entriesOfKeys, entryOfKey_int, Outcome.ok_bind, ih, List.zipIdx_cons]
      rfl

theorem isParsed_texts (keys : List String) : isParsed (.arr (keys.map .str)) = .ok false := by
  cases keys with
  | nil => rfl
  | cons key rest => rfl

theorem header_of_counts {message : Fields} {signers readonlySigners readonlyOthers : Int}
    (counts : Counts message signers readonlySigners readonlyOthers) :
    Header.ofMessage (.obj message) =
      .ok ⟨.int signers, .int readonlySigners, .int readonlyOthers⟩ := by
  obtain ⟨header, given, first, second, third⟩ := counts
  simp only [Header.ofMessage, Json.field?, Outcome.ok_bind, given, first, second, third,
    Outcome.pure_eq_ok]

theorem loaded_of_lookup {fields : Fields} {kind : String} {keys : List String} (writable : Bool)
    (given : (fields.lookup kind).getD (.arr []) = .arr (keys.map .str)) :
    loaded (.obj fields) kind writable = .ok (keys.map fun key => ⟨key, false, writable⟩) := by
  simp only [loaded, Json.field?, Outcome.ok_bind, given, Json.elements, Outcome.pure_eq_ok,
    List.map_map]
  rfl

theorem entryOfParsed_eq_ok {key : Json} {entry : RosterEntry} (states : States key entry) :
    entryOfParsed key = .ok entry := by
  obtain ⟨fields, rfl, named, signs, writes⟩ := states
  simp only [entryOfParsed, Json.member, named, Json.fieldOrNull, Outcome.ok_bind, signs, writes,
    Json.display, Outcome.pure_eq_ok]

theorem ofRaw_of_loads {message : Fields} {addresses : Json} {keys writable readonly : List String}
    {signers readonlySigners readonlyOthers : Int}
    (given : (message.lookup "accountKeys").getD (.arr []) = .arr (keys.map .str))
    (counts : Counts message signers readonlySigners readonlyOthers)
    (loads : Loads addresses writable readonly) :
    ofRaw (.obj message) addresses =
      .ok (ofKeys signers readonlySigners readonlyOthers keys ++ ofLoaded writable readonly) := by
  have own : entriesOfKeys ⟨.int signers, .int readonlySigners, .int readonlyOthers⟩ keys.length 0
      (keys.map .str) = .ok (ofKeys signers readonlySigners readonlyOthers keys) :=
    entriesOfKeys_int signers readonlySigners readonlyOthers keys.length 0 keys
  unfold ofRaw
  simp only [header_of_counts counts, Json.field?, Outcome.ok_bind, given, Json.elements,
    List.length_map, own]
  cases addresses with
  | null =>
      obtain ⟨rfl, rfl⟩ := loads
      simp [Json.isTruthy, ofLoaded]
  | obj fields =>
      by_cases empty : fields = []
      · subst empty
        obtain ⟨noWritable, noReadonly⟩ := loads
        obtain rfl : writable = [] := by simpa using noWritable
        obtain rfl : readonly = [] := by simpa using noReadonly
        simp [Json.isTruthy, ofLoaded]
      · have truthy : (Json.obj fields).isTruthy = true := by
          rw [Json.isTruthy, List.isEmpty_eq_false_iff.mpr empty]
          rfl
        rw [if_pos truthy, loaded_of_lookup true loads.1, loaded_of_lookup false loads.2,
          Outcome.ok_bind, Outcome.ok_bind, List.append_assoc]
        rfl
  | bool _ | int _ | float _ | str _ | arr _ => exact loads.elim

theorem ofMessage_of_lists {message : Fields} {record : Json} {roster : Roster}
    (lists : Lists message record roster) : ofMessage message record = .ok roster := by
  unfold ofMessage
  cases lists with
  | header given counts whole loads =>
      subst whole
      simp only [given, isParsed_texts, Outcome.ok_bind, Json.fieldOrNull,
        ofRaw_of_loads given counts loads]
      rfl
  | @stated keys roster given some each =>
      have parsed : isParsed (.arr keys) = .ok true := by
        cases each with
        | nil => exact absurd rfl some
        | cons first _ =>
            obtain ⟨fields, rfl, -⟩ := first
            rfl
      have listed := Outcome.mapM_eq_ok.mpr (each.imp fun _ _ => entryOfParsed_eq_ok)
      simp only [given, Option.getD_some, parsed, Outcome.ok_bind, ofParsed, Json.field?,
        Json.elements, listed]
      rfl

/-! ### Accounts without repetitions -/

section Distinct

variable {roster : Roster} {entry : RosterEntry}

theorem eq_of_account (distinct : (roster.map RosterEntry.account).Nodup) {other : RosterEntry}
    (member : entry ∈ roster) (otherMember : other ∈ roster)
    (same : entry.account = other.account) :
    entry = other :=
  List.inj_on_of_nodup_map distinct member otherMember same

theorem mem_signers {account : String} :
    account ∈ roster.signers ↔ ∃ entry ∈ roster, entry.signer = true ∧ entry.account = account := by
  simp only [signers, List.mem_eraseDups, List.mem_map, List.mem_filter]
  constructor
  · rintro ⟨entry, ⟨member, signs⟩, same⟩
    exact ⟨entry, member, signs, same⟩
  · rintro ⟨entry, member, signs, same⟩
    exact ⟨entry, ⟨member, signs⟩, same⟩

theorem contains_signers (distinct : (roster.map RosterEntry.account).Nodup)
    (member : entry ∈ roster) :
    roster.signers.contains entry.account = entry.signer := by
  rw [Bool.eq_iff_iff, List.contains_iff_mem, mem_signers]
  constructor
  · rintro ⟨other, otherMember, signs, same⟩
    rwa [← eq_of_account distinct otherMember member same]
  · exact fun signs => ⟨entry, member, signs, rfl⟩

theorem isWritable_eq (distinct : (roster.map RosterEntry.account).Nodup)
    (member : entry ∈ roster) :
    roster.isWritable entry.account = entry.writable := by
  rw [Bool.eq_iff_iff, isWritable, List.any_eq_true]
  constructor
  · rintro ⟨other, otherMember, both⟩
    rw [Bool.and_eq_true, beq_iff_eq] at both
    rw [← eq_of_account distinct otherMember member both.2]
    exact both.1
  · intro writes
    exact ⟨entry, member, by rw [writes, beq_self_eq_true]; rfl⟩

end Distinct

/-- Where no account comes twice, the signers are the accounts that sign, in their order. -/
theorem signers_eq {roster : Roster} (distinct : (roster.map RosterEntry.account).Nodup) :
    roster.signers = (roster.filter RosterEntry.signer).map RosterEntry.account :=
  eraseDups_of_nodup (distinct.sublist (List.filter_sublist.map RosterEntry.account))

theorem nodup_signers (roster : Roster) : roster.signers.Nodup := nodup_eraseDups _

end Roster

end TxTemplate
