import TxTemplate.Confirmed.Decompile
import TxTemplate.Proofs.Outcome

set_option autoImplicit false

/-! Decompiling step by step: a transaction decompiles exactly when its message and its roster can
be read and each of its instructions decompiles, and the entries come in the order of the
instructions. -/

namespace TxTemplate

def instructionsOf (message : Fields) : Except Fault (List Json) :=
  ((message.lookup "instructions").getD (.arr [])).elements

namespace Decompiler

theorem decompile_eq_ok {decompiler : Decompiler} {instruction : Json}
    {entry : InstructionTemplate} :
    (decompiler.decompile instruction).outcome = .ok entry ↔
      ∃ parts data, decompiler.parts instruction = .ok parts ∧ dataOfJson parts.data = .ok data ∧
        entry = ⟨.str parts.program, data, parts.accounts.map decompiler.accountTemplate, []⟩ := by
  simp only [decompile, Traced.outcome_bind, Traced.outcome_liftM, Traced.outcome_note,
    Traced.outcome_pure, Outcome.bind_eq_ok, Outcome.ok_bind]
  constructor
  · rintro ⟨parts, taken, data, read, same⟩
    exact ⟨parts, data, taken, read, (Except.ok.inj same).symm⟩
  · rintro ⟨parts, data, taken, read, rfl⟩
    exact ⟨parts, taken, data, read, rfl⟩

theorem ofRoster_eq_ok {roster : Roster} {decompiler : Decompiler} :
    (ofRoster roster).outcome = .ok decompiler ↔
      ∃ associated,
        (AssociatedAccount.find (roster.map RosterEntry.account)).outcome = .ok associated ∧
        decompiler = ⟨roster, roster.signers, associated⟩ := by
  simp only [ofRoster, Traced.outcome_bind, Traced.outcome_note, Traced.outcome_pure,
    Outcome.bind_eq_ok, Outcome.ok_bind]
  constructor
  · rintro ⟨associated, found, same⟩
    exact ⟨associated, found, (Except.ok.inj same).symm⟩
  · rintro ⟨associated, found, rfl⟩
    exact ⟨associated, found, rfl⟩

end Decompiler

/-- What a transaction has to be for its template to come out. -/
theorem decompileTransaction_eq_ok {transaction : Json} {template : DecompiledTransaction} :
    (decompileTransaction transaction).outcome = .ok template ↔
      ∃ message record roster decompiler instructions,
        messageOf? transaction = .ok (some message) ∧ recordOf transaction = .ok record ∧
        Roster.ofMessage message record = .ok roster ∧
        (Decompiler.ofRoster roster).outcome = .ok decompiler ∧
        instructionsOf message = .ok instructions ∧
        List.Forall₂ (fun instruction entry =>
          (decompiler.decompile instruction).outcome = .ok entry)
          instructions template.instructions ∧
        template.signers = decompiler.signerParams := by
  unfold decompileTransaction
  constructor
  · intro done
    rw [Traced.outcome_bind, Outcome.bind_eq_ok] at done
    obtain ⟨message?, encoded, rest⟩ := done
    cases message? with
    | none => cases rest
    | some message =>
        simp only [Traced.outcome_bind, Traced.outcome_liftM, Traced.outcome_mapM,
          Traced.outcome_pure, Outcome.bind_eq_ok, Outcome.mapM_eq_ok] at rest
        obtain ⟨record, recorded, roster, listed, decompiler, made, instructions, given,
          entries, each, same⟩ := rest
        obtain rfl := Except.ok.inj same
        exact ⟨message, record, roster, decompiler, instructions, encoded, recorded, listed,
          made, given, each, rfl⟩
  · rintro ⟨message, record, roster, decompiler, instructions, encoded, recorded, listed,
      made, given, each, signers⟩
    have entries := Outcome.mapM_eq_ok.mpr each
    rw [instructionsOf] at given
    simp only [Traced.outcome_bind, Traced.outcome_liftM, encoded, Outcome.ok_bind, recorded,
      listed, made, given, Traced.outcome_mapM, entries, Traced.outcome_pure, ← signers]

/-- A transaction whose accounts can be searched comes out when each of its instructions does. -/
theorem exists_decompileTransaction {transaction record : Json} {message : Fields}
    {roster : Roster} {associated : List AssociatedAccount} {instructions : List Json}
    (encoded : messageOf? transaction = .ok (some message))
    (recorded : recordOf transaction = .ok record)
    (listed : Roster.ofMessage message record = .ok roster)
    (found : (AssociatedAccount.find (roster.map RosterEntry.account)).outcome = .ok associated)
    (given : instructionsOf message = .ok instructions)
    (each : ∀ instruction ∈ instructions, ∃ entry,
      (Decompiler.decompile ⟨roster, roster.signers, associated⟩ instruction).outcome = .ok entry) :
    ∃ template, (decompileTransaction transaction).outcome = .ok template ∧
      List.Forall₂ (fun instruction entry =>
        (Decompiler.decompile ⟨roster, roster.signers, associated⟩ instruction).outcome = .ok entry)
        instructions template.instructions ∧
      template.signers = Decompiler.signerParams ⟨roster, roster.signers, associated⟩ := by
  obtain ⟨entries, all⟩ := Outcome.exists_mapM each
  have results := Outcome.mapM_eq_ok.mp all
  have made := Decompiler.ofRoster_eq_ok.mpr ⟨associated, found, rfl⟩
  exact ⟨⟨entries, _⟩,
    decompileTransaction_eq_ok.mpr ⟨message, record, roster, _, instructions, encoded,
    recorded, listed, made, given, results, rfl⟩, results, rfl⟩

end TxTemplate
