import TxTemplate.Proofs.Fault.Leak
import TxTemplate.Proofs.Fault.Reading

set_option autoImplicit false

/-! What leaks through compiling, and so through the codec as a whole. An instruction leaks what its
program, its accounts or its data do. -/

namespace TxTemplate

open Outcome

variable {fault : Fault}

namespace InstructionTemplate

/-! ### Instructions -/

/-- The full templates that leak: by their program, the first account that is not resolved, or their
data. -/
inductive IsLeaky (params : Params) (template : InstructionTemplate) : Fault → Prop where
  | program {fault : Fault} (leaky : Descriptor.IsLeaky params template.program fault) :
      IsLeaky params template fault
  | account {program : Address} {before after : List AccountTemplate} {account : AccountTemplate}
      {fault : Fault}
      (resolved : Descriptor.resolve params template.program = .ok program)
      (listed : template.accounts = before ++ account :: after)
      (earlier : ∀ other ∈ before, ∃ address, Descriptor.resolve params other.address = .ok address)
      (leaky : Descriptor.IsLeaky params account.address fault) : IsLeaky params template fault
  | data {program : Address} {fault : Fault}
      (resolved : Descriptor.resolve params template.program = .ok program)
      (accounts : ∀ account ∈ template.accounts,
        ∃ address, Descriptor.resolve params account.address = .ok address)
      (leaky : TypedData.IsLeaky params TypedData.nestingLimit template.data fault) :
        IsLeaky params template fault

variable {params : Params} {template : InstructionTemplate}

theorem exists_resolveAccount_iff {account : AccountTemplate} :
    (∃ resolved, resolveAccount params account = .ok resolved) ↔
      ∃ address, Descriptor.resolve params account.address = .ok address := by
  unfold resolveAccount
  cases Descriptor.resolve params account.address <;> simp

theorem leaks_resolveAccounts {accounts : List AccountTemplate} :
    Leaks (resolveAccounts params accounts) fault ↔
      FirstLeaks (fun account => ∃ address, Descriptor.resolve params account.address = .ok address)
        (fun account => Descriptor.IsLeaky params account.address fault) accounts := by
  have single : ∀ account, Leaks (resolveAccount params account) fault ↔
      Descriptor.IsLeaky params account.address fault := fun account => by
    simp [resolveAccount, leaks_bind, Descriptor.leaks_resolve_iff]
  simp only [resolveAccounts, leaks_mapM, exists_resolveAccount_iff, single]

theorem leaks_compileFull_iff :
    Leaks (compileFull params template).outcome fault ↔ IsLeaky params template fault := by
  simp only [compileFull, Traced.outcome_bind, Traced.outcome_liftM, Traced.outcome_pure,
    leaks_bind, Descriptor.leaks_resolve_iff, leaks_resolveAccounts, not_leaks_ok, and_false,
    exists_false, or_false, TypedData.pack, TypedData.leaks_packNested_iff]
  constructor
  · rintro (leaky | ⟨program, resolved, rest⟩)
    · exact .program leaky
    · obtain ⟨before, account, after, listed, earlier, leaky⟩ | ⟨accounts, done, leaky⟩ := rest
      · exact .account resolved listed earlier leaky
      · have each := exists_mapM_iff.mp ⟨accounts, done⟩
        exact .data resolved (fun account member =>
          exists_resolveAccount_iff.mp (each account member)) leaky
  · rintro (leaky | ⟨resolved, listed, earlier, leaky⟩ | ⟨resolved, accounts, leaky⟩)
    · exact .inl leaky
    · exact .inr ⟨_, resolved, .inl ⟨_, _, _, listed, earlier, leaky⟩⟩
    · obtain ⟨results, done⟩ := exists_mapM fun account member =>
        exists_resolveAccount_iff.mpr (accounts account member)
      exact .inr ⟨_, resolved, .inr ⟨results, done, leaky⟩⟩

theorem not_leaks_argument {key name : String} (named : template.program = .str name) :
    ¬ Leaks (template.argument key) fault := by
  unfold argument
  split
  · exact not_leaks_ok _
  · simp [named, Json.isWritable]

theorem not_leaks_expand : ¬ Leaks (Shorthand.expand template) fault := by
  unfold Shorthand.expand
  split
  all_goals first
    | rename_i named
      simp [leaks_bind, not_leaks_argument named]
    | simp

theorem leaks_compile_iff :
    Leaks (compile params template).outcome fault ↔
      ∃ expanded, Shorthand.expand template = .ok expanded ∧
      IsLeaky params (expanded.getD template) fault := by
  simp only [compile, Traced.outcome_bind, Traced.outcome_liftM, leaks_bind, not_leaks_expand,
    false_or]
  refine exists_congr fun expanded => and_congr_right fun _ => ?_
  cases expanded <;> exact leaks_compileFull_iff

end InstructionTemplate

def accented : InstructionTemplate where
  program := .str "MemoSq4gqABAXKb96qnH8TysNcWxMyWCqXgDLGmfcHr"
  data := .str "é"
  accounts := []
  extra := []

end TxTemplate
