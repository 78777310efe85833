import Mathlib
import TxTemplate.Proofs.Job.Isolation

set_option autoImplicit false

/-! Which accounts a template's dump covers. The run over a compiled template gets to the accounts
of its instructions and to no other address. So a program or a lookup table is covered only where it
is an account of some instruction as well. -/

namespace TxTemplate

open TxTemplate.Action Directory

namespace CompiledTransaction

def accounts (compiled : CompiledTransaction) : List Address :=
  compiled.instructions.flatMap fun instruction => instruction.accounts.map AccountMeta.address

/-- The programs that are called, and the lookup tables. -/
def surroundings (compiled : CompiledTransaction) : List Address :=
  compiled.instructions.map Instruction.program ++ compiled.lookupTables

/-- All addresses that a transaction refers to. -/
def references (compiled : CompiledTransaction) : List Address :=
  compiled.accounts ++ compiled.surroundings

end CompiledTransaction

namespace Job

theorem accountsOf_eq (compiled : CompiledTransaction) :
    accountsOf compiled = compiled.accounts.map Address.text := by
  simp only [accountsOf, CompiledTransaction.accounts, List.map_flatMap, List.map_map]
  rfl

theorem mem_accountsOf {compiled : CompiledTransaction} {address : Address} :
    address.text ∈ accountsOf compiled ↔ address ∈ compiled.accounts := by
  rw [accountsOf_eq]
  exact List.mem_map_of_injective Address.text_injective

section Needed

variable {client : Client} {template : String} {folder : Json} {params : Params} {session : Session}
  {compiled : CompiledTransaction}

def compiledSession (template : String) (params : Params) (session : Session) : Session :=
  ((compileFile template params).on session).2

/-- The addresses that the run for a template gets to. -/
def attemptedFor (client : Client) (template : String) (folder : Json) (params : Params)
    (session : Session) (compiled : CompiledTransaction) : List String :=
  attempted client folder (Touched.sorted (accountsOf compiled))
    (compiledSession template params session)

theorem dumpNeeded_attempts_accounts
    (accepted : ((compileFile template params).on session).1 = .ok compiled) :
    let tried := attemptedFor client template folder params session compiled
    let run := (dumpNeeded client template folder params).on session
    run = (dumpAccounts client (accountsOf compiled) folder).on
      (compiledSession template params session) ∧
      (∀ text ∈ tried, ∃ address ∈ compiled.accounts, address.text = text) ∧
      (run.1 = .ok () →
        (∀ address : Address, address.text ∈ tried ↔ address ∈ compiled.accounts) ∧
        ((∀ address ∈ compiled.references, address.text ∈ tried) ↔
          ∀ address ∈ compiled.surroundings, address ∈ compiled.accounts)) := by
  have ran : (dumpNeeded client template folder params).on session =
      (dumpAccounts client (accountsOf compiled) folder).on
          (compiledSession template params session) := by
    rw [dumpNeeded, on_bind_of_outcome compiled accepted]
    rfl
  refine ⟨ran, fun text member => ?_, fun done => ?_⟩
  · have listed := Touched.mem_sorted.mp ((isPrefix_attempted _ _ _ _).subset member)
    rw [accountsOf_eq] at listed
    obtain ⟨address, account, same⟩ := List.mem_map.mp listed
    exact ⟨address, account, same⟩
  · rw [ran] at done
    have all : attemptedFor client template folder params session compiled =
      Touched.sorted (accountsOf compiled) :=
      attempted_of_ok done
    have tried (address : Address) : address.text ∈ attemptedFor client template folder params
      session compiled ↔
        address ∈ compiled.accounts := by
      rw [all, Touched.mem_sorted, mem_accountsOf]
    refine ⟨tried, ?_⟩
    simp only [tried, CompiledTransaction.references, List.forall_mem_append]
    exact and_iff_right fun _ member => member

end Needed

/-! ### A program, an account and a table -/

/-- A program is called with one account, and there is a lookup table. -/
def callText : String :=
  "\x7b\"instructions\":[\x7b\"program_id\":\"MemoSq4gqABAXKb96qnH8TysNcWxMyWCqXgDLGmfcHr\"," ++
    "\"data\":\"\",\"accounts\":[\x7b\"pubkey\":\"11111111111111111111111111111111\"\x7d]\x7d]," ++
    "\"lookup_tables\":[\"7QmZqUQCrHWsEanUyUPpHw1vFymTyiQ9vjrpjspiT5nv\"]\x7d"

def callSession : Session := Session.start ⟨[(["t.json"], .file (.text callText))]⟩ [] Node.silent

theorem load_callText : TransactionTemplate.load callSession.directory "t.json" =
    .ok ⟨[⟨.str "MemoSq4gqABAXKb96qnH8TysNcWxMyWCqXgDLGmfcHr", .str "",
      [⟨.str "11111111111111111111111111111111", false, false⟩], []⟩], [],
      .arr [.str "7QmZqUQCrHWsEanUyUPpHw1vFymTyiQ9vjrpjspiT5nv"]⟩ := by
  have means : Json.read callText = .ok (.obj [("instructions", .arr [.obj
      [("program_id", .str "MemoSq4gqABAXKb96qnH8TysNcWxMyWCqXgDLGmfcHr"), ("data", .str ""),
        ("accounts", .arr [.obj [("pubkey", .str "11111111111111111111111111111111")]])]]),
      ("lookup_tables", .arr [.str "7QmZqUQCrHWsEanUyUPpHw1vFymTyiQ9vjrpjspiT5nv"])]) := by cbv
  rw [TransactionTemplate.load, readDocument_of_text rfl rfl (by decide +kernel) means]
  rfl

theorem exists_compileFile_callSession : ∃ compiled,
    (compileFile "t.json" []).on callSession = (.ok compiled, callSession) ∧
      compiled.accounts = [Address.systemProgram] ∧ compiled.surroundings.map Address.text =
        ["MemoSq4gqABAXKb96qnH8TysNcWxMyWCqXgDLGmfcHr",
          "7QmZqUQCrHWsEanUyUPpHw1vFymTyiQ9vjrpjspiT5nv"] := by
  rw [compileFile, on_bind_of_ok (on_files _), on_ofTraced, TransactionTemplate.compileFile,
    load_callText]
  exact ⟨_, rfl, rfl, by decide +kernel⟩

theorem on_dumpNeeded_callSession {compiled : CompiledTransaction}
    (reached : (compileFile "t.json" []).on callSession = (.ok compiled, callSession))
    (accounts : compiled.accounts = [Address.systemProgram]) :
    let run := (dumpNeeded ⟨"http://node", "confirmed", 3⟩ "t.json" (.str "out") []).on callSession
    run.1 = .ok () ∧ run.2.calls =
        [.connect "http://node" "confirmed", .accountInfo Address.systemProgram] := by
  have sorted : Touched.sorted (accountsOf compiled) = [Address.systemProgram.text] := by
    simp [Touched.sorted, accountsOf_eq, accounts, List.eraseDups_cons]
  rw [dumpNeeded, on_bind_of_ok reached, dumpAccounts, sorted]
  exact ⟨rfl, rfl⟩

theorem dumpNeeded_callSession :
    ∃ compiled, ((compileFile "t.json" []).on callSession).1 = .ok compiled ∧
      let tried := attemptedFor ⟨"http://node", "confirmed", 3⟩ "t.json" (.str "out") [] callSession
        compiled
      (∀ address : Address, address.text ∈ tried ↔ address = Address.systemProgram) ∧
        ¬ ∀ address ∈ compiled.references, address.text ∈ tried := by
  obtain ⟨compiled, reached, accounts, surroundings⟩ := exists_compileFile_callSession
  have accepted := congrArg Prod.fst reached
  obtain ⟨-, -, covers⟩ :=
    @dumpNeeded_attempts_accounts ⟨"http://node", "confirmed", 3⟩ "t.json" (.str "out") []
    callSession _ accepted
  obtain ⟨tried, whole⟩ := covers (on_dumpNeeded_callSession reached accounts).1
  rw [accounts] at tried whole
  refine ⟨compiled, accepted, fun address => (tried address).trans List.mem_singleton,
    fun all => ?_⟩
  have same : ∀ text ∈ compiled.surroundings.map Address.text,
      text = Address.systemProgram.text := by
    intro text member
    obtain ⟨address, listed, rfl⟩ := List.mem_map.mp member
    exact congrArg Address.text (List.mem_singleton.mp (whole.mp all address listed))
  rw [surroundings] at same
  exact absurd (same _ List.mem_cons_self) (by decide)

/-- Neither the program nor the lookup table is got to. -/
theorem uncovered_callSession :
    ∃ compiled, ((compileFile "t.json" []).on callSession).1 = .ok compiled ∧
      compiled.references.map Address.text = ["11111111111111111111111111111111",
        "MemoSq4gqABAXKb96qnH8TysNcWxMyWCqXgDLGmfcHr",
          "7QmZqUQCrHWsEanUyUPpHw1vFymTyiQ9vjrpjspiT5nv"] ∧
      attemptedFor ⟨"http://node", "confirmed", 3⟩ "t.json" (.str "out") [] callSession compiled =
        ["11111111111111111111111111111111"] ∧
      let run := (dumpNeeded ⟨"http://node", "confirmed", 3⟩ "t.json" (.str "out") []).on
        callSession
      run.1 = .ok () ∧ run.2.calls =
          [.connect "http://node" "confirmed", .accountInfo Address.systemProgram] := by
  obtain ⟨compiled, reached, accounts, surroundings⟩ := exists_compileFile_callSession
  have sorted : Touched.sorted (accountsOf compiled) = ["11111111111111111111111111111111"] := by
    have text : Address.systemProgram.text = "11111111111111111111111111111111" := by decide
    simp [Touched.sorted, accountsOf_eq, accounts, List.eraseDups_cons, text]
  refine ⟨compiled, congrArg Prod.fst reached, ?_, ?_, on_dumpNeeded_callSession reached accounts⟩
  · rw [CompiledTransaction.references, List.map_append, accounts, surroundings]
    decide
  · rw [attemptedFor, sorted, compiledSession, reached]
    rfl

end Job

end TxTemplate
