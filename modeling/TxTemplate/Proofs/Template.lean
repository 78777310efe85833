import TxTemplate.Proofs.Address
import TxTemplate.Proofs.Outcome
import TxTemplate.Template.Shorthand

set_option autoImplicit false

/-! Templates as documents: a template reads back from the document that it is written as, with the
fields that it keeps without knowing them, and one that names its program by an address is no
shorthand. -/

namespace TxTemplate

theorem Json.elements_orElse (items : List Json) :
    ((Json.arr items).orElse (.arr [])).elements = .ok items := by
  cases items with
  | nil => rfl
  | cons item rest => rfl

theorem AccountTemplate.ofJson_toJson (account : AccountTemplate) :
    ofJson account.toJson = .ok account := by
  obtain ⟨address, signer, writable⟩ := account
  rfl

namespace InstructionTemplate

/-- The fields that an instruction keeps without knowing them are others than its own. -/
def Separate (template : InstructionTemplate) : Prop := ∀ field ∈ template.extra, field.1 ∉ ownKeys

theorem separate_of_ofJson {document : Json} {template : InstructionTemplate}
    (read : ofJson document = .ok template) : template.Separate := by
  cases document with
  | obj fields =>
      simp only [ofJson, Json.contains, Outcome.ok_bind] at read
      split at read
      · cases read
      · obtain ⟨accounts, -, later⟩ := Outcome.bind_eq_ok.mp read
        obtain ⟨parts, -, same⟩ := Outcome.bind_eq_ok.mp later
        obtain rfl := Except.ok.inj same
        intro field member
        simpa using (List.mem_filter.mp member).2
  | null | bool _ | int _ | float _ => cases read
  | str _ | arr _ =>
      simp only [ofJson, Json.contains, Outcome.ok_bind] at read
      split at read
      · cases read
      · cases read

theorem ofJson_toJson (template : InstructionTemplate) (separate : template.Separate) :
    ofJson template.toJson = .ok template := by
  obtain ⟨program, data, accounts, extra⟩ := template
  have accountsRead : (accounts.map AccountTemplate.toJson).mapM AccountTemplate.ofJson =
      .ok accounts := by
    rw [Outcome.mapM_eq_ok, List.forall₂_map_left_iff, List.forall₂_same]
    exact fun account _ => AccountTemplate.ofJson_toJson account
  have kept : extra.filter (fun field => !ownKeys.contains field.1) = extra := by
    rw [List.filter_eq_self]
    intro field member
    rw [List.contains_eq_mem, decide_eq_false (separate field member)]
    rfl
  have own : (("program_id", program) :: ("data", data) ::
      ("accounts", Json.arr (accounts.map AccountTemplate.toJson)) :: extra).filter
        (fun field => !ownKeys.contains field.1) = extra := by
    refine Eq.trans ?_ kept
    rfl
  have found : ∀ rest : Fields, (("program_id", program) :: rest).lookup "program_id" =
    some program ∧
      (("program_id", program) :: ("data", data) :: rest).lookup "data" = some data ∧
      (("program_id", program) :: ("data", data) ::
        ("accounts", Json.arr (accounts.map AccountTemplate.toJson)) :: rest).lookup "accounts" =
          some (Json.arr (accounts.map AccountTemplate.toJson)) := fun _ => ⟨rfl, rfl, rfl⟩
  show ofJson (.obj (("program_id", program) :: ("data", data) ::
    ("accounts", Json.arr (accounts.map AccountTemplate.toJson)) :: extra)) = _
  unfold ofJson
  simp only [Json.contains, (found _).1, (found _).2.1, (found _).2.2, Option.isSome_some,
    Outcome.ok_bind, Option.getD_some, Json.elements_orElse, accountsRead, own]
  rfl

theorem mapM_ofJson_toJson {templates : List InstructionTemplate}
    (separate : ∀ template ∈ templates, template.Separate) :
    (templates.map toJson).mapM ofJson = .ok templates := by
  rw [Outcome.mapM_eq_ok, List.forall₂_map_left_iff, List.forall₂_same]
  exact fun template member => ofJson_toJson template (separate template member)

/-- Templates whose program is an address are not expanded. -/
theorem expand_eq_none {template : InstructionTemplate} {text : String} {address : Address}
    (program : template.program = .str text) (named : Address.read text = .ok address) :
    Shorthand.expand template = .ok none := by
  have other : ∀ shorthand ∈ ["set_cu_limit", "transfer", "create_ata", "close_ata"],
      shorthand ≠ text := by
    have refused : ∀ shorthand ∈ ["set_cu_limit", "transfer", "create_ata", "close_ata"],
        Address.read shorthand = .error .notBase58 ∨
            Address.read shorthand = .error .wrongSize := by
      decide
    rintro shorthand member rfl
    rcases refused shorthand member with flaw | flaw
    · rw [named] at flaw
      cases flaw
    · rw [named] at flaw
      cases flaw
  unfold Shorthand.expand
  rw [program]
  split
  all_goals
    first
    | rename_i same
      obtain rfl := Json.str.inj same
      exact absurd rfl (other _ (by simp))
    | rfl

end InstructionTemplate

namespace TransactionTemplate

theorem separate_of_ofJson {document : Json} {template : TransactionTemplate}
    (read : ofJson document = .ok template) :
    ∀ instruction ∈ template.instructions, instruction.Separate := by
  obtain ⟨present, -, later⟩ := Outcome.bind_eq_ok.mp read
  dsimp only at later
  split at later
  · cases later
  · obtain ⟨member, -, later⟩ := Outcome.bind_eq_ok.mp later
    obtain ⟨listed, -, later⟩ := Outcome.bind_eq_ok.mp later
    obtain ⟨instructions, each, later⟩ := Outcome.bind_eq_ok.mp later
    obtain ⟨named, -, later⟩ := Outcome.bind_eq_ok.mp later
    obtain ⟨signers, -, later⟩ := Outcome.bind_eq_ok.mp later
    obtain ⟨lookupTables, -, same⟩ := Outcome.bind_eq_ok.mp later
    obtain rfl := Except.ok.inj same
    intro instruction inside
    obtain ⟨document, here⟩ :=
      Outcome.exists_of_mem_results (Outcome.mapM_eq_ok.mp each) instruction inside
    exact InstructionTemplate.separate_of_ofJson here

theorem ofJson_toJson (template : TransactionTemplate)
    (separate : ∀ instruction ∈ template.instructions, instruction.Separate) :
    ofJson template.toJson = .ok template := by
  obtain ⟨instructions, signers, lookupTables⟩ := template
  have found (first second third : Json) :
      let fields := [("instructions", first), ("signers", second), ("lookup_tables", third)]
      fields.lookup "instructions" = some first ∧ fields.lookup "signers" = some second ∧
        fields.lookup "lookup_tables" = some third := ⟨rfl, rfl, rfl⟩
  simp only [ofJson, toJson, Json.contains, Json.member, Json.fieldOrNull, (found _ _ _).1,
    (found _ _ _).2.1, (found _ _ _).2.2, Option.isSome_some, Option.getD_some, Outcome.ok_bind,
    Json.elements_orElse]
  simp only [Json.elements, Outcome.ok_bind, InstructionTemplate.mapM_ofJson_toJson separate]
  rfl

end TransactionTemplate

end TxTemplate
