import TxTemplate.Node.Client
import TxTemplate.Proofs.Json
import TxTemplate.Proofs.Settings.Reference
import TxTemplate.Proofs.Storage
import TxTemplate.Settings.Basic

set_option autoImplicit false

/-! Settings from a file. A variable that overrides comes before the file, and the file before the
defaults. Settings load exactly where every reference that resolution comes to names a variable and
the values that come out pass, and whatever does not load is refused. -/

namespace TxTemplate

open Outcome

namespace Settings

/-! ### Precedence -/

/-- The value of a variable that is not empty. -/
def filled? (environment : Environment) (source : String) : Option String :=
  (environment.value? source).filter fun value => !value.isEmpty

/-- What the environment has in place of a key. -/
def overriding? (environment : Environment) (key : String) : Option String :=
  if key = "rpc_endpoint" then filled? environment "SOLTNET_RPC_ENDPOINT"
  else if key = "mainnet_rpc_endpoint" then filled? environment "SOLTNET_MAINNET_RPC_ENDPOINT"
  else none

/-- The value that is chosen for a key: what overrides it, else what the resolved fields of the file
have for it, else the default. -/
def chosen (environment : Environment) (fields : Fields) (key : String) : Option Json :=
  ((overriding? environment key).map Json.str).or ((fields.lookup key).or (defaults.lookup key))

theorem lookup_override (environment : Environment) (fields : Fields) (source name key : String) :
    (override environment fields (source, name)).lookup key =
      ((if key = name then filled? environment source else none).map Json.str).or
        (fields.lookup key) := by
  unfold override filled?
  dsimp only
  cases environment.value? source with
  | none => rw [Option.filter_none, ite_self]; rfl
  | some value =>
      dsimp only
      cases empty : value.isEmpty with
      | true =>
          rw [if_pos rfl, Option.filter_some, empty]
          split <;> rfl
      | false =>
          rw [if_neg Bool.false_ne_true, Option.filter_some, empty]
          split
          · rename_i same
            subst same
            exact Json.lookup_setField_self _ _ _
          · rename_i different
            exact Json.lookup_setField_of_ne different _ _

/-- The fields that are checked: those of the file over the defaults, under what overrides them. -/
def laid (environment : Environment) (fields : Fields) : Fields :=
  overrides.foldl (override environment) (Json.setFields defaults fields)

theorem lookup_laid {fields : Fields} (distinct : (fields.map Prod.fst).Nodup)
    (environment : Environment) (key : String) :
    (laid environment fields).lookup key = chosen environment fields key := by
  rw [laid, chosen, overriding?]
  simp only [overrides, List.foldl_cons, List.foldl_nil, lookup_override,
    Json.lookup_setFields distinct]
  by_cases main : key = "mainnet_rpc_endpoint"
  · subst main
    rfl
  · rw [if_neg main]
    rfl

/-! ### Checking -/

def HasScheme (endpoint : String) : Prop :=
  "http://".toList <+: endpoint.toList ∨ "https://".toList <+: endpoint.toList

/-- Values that pass: texts that can be reached for the endpoints, a whole number of attempts from
one to ten, and names that are known, whatever their case for the level. -/
structure Passes (value : String → Option Json) : Prop where
  endpoint : ∃ text, value "rpc_endpoint" = some (.str text) ∧ HasScheme text
  mainEndpoint : ∃ text, value "mainnet_rpc_endpoint" = some (.str text) ∧ HasScheme text
  retries : ∃ count : Int, value "max_retries" = some (.int count) ∧ 1 ≤ count ∧ count ≤ 10
  commitment : ∃ name ∈ commitments, value "commitment" = some (.str name)
  level : ∃ name, value "log_level" = some (.str name) ∧ capitals name ∈ Level.all.map Level.name

variable (fields : Fields)

theorem field_eq_str {key text : String} :
    field fields key = .str text ↔ fields.lookup key = some (.str text) := by
  unfold field
  cases fields.lookup key <;> simp

theorem field_eq_int {key : String} {count : Int} :
    field fields key = .int count ↔ fields.lookup key = some (.int count) := by
  unfold field
  cases fields.lookup key <;> simp

theorem hasScheme_iff (endpoint : String) :
    (schemes.any fun scheme => scheme.toList.isPrefixOf endpoint.toList) = true ↔
      HasScheme endpoint := by
  simp only [schemes, List.any_cons, List.any_nil, Bool.or_false, Bool.or_eq_true,
    List.isPrefixOf_iff_prefix, HasScheme]

theorem decides_checkEndpoint (key : String) :
    Decides (∃ text, fields.lookup key = some (.str text) ∧ HasScheme text)
      (fun endpoint => fields.lookup key = some (.str endpoint) ∧ HasScheme endpoint)
        (checkEndpoint fields key) := by
  unfold checkEndpoint
  split
  · rename_i text held
    rw [field_eq_str] at held
    by_cases scheme : HasScheme text
    · rw [if_pos ((hasScheme_iff text).mpr scheme)]
      exact .ok ⟨text, held, scheme⟩ ⟨held, scheme⟩
    · rw [if_neg fun found => scheme ((hasScheme_iff text).mp found)]
      refine .error ?_ rfl
      rintro ⟨other, same, reachable⟩
      cases held.symm.trans same
      exact scheme reachable
  · rename_i other
    refine .error ?_ rfl
    rintro ⟨text, held, -⟩
    exact other text ((field_eq_str fields).mpr held)

theorem decides_checkRetries :
    Decides (∃ count : Int, fields.lookup "max_retries" = some (.int count) ∧ 1 ≤ count ∧
      count ≤ 10)
      (fun retries : Nat => fields.lookup "max_retries" = some (.int retries) ∧ 1 ≤ retries ∧
        retries ≤ 10)
      (checkRetries fields) := by
  unfold checkRetries
  split
  · rename_i count held
    rw [field_eq_int] at held
    by_cases range : 1 ≤ count ∧ count ≤ 10
    · rw [if_pos range]
      have natural : (count.toNat : Int) = count := Int.toNat_of_nonneg (by omega)
      exact .ok ⟨count, held, range⟩ ⟨by rw [natural]; exact held, by omega, by omega⟩
    · rw [if_neg range]
      refine .error ?_ rfl
      rintro ⟨other, same, within⟩
      cases held.symm.trans same
      exact range within
  · rename_i other
    refine .error ?_ rfl
    rintro ⟨count, held, -⟩
    exact other count ((field_eq_int fields).mpr held)

theorem decides_checkCommitment :
    Decides (∃ name ∈ commitments, fields.lookup "commitment" = some (.str name))
      (fun name => name ∈ commitments ∧ fields.lookup "commitment" = some (.str name))
        (checkCommitment fields) := by
  unfold checkCommitment
  dsimp only
  split
  · rename_i name held
    rw [field_eq_str] at held
    by_cases known : name ∈ commitments
    · rw [if_pos (List.contains_iff_mem.mpr known)]
      exact .ok ⟨name, known, held⟩ ⟨known, held⟩
    · rw [if_neg fun found => known (List.contains_iff_mem.mp found)]
      refine .error ?_ rfl
      rintro ⟨other, listed, same⟩
      cases held.symm.trans same
      exact known listed
  · rename_i other
    refine .error ?_ rfl
    rintro ⟨name, -, held⟩
    exact other name ((field_eq_str fields).mpr held)

theorem ofName?_eq_some {name : String} {level : Level} :
    Level.ofName? name = some level ↔ level.name = name := by
  constructor
  · intro found
    have matched := List.find?_some found
    exact beq_iff_eq.mp matched
  · rintro rfl
    cases level <;> rfl

theorem decides_checkLevel :
    Decides (∃ name, fields.lookup "log_level" = some (.str name) ∧
      capitals name ∈ Level.all.map Level.name)
      (fun level => ∃ name, fields.lookup "log_level" = some (.str name) ∧
        capitals name = level.name)
      (checkLevel fields) := by
  unfold checkLevel
  dsimp only
  split
  · rename_i name held
    rw [field_eq_str] at held
    cases found : Level.ofName? (capitals name) with
    | some level =>
        have spelled := ofName?_eq_some.mp found
        refine .ok ⟨name, held, ?_⟩ ⟨name, held, spelled.symm⟩
        rw [← spelled]
        exact List.mem_map_of_mem (by cases level <;> decide)
    | none =>
        refine .error ?_ rfl
        rintro ⟨other, same, listed⟩
        cases held.symm.trans same
        obtain ⟨level, -, spelled⟩ := List.mem_map.mp listed
        cases found.symm.trans (ofName?_eq_some.mpr spelled)
  · rename_i other
    refine .error ?_ rfl
    rintro ⟨name, held, -⟩
    exact other name ((field_eq_str fields).mpr held)

def capitalised (key : String) : Json → Json
  | .str name => .str (if key = "log_level" then capitals name else name)
  | other => other

/-- Settings that were made of values: they have them all, the name of the level in capitals, and
what is read from them is there. -/
structure MadeOf (value : String → Option Json) (settings : Settings) : Prop where
  fields : ∀ key, settings.fields.lookup key = (value key).map (capitalised key)
  endpoint : value "rpc_endpoint" = some (.str settings.endpoint) ∧ HasScheme settings.endpoint
  mainEndpoint : value "mainnet_rpc_endpoint" = some (.str settings.mainEndpoint) ∧
    HasScheme settings.mainEndpoint
  retries : value "max_retries" = some (.int settings.retries) ∧ 1 ≤ settings.retries ∧
    settings.retries ≤ 10
  commitment : value "commitment" = some (.str settings.commitment) ∧
    settings.commitment ∈ commitments
  level : settings.fields.lookup "log_level" = some (.str settings.level.name) ∧
    Level.ofName? settings.level.name = some settings.level

theorem lookup_setField_level {name : String} {level : Level}
    (held : fields.lookup "log_level" = some (.str name))
    (spelled : capitals name = level.name) (key : String) :
    (Json.setField "log_level" (.str level.name) fields).lookup key =
      (fields.lookup key).map (capitalised key) := by
  by_cases same : key = "log_level"
  · subst same
    rw [Json.lookup_setField_self, held, ← spelled]
    rfl
  · rw [Json.lookup_setField_of_ne same]
    cases fields.lookup key with
    | none => rfl
    | some value =>
        cases value with
        | str text =>
            rw [Option.map_some, capitalised, if_neg same]
        | null | bool _ | int _ | float _ | arr _ | obj _ => rfl

theorem decides_check :
    Decides (Passes (fields.lookup ·)) (MadeOf (fields.lookup ·)) (check fields) := by
  refine ((decides_checkEndpoint fields "rpc_endpoint").bind fun endpoint _ =>
    (decides_checkEndpoint fields "mainnet_rpc_endpoint").bind fun mainEndpoint _ =>
      (decides_checkRetries fields).bind fun retries _ =>
          (decides_checkCommitment fields).bind fun commitment _ =>
        (decides_checkLevel fields).bind fun level _ => Decides.value _).mono ?_ ?_
  · rw [and_true]
    constructor
    · rintro ⟨endpoint, mainEndpoint, retries, commitment, level⟩
      exact ⟨endpoint, mainEndpoint, retries, commitment, level⟩
    · rintro ⟨endpoint, mainEndpoint, retries, commitment, level⟩
      exact ⟨endpoint, mainEndpoint, retries, commitment, level⟩
  · rintro _ ⟨endpoint, first, mainEndpoint, second, retries, third, commitment, fourth, level,
      fifth, rfl⟩
    obtain ⟨name, held, spelled⟩ := fifth
    exact {
      fields := lookup_setField_level fields held spelled
      endpoint := first
      mainEndpoint := second
      retries := third
      commitment := ⟨fourth.2, fourth.1⟩
      level := ⟨Json.lookup_setField_self _ _ _, ofName?_eq_some.mpr rfl⟩ }

/-! ### Loading -/

section Loading

open Written

variable {readers : Readers} {directory : Directory} {path : String}
variable {written : WrittenFields} {cells : Cells}

theorem mappingIn_of_text {text : String} (held : directory.readText path = .ok text)
    (read : readers.document text = .ok (.mapping written cells)) :
    mappingIn readers directory path = .ok (written, cells) := by
  rw [mappingIn, held, ok_bind, read]
  rfl

theorem isEmpty_of_mappingIn (held : mappingIn readers directory path = .ok (written, cells)) :
    path.isEmpty = false := by
  cases empty : path.isEmpty with
  | false => rfl
  | true =>
      obtain rfl : path = "" := String.isEmpty_iff.mp empty
      cases held

theorem load_of_mappingIn (environment : Environment)
    (held : mappingIn readers directory path = .ok (written, cells))
    (plain : written.lookup "env_file" = none) :
    loadWith readers directory environment (some path) =
      environment.resolveWritten cells written >>= fun resolved =>
        check (laid environment (fieldsOf resolved written)) := by
  have same : environmentFor readers directory environment path (fieldsOf cells written) =
      .ok environment := by
    unfold environmentFor field
    rw [lookup_fieldsOf, plain]
    rfl
  rw [loadWith, merged, own, isEmpty_of_mappingIn held, if_neg Bool.false_ne_true, fromFile, held,
    ok_bind]
  dsimp only
  rw [same, ok_bind]
  cases environment.resolveWritten cells written <;> rfl

theorem decides_load (environment : Environment)
    (held : mappingIn readers directory path = .ok (written, cells))
    (distinct : (written.map Prod.fst).Nodup) (plain : written.lookup "env_file" = none) :
    Decides (environment.DefinesAlong (reachedIn written) cells ∧
        Passes (chosen environment (environment.settledFields written cells)))
      (MadeOf (chosen environment (environment.settledFields written cells)))
      (loadWith readers directory environment (some path)) := by
  have keys : ((environment.settledFields written cells).map Prod.fst).Nodup := by
    rw [Environment.settledFields, keys_fieldsOf]
    exact distinct
  have checks : ∀ resolved, resolved = environment.settled (reachedIn written) cells →
      Decides (Passes (chosen environment (environment.settledFields written cells)))
        (MadeOf (chosen environment (environment.settledFields written cells)))
        (check (laid environment (fieldsOf resolved written))) := by
    rintro _ rfl
    rw [← funext (lookup_laid keys environment)]
    exact decides_check _
  rw [load_of_mappingIn environment held plain, environment.resolveWritten_eq_foldlM]
  refine ((environment.decides_foldlM _ cells).bind checks).mono Iff.rfl ?_
  rintro settings ⟨_, -, made⟩
  exact made

end Loading

theorem exists_client {settings : Settings} (positive : 1 ≤ settings.retries) (endpoint : String) :
    ∃ client, Client.make endpoint settings.commitment settings.retries = .ok client := by
  rw [Client.make, if_neg (by omega)]
  exact ⟨_, rfl⟩

/-- A file of settings that names no file of assignments loads exactly where all the references that
resolution comes to name variables and the chosen values pass. The settings then have the chosen
value for every key, the name of the level in capitals, and a client can be made for either
endpoint. Otherwise loading is refused. Where no mapping is shared, the references are those of the
document, and they are replaced once. -/
theorem load_iff_passes (readers : Readers) (directory : Directory) (environment : Environment)
    (path : String) (written : WrittenFields) (cells : Cells)
    (held : mappingIn readers directory path = .ok (written, cells))
    (distinct : (written.map Prod.fst).Nodup) (plain : written.lookup "env_file" = none) :
    ((∃ settings, loadWith readers directory environment (some path) = .ok settings) ↔
      environment.DefinesAlong (Written.reachedIn written) cells ∧
        Passes (chosen environment (environment.settledFields written cells))) ∧
    (∀ settings, loadWith readers directory environment (some path) = .ok settings →
      MadeOf (chosen environment (environment.settledFields written cells)) settings ∧
      ∀ endpoint ∈ [settings.endpoint, settings.mainEndpoint], ∃ client,
        Client.make endpoint settings.commitment settings.retries = .ok client) ∧
    (¬ (environment.DefinesAlong (Written.reachedIn written) cells ∧
        Passes (chosen environment (environment.settledFields written cells))) →
      ∃ fault, loadWith readers directory environment (some path) = .error fault ∧
        fault.isRefusal = true) ∧
    (Written.Unshared written →
      (environment.DefinesAlong (Written.reachedIn written) cells ↔
        environment.Defines (.obj (Written.fieldsOf cells written))) ∧
      environment.settledFields written cells =
        environment.replacedFields (Written.fieldsOf cells written)) := by
  have decides := decides_load environment held distinct plain
  refine ⟨decides.exists_ok_iff, fun settings loaded => ?_, decides.refused, fun unshared =>
    ⟨environment.definesAlong_iff_of_unshared unshared cells,
      environment.settledFields_of_unshared unshared cells⟩⟩
  have made := decides.right_of_ok loaded
  exact ⟨made, fun endpoint _ => exists_client made.retries.2.1 endpoint⟩

theorem document_of_writtenAt {text : String} {written : WrittenFields} {sheet : Sheet}
    (filled : (Json.skipSpace text.toList).isEmpty = false)
    (read : Plain.writtenAt (2 * (Json.skipSpace text.toList).length + 2) Sheet.empty
      (Json.skipSpace text.toList) = .ok (.mapping written, sheet, [])) :
    Readers.plain.document text = .ok (.mapping written sheet.cells) := by
  show Plain.document text = _
  rw [Plain.document]
  dsimp only
  rw [if_neg (by rw [filled]; exact Bool.false_ne_true), read]
  rfl

def referringText : String :=
  "\x7b\"rpc_endpoint\": \"$\x7bRPC\x7d\", \"log_level\": \"debug\", " ++
    "\"owner\": \x7b\"name\": \"$\x7bNAME\x7d\"\x7d\x7d"

def referringWritten : WrittenFields :=
  [("rpc_endpoint", .text 0), ("log_level", .text 1), ("owner", .mapping [("name", .text 2)])]

def referringSheet : Sheet := ⟨["$\x7bRPC\x7d", "debug", "$\x7bNAME\x7d"], []⟩

def referringDirectory : Directory := ⟨[(["settings.json"], .file (.text referringText))]⟩

/-- One variable spells a reference to another one, and one overrides an endpoint. -/
def referredEnvironment : Environment :=
  [("RPC", "https://node"), ("NAME", "$\x7bRPC\x7d"),
    ("SOLTNET_MAINNET_RPC_ENDPOINT", "http://main")]

theorem mappingIn_referringDirectory :
    mappingIn .plain referringDirectory "settings.json" =
      .ok (referringWritten, referringSheet.cells) := by
  have held : referringDirectory.readText "settings.json" = .ok referringText :=
    Directory.readText_of_text rfl rfl (by decide +kernel)
  have read : Plain.writtenAt (2 * (Json.skipSpace referringText.toList).length + 2) Sheet.empty
      (Json.skipSpace referringText.toList) =
          .ok (.mapping referringWritten, referringSheet, []) := by
    cbv
  exact mappingIn_of_text held (document_of_writtenAt (by decide +kernel) read)

/-- The endpoints come from the variables, the level is put in capitals, and a reference that came
out of a variable stays as it is. Without the variables the same file is refused. -/
theorem load_referringDirectory :
    mappingIn .plain referringDirectory "settings.json" =
      .ok (referringWritten, referringSheet.cells) ∧
    (referringWritten.map Prod.fst).Nodup ∧ referringWritten.lookup "env_file" = none ∧
    Written.Unshared referringWritten ∧
    (∃ settings, loadWith .plain referringDirectory referredEnvironment (some "settings.json") =
        .ok settings ∧
      settings.endpoint = "https://node" ∧ settings.mainEndpoint = "http://main" ∧
      settings.fields.lookup "log_level" = some (.str "DEBUG") ∧
      settings.fields.lookup "owner" = some (.obj [("name", .str "$\x7bRPC\x7d")])) ∧
    ∃ fault, loadWith .plain referringDirectory [] (some "settings.json") = .error fault ∧
      fault.isRefusal = true := by
  have held := mappingIn_referringDirectory
  have distinct : (referringWritten.map Prod.fst).Nodup := by decide
  have plain : referringWritten.lookup "env_file" = none := rfl
  have unshared : Written.Unshared referringWritten := ⟨by decide, by decide⟩
  obtain ⟨loads, made, -, once⟩ :=
    load_iff_passes .plain referringDirectory referredEnvironment _ _ _ held distinct plain
  obtain ⟨-, -, refused, -⟩ :=
    load_iff_passes .plain referringDirectory [] _ _ _ held distinct plain
  obtain ⟨along, fields⟩ := once unshared
  have defined : referredEnvironment.Defines
      (.obj (Written.fieldsOf referringSheet.cells referringWritten)) := by
    rw [← along, ← (referredEnvironment.decides_foldlM _ _).exists_ok_iff]
    exact ⟨_, rfl⟩
  rw [fields] at loads made
  have passes : Passes (chosen referredEnvironment (referredEnvironment.replacedFields
      (Written.fieldsOf referringSheet.cells referringWritten))) := {
    endpoint := ⟨"https://node", rfl, .inr (by decide)⟩
    mainEndpoint := ⟨"http://main", rfl, .inl (by decide)⟩
    retries := ⟨3, rfl, by decide, by decide⟩
    commitment := ⟨"confirmed", by decide, rfl⟩
    level := ⟨"debug", rfl, by decide +kernel⟩ }
  obtain ⟨settings, loaded⟩ := loads.mpr ⟨along.mpr defined, passes⟩
  have found := (made settings loaded).1
  have capitals : capitals "debug" = "DEBUG" := by decide +kernel
  refine ⟨held, distinct, plain, unshared, ⟨settings, loaded, ?_, ?_, ?_, found.fields "owner"⟩,
    refused ?_⟩
  · exact (Json.str.inj (Option.some.inj found.endpoint.1)).symm
  · exact (Json.str.inj (Option.some.inj found.mainEndpoint.1)).symm
  · rw [← capitals]
    exact found.fields "log_level"
  · rintro ⟨undefined, -⟩
    have absent := undefined 0 0 (by decide) "RPC" .text
    cases absent

/-- Settings in which two fields share a mapping with a reference. -/
def sharedText : String :=
  "\x7b\"a\": &x \x7b\"v\": \"$\x7bA\x7d\"\x7d, \"b\": *x\x7d"

def sharedWritten : WrittenFields :=
  [("a", .mapping [("v", .text 0)]), ("b", .mapping [("v", .text 0)])]

def sharedSheet : Sheet := ⟨["$\x7bA\x7d"], [("x", .mapping [("v", .text 0)])]⟩

def sharedDirectory : Directory := ⟨[(["c.yaml"], .file (.text sharedText))]⟩

/-- Every reference of the document names a variable and what comes of replacing them once passes,
but the shared mapping is gone through twice, and the reference that came out of the variable is
refused. -/
theorem load_sharedDirectory :
    mappingIn .plain sharedDirectory "c.yaml" = .ok (sharedWritten, sharedSheet.cells) ∧
    Environment.Defines [("A", "$\x7bB\x7d")]
      (.obj (Written.fieldsOf sharedSheet.cells sharedWritten)) ∧
    Passes (chosen [("A", "$\x7bB\x7d")] (Environment.replacedFields [("A", "$\x7bB\x7d")]
      (Written.fieldsOf sharedSheet.cells sharedWritten))) ∧
    loadWith .plain sharedDirectory [("A", "$\x7bB\x7d")] (some "c.yaml") =
      .error (.settings (.variable "B")) := by
  have text : sharedDirectory.readText "c.yaml" = .ok sharedText :=
    Directory.readText_of_text rfl rfl (by decide +kernel)
  have read : Plain.writtenAt (2 * (Json.skipSpace sharedText.toList).length + 2) Sheet.empty
      (Json.skipSpace sharedText.toList) = .ok (.mapping sharedWritten, sharedSheet, []) := by
    cbv
  have held := mappingIn_of_text text (document_of_writtenAt (by decide +kernel) read)
  refine ⟨held, fun name refers => ?_, ?_, ?_⟩
  · obtain ⟨cell, member, spelled⟩ := (Environment.refers_fieldsOf_iff name sharedWritten).mp refers
    obtain rfl : cell = 0 := by
      simpa [sharedWritten, Written.reachedIn, Written.reached] using member
    obtain rfl : name = "A" := by
      have found := Environment.reference?_eq_some.mpr spelled
      exact (Option.some.inj (found.symm.trans (by decide +kernel)))
    rfl
  · exact {
      endpoint := ⟨"http://127.0.0.1:8899", rfl, .inl (by decide)⟩
      mainEndpoint := ⟨"http://api.mainnet-beta.solana.com", rfl, .inl (by decide)⟩
      retries := ⟨3, rfl, by decide, by decide⟩
      commitment := ⟨"confirmed", by decide, rfl⟩
      level := ⟨"INFO", rfl, by decide +kernel⟩ }
  · rw [load_of_mappingIn _ held rfl]
    rfl

end Settings

end TxTemplate
