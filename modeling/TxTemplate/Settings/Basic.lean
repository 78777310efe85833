import TxTemplate.Settings.Environment

set_option autoImplicit false

/-! Settings: defaults, under the fields of a file, under variables of the environment. What comes
of them is checked as a whole. Fields that no rule speaks of are kept. -/

namespace TxTemplate

structure Settings where
  endpoint : String
  mainEndpoint : String
  commitment : String
  retries : Nat
  level : Level
  fields : Fields

namespace Settings

def defaults : Fields :=
  [("rpc_endpoint", .str "http://127.0.0.1:8899"),
   ("mainnet_rpc_endpoint", .str "http://api.mainnet-beta.solana.com"),
   ("commitment", .str "confirmed"), ("output_path", .str "."), ("log_level", .str "INFO"),
   ("log_file", .null), ("max_retries", .int 3)]

def overrides : List (String × String) :=
  [("SOLTNET_RPC_ENDPOINT", "rpc_endpoint"),
    ("SOLTNET_MAINNET_RPC_ENDPOINT", "mainnet_rpc_endpoint")]

def commitments : List String := ["processed", "confirmed", "finalized"]

def schemes : List String := ["http://", "https://"]

def field (fields : Fields) (key : String) : Json := (fields.lookup key).getD .null

def checkEndpoint (fields : Fields) (key : String) : Except Fault String :=
  match field fields key with
  | .str endpoint =>
    if schemes.any fun scheme => scheme.toList.isPrefixOf endpoint.toList then .ok endpoint
    else .error (.settings (.scheme key))
  | _ => .error (.settings (.scheme key))

def checkRetries (fields : Fields) : Except Fault Nat :=
  match field fields "max_retries" with
  | .int n => if 1 ≤ n ∧ n ≤ 10 then .ok n.toNat else .error (.settings .retriesRange)
  | _ => .error (.settings .retriesKind)

def checkCommitment (fields : Fields) : Except Fault String :=
  let fault : Fault := .settings (.choice "commitment" commitments)
  match field fields "commitment" with
  | .str commitment => if commitments.contains commitment then .ok commitment else .error fault
  | _ => .error fault

/-- The capital of a letter in the names of levels. The dotless letter shares its capital with the
dotted one. -/
def capital (c : Char) : Char := if c = 'ı' then 'I' else c.toUpper

def capitals (name : String) : String := name.map capital

def checkLevel (fields : Fields) : Except Fault Level :=
  let fault : Fault := .settings (.choice "log_level" (Level.all.map Level.name))
  match field fields "log_level" with
  | .str name =>
    match Level.ofName? (capitals name) with
    | some level => .ok level
    | none => .error fault
  | _ => .error fault

/-- Check fields: the endpoints first, then the attempts, the commitment and the level. -/
def check (fields : Fields) : Except Fault Settings := do
  let endpoint ← checkEndpoint fields "rpc_endpoint"
  let mainEndpoint ← checkEndpoint fields "mainnet_rpc_endpoint"
  let retries ← checkRetries fields
  let commitment ← checkCommitment fields
  let level ← checkLevel fields
  pure ⟨endpoint, mainEndpoint, commitment, retries, level,
    Json.setField "log_level" (.str level.name) fields⟩

/-- The mapping that a file of settings holds; a document that is empty holds an empty one. -/
def mappingIn (readers : Readers) (directory : Directory) (path : String) :
    Except Fault (WrittenFields × Cells) := do
  let text ← directory.readText path
  let document ← (readers.document text).mapError fun cause => Fault.settings (.unread cause)
  match document with
  | .mapping fields cells => pure (fields, cells)
  | .other filled =>
      if filled then throw (.settings (.mapping path)) else pure ([], Sheet.empty.cells)

/-- The environment with the assignments of the file that the fields name. The file is looked for
beside the settings, then from the top. -/
def environmentFor (readers : Readers) (directory : Directory) (environment : Environment)
    (path : String) (fields : Fields) : Except Fault Environment :=
  let named := field fields "env_file"
  if named.isTruthy then
    match named with
    | .str name =>
      let beside := Path.join (Path.folderOf path) name
      environment.withFile readers directory (if directory.has beside then beside else name)
    | _ => .error (.shape .wrongKind)
  else .ok environment

/-- The fields of a file, resolved, and the environment that they were resolved in. -/
def fromFile (readers : Readers) (directory : Directory) (environment : Environment)
    (path : String) : Except Fault (Fields × Environment) := do
  let (written, cells) ← mappingIn readers directory path
  let fields := Written.fieldsOf cells written
  let environment ← environmentFor readers directory environment path fields
  let resolved ← environment.resolveWritten cells written
  pure (Written.fieldsOf resolved written, environment)

def override (environment : Environment) (fields : Fields) (rule : String × String) : Fields :=
  match environment.value? rule.1 with
  | some value => if value.isEmpty then fields else Json.setField rule.2 (.str value) fields
  | none => fields

def own (readers : Readers) (directory : Directory) (environment : Environment) :
    Option String → Except Fault (Fields × Environment)
  | some path =>
    if path.isEmpty then .ok ([], environment) else fromFile readers directory environment path
  | none => .ok ([], environment)

def merged (readers : Readers) (directory : Directory) (environment : Environment)
    (path : Option String) : Except Fault Fields := do
  let (fields, environment) ← own readers directory environment path
  pure (overrides.foldl (override environment) (Json.setFields defaults fields))

def loadWith (readers : Readers) (directory : Directory) (environment : Environment)
    (path : Option String) : Except Fault Settings := do
  check (← merged readers directory environment path)

def load (directory : Directory) (environment : Environment) (path : Option String) :
    Except Fault Settings := loadWith .plain directory environment path

def folder (settings : Settings) : Json := field settings.fields "output_path"

def logFile (settings : Settings) : Json := field settings.fields "log_file"

end Settings

end TxTemplate
