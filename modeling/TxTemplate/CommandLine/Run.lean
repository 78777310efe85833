import TxTemplate.CommandLine.Command

set_option autoImplicit false

/-! A run of the program: the command line is read, the settings are loaded, notes are sent where
the settings say, and the command is carried out. Faults that the program knows of end in a note
and an exit code; all others end the run as they are. -/

namespace TxTemplate.CommandLine

inductive Ending where
  | done
  | exit (code : Nat)
  | fault (fault : Fault)

def collapse (path : String) : Option (List String) :=
  (Path.steps path.toList).foldlM
    (fun names step =>
      if step = [] ∨ step = ['.'] then some names
      else if step = ['.', '.'] then if names = [] then none else some names.dropLast
      else some (names ++ [String.ofList step]))
    []

def openLog (directory : Directory) (path : String) : Except StorageFault (Directory × Place) := do
  if path.toList.contains (Char.ofNat 0) then throw .nulInPath
  if path.toList.head? = some '/' then throw (.absent path)
  match collapse path with
  | none => throw (.absent path)
  | some [] => throw (.directory path)
  | some names =>
    let place ← directory.locate (String.intercalate "/" names)
    match directory.entry? place with
    | some .folder => throw (.directory path)
    | some (.file _) => pure (directory, place)
    | none => pure (directory.put place (.file (.text "")), place)

def startLog (file : Json) : Action Unit := do
  if file.isTruthy then
    match file with
    | .str path => do
      let (directory, place) ← (openLog (← Action.files) path).mapError Fault.storage
      modify fun session => { session with directory := directory, logPlace := some place }
    | _ => throw (.shape .wrongKind)

def perform (settings : Settings) (invocation : Invocation) : Action Unit := do
  let command ← Command.ofInvocation invocation
  command.perform settings

def report (text : String) : StateM Session Ending := do
  modify fun session => session.record ⟨.command, .error, text⟩
  pure (.exit 1)

def runWith (settings : Settings) (invocation : Invocation) : StateM Session Ending := do
  modify fun session => { session with threshold := settings.level }
  match ← (startLog settings.logFile).run with
  | .error fault => pure (.fault fault)
  | .ok () =>
    match ← (perform settings invocation).run with
    | .ok () => pure .done
    | .error fault =>
      if fault.isReported then report (invocation.command ++ " failed: " ++ fault.told.message)
      else pure (.fault fault)

def run (texts : List String) : StateM Session Ending := do
  match parse texts with
  | .error refusal => pure (.exit refusal.code)
  | .ok invocation =>
    let session ← get
    match Settings.loadWith session.readers session.directory session.environment
      invocation.config with
    | .ok settings => runWith settings invocation
    | .error fault =>
      if fault.isRefusal || fault.isSystem then report ("Invalid configuration: " ++ fault.message)
      else pure (.fault fault)

end TxTemplate.CommandLine
