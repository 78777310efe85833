import TxTemplate.CommandLine.Mentions
import TxTemplate.CommandLine.Run
import TxTemplate.Node.Recording

set_option autoImplicit false

/-! The program. It works on the files that its command line and the documents behind it mention,
and plays against the recording of a node in the file that the variable `TXTEMPLATE_NODE` names. A
run that calls a node changes nothing where there is no recording. -/

namespace TxTemplate.Main

def readFile? (path : String) : IO (Option String) := do
  try
    let text ← IO.FS.readFile path
    pure (some text)
  catch _ => pure none

def gather : Nat → List String → Session → IO Session
  | 0, _, session => pure session
  | _ + 1, [], session => pure session
  | count + 1, path :: rest, session => do
    if session.directory.has path then gather count rest session
    else
      match ← readFile? path with
      | none => gather count rest session
      | some text =>
        let found := Mentions.ofText text
        let mut environment := session.environment
        for name in Mentions.variableNames found do
          if let some value ← IO.getEnv name then
            environment := Json.setField name value environment
        gather count (rest ++ Mentions.paths path found)
          { session with
            directory := session.directory.addFile path (.text text)
            environment := environment }

def overrides : IO Environment := do
  let mut environment : Environment := []
  for rule in Settings.overrides do
    if let some value ← IO.getEnv rule.1 then
      environment := Json.setField rule.1 value environment
  pure environment

def recordedNode : IO (Option Node) := do
  match ← IO.getEnv "TXTEMPLATE_NODE" with
  | none => pure none
  | some path =>
    let text ← IO.FS.readFile path
    match Json.read text with
    | .ok document => pure (some (Recording.node Recording.kindNamed document))
    | .error fault => throw (IO.userError fault.message)

def writeChanges (before after : Directory) : IO Unit := do
  for (place, content) in after.files do
    if before.entry? place != some (.file content) then
      let path := String.intercalate "/" place
      let folder := Path.folderOf path
      if !folder.isEmpty then IO.FS.createDirAll folder
      match content with
      | .text text => IO.FS.writeFile path text
      | .binary bytes => IO.FS.writeBinFile path (ByteArray.mk bytes.toArray)

def finish : CommandLine.Ending → IO UInt32
  | .done => pure 0
  | .exit code => do
    if code ≠ 1 then
      IO.eprintln ("commands: " ++ String.intercalate ", " (CommandLine.commands.map Prod.fst))
    pure (UInt32.ofNat code)
  | .fault fault => do
    IO.eprintln fault.message
    pure 1

def pathLimit : Nat := 100000

def mentioned (words : List String) : List String :=
  match CommandLine.parse words with
  | .ok invocation => Mentions.texts invocation.toJson
  | .error _ => []

def run (words : List String) : IO UInt32 := do
  let recorded ← recordedNode
  let start := Session.start .empty (← overrides) (recorded.getD .silent)
  let before ← gather pathLimit (mentioned words) start
  let (ending, after) := (CommandLine.run words).run before
  if recorded.isNone && !after.calls.isEmpty then
    IO.eprintln "no recording of a node: set TXTEMPLATE_NODE"
    pure 1
  else
    for note in after.notes do
      IO.println note.fileLine
    writeChanges before.directory after.directory
    finish ending

end TxTemplate.Main

def main (words : List String) : IO UInt32 := TxTemplate.Main.run words
