import TxTemplate.Journal
import TxTemplate.Node.Script
import TxTemplate.Settings.Plain
import TxTemplate.Storage.Directory

set_option autoImplicit false

/-! What a job works on: files, environment, a node and readers of settings; and what it leaves
there: changed files, calls and notes. An action changes the session step by step, and what it did
before a fault stays done. -/

namespace TxTemplate

structure Session where
  directory : Directory
  environment : Environment
  readers : Readers
  node : Node
  connected : Bool
  calls : List Call
  notes : List Note
  threshold : Level
  logPlace : Option Place

namespace Session

def start (directory : Directory) (environment : Environment) (node : Node) : Session :=
  ⟨directory, environment, .plain, node, false, [], [], .info, none⟩

def withLine (content : Content) (line : String) : Content :=
  match content with
  | .text text => .text (text ++ line ++ "\n")
  | .binary bytes => .binary (bytes ++ Utf8.bytes (line ++ "\n"))

def logLine (directory : Directory) (place : Place) (line : String) : Directory :=
  match directory.entry? place with
  | some (.file content) => directory.put place (.file (withLine content line))
  | _ => directory.put place (.file (withLine (.text "") line))

def record (session : Session) (note : Note) : Session :=
  if note.level.rank < session.threshold.rank then session
  else
    { session with
      notes := session.notes ++ [note]
      directory := match session.logPlace with
        | some place => logLine session.directory place note.fileLine
        | none => session.directory }

def call (session : Session) (call : Call) : Session :=
  { session with calls := session.calls ++ [call] }

end Session

/-- A step of a job: it may fail, and leaves the session changed in either case. -/
abbrev Action := ExceptT Fault (StateM Session)

namespace Action

variable {α : Type}

def note (topic : Topic) (level : Level) (text : String) : Action Unit :=
  modify fun session => session.record ⟨topic, level, text⟩

def call (call : Call) : Action Unit := modify fun session => session.call call

def ofExcept (outcome : Except Fault α) : Action α :=
  match outcome with
  | .ok value => pure value
  | .error fault => throw fault

def ofTraced (work : Traced α) : Action α := do
  modify fun session => work.notes.foldl Session.record session
  ofExcept work.outcome

def files : Action Directory := do
  let session ← get
  pure session.directory

def changeFiles (change : Directory → Except Fault Directory) : Action Unit := do
  let changed ← ofExcept (change (← files))
  modify fun session => { session with directory := changed }

/-- Change the files by work that leaves notes; the notes follow the change. -/
def changeFilesTraced (change : Directory → Traced Directory) : Action Unit := do
  let work := change (← files)
  match work.outcome with
  | .ok changed => modify fun session => { session with directory := changed }
  | .error _ => pure ()
  discard (ofTraced work)

def write (path : String) (content : Content) : Action Unit :=
  changeFiles fun directory => directory.write path content

end Action

end TxTemplate
